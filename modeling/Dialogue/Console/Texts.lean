import Dialogue.Console.Arguments

/-! What the program says of itself and of its command line. -/
namespace Dialogue.Console

def versionText : String := "aimlet 0.1.0"

def helpText : String :=
  versionText ++ "

AIML-style pattern interpreter. Reads one message per stdin line and prints
one reply per line.

Usage:
  aimlet [OPTIONS] --aiml <file>
  aimlet [OPTIONS] <file>

Options:
  -a, --aiml <file>          AIML document to load.
  --seed <n>                 Seed for <random> choices (default: from entropy).
  --topic <name>             Topic used until a rule sets the \"topic\" predicate.
  --trace                    Print the match trace for every line.
  --color                    Force ANSI color output.
  --no-color                 Disable ANSI color output.
  -h, --help                 Show this help message.
  -V, --version              Print version information.

Environment:
  AIMLET_LOG                  Log filter (default: warn), e.g. AIMLET_LOG=aimlet=debug

Exit codes:
  0  Success.
  1  Load or I/O error.
  2  Invalid arguments.
"

def ArgumentFault.message : ArgumentFault → String
  | .missingValue option => "error: " ++ option ++ " expects a value"
  | .invalidSeed value => "error: invalid --seed '" ++ value ++ "' (expected an unsigned integer)"
  | .unknownOption argument => "error: unknown option '" ++ argument ++ "'"
  | .severalFiles => "error: aiml file provided multiple times"
  | .noFile => "error: no aiml file provided\n\n" ++ helpText

/-- The text of a source that is no UTF-8. -/
def notText : String := "stream did not contain valid UTF-8"

/-- Why a file of rules cannot be read. -/
inductive FileFault where
  | notFound
  | permissionDenied
  | notADirectory
  | isADirectory
  | nameTooLong
  | notText
  | other (message : String)
deriving DecidableEq, Repr

def FileFault.message : FileFault → String
  | .notFound => "No such file or directory (os error 2)"
  | .permissionDenied => "Permission denied (os error 13)"
  | .notADirectory => "Not a directory (os error 20)"
  | .isADirectory => "Is a directory (os error 21)"
  | .nameTooLong => "File name too long (os error 36)"
  | .notText => Console.notText
  | .other message => message

end Dialogue.Console
