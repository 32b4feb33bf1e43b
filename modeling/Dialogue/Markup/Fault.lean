/-! Why a source text is no document. Positions count bytes of UTF-8. -/
namespace Dialogue.Markup

/-- Markup whose end is missing, or that starts like no markup at all. -/
inductive SyntaxFault where
  | unknownMarkup
  | tagNotClosed
  | commentNotClosed
  | cdataNotClosed
  | doctypeNotClosed
  | instructionNotClosed
deriving DecidableEq, Repr

def SyntaxFault.message : SyntaxFault → String
  | .unknownMarkup => "unknown or missed symbol in markup"
  | .tagNotClosed => "tag not closed: `>` not found before end of input"
  | .commentNotClosed => "comment not closed: `-->` not found before end of input"
  | .cdataNotClosed => "CDATA not closed: `]]>` not found before end of input"
  | .doctypeNotClosed => "DOCTYPE not closed: `>` not found before end of input"
  | .instructionNotClosed =>
    "processing instruction or xml declaration not closed: `?>` not found before end of input"

/-- Markup that is complete and stands where it may not stand. -/
inductive FormFault where
  | missingDoctypeName
  | mismatchedClose (expected found : String)
  | unmatchedClose (name : String)
deriving DecidableEq, Repr

def FormFault.message : FormFault → String
  | .missingDoctypeName => "`<!DOCTYPE>` declaration does not contain a name of a document type"
  | .mismatchedClose expected found =>
    "expected `</" ++ expected ++ ">`, but `</" ++ found ++ ">` was found"
  | .unmatchedClose name => "close tag `</" ++ name ++ ">` does not match any open tag"

/-- Positions are counted from the byte after `<`. -/
inductive AttributeFault where
  | expectedEquals (position : Nat)
  | expectedValue (position : Nat)
  | unquotedValue (position : Nat)
  | expectedQuote (position : Nat) (quote : Char)
  | duplicated (position previous : Nat)
deriving DecidableEq, Repr

def AttributeFault.position : AttributeFault → Nat
  | .expectedEquals p | .expectedValue p | .unquotedValue p | .expectedQuote p _ | .duplicated p _ => p

def AttributeFault.reason : AttributeFault → String
  | .expectedEquals _ => "attribute key must be directly followed by `=` or space"
  | .expectedValue _ => "`=` must be followed by an attribute value"
  | .unquotedValue _ => "attribute value must be enclosed in `\"` or `'`"
  | .expectedQuote _ quote => "missing closing quote `" ++ quote.toString ++ "` in attribute value"
  | .duplicated _ previous =>
    "duplicated attribute, previous declaration at position " ++ toString previous

def AttributeFault.message (f : AttributeFault) : String :=
  "position " ++ toString f.position ++ ": " ++ f.reason

/-- Why the number of a character reference names no character. -/
inductive NumberFault where
  | signed
  | noDigits
  | invalidDigit
  | tooLarge
  | null
  | notACodePoint (n : Nat)
deriving DecidableEq, Repr

def NumberFault.message : NumberFault → String
  | .signed => "unexpected number sign"
  | .noDigits => "cannot parse integer from empty string"
  | .invalidDigit => "invalid digit found in string"
  | .tooLarge => "number too large to fit in target type"
  | .null => "0x0 character is not permitted in XML"
  | .notACodePoint n => "`" ++ toString n ++ "` is not a valid codepoint"

/-- Positions are counted inside the run of text or the attribute value. -/
inductive ReferenceFault where
  | unterminated (start stop : Nat)
  | unknownEntity (start stop : Nat) (name : String)
  | number (fault : NumberFault)
deriving DecidableEq, Repr

def ReferenceFault.message : ReferenceFault → String
  | .unterminated start stop =>
    "Error while escaping character at range " ++ toString start ++ ".." ++ toString stop ++
      ": Cannot find ';' after '&'"
  | .unknownEntity start stop name =>
    "at " ++ toString start ++ ".." ++ toString stop ++ ": unrecognized entity `" ++ name ++ "`"
  | .number fault => "invalid character reference: " ++ fault.message

/-- Why a source text cannot be read as markup. -/
inductive ReadFault where
  | badSyntax (fault : SyntaxFault)
  | illFormed (fault : FormFault)
  | attribute (fault : AttributeFault)
  | reference (fault : ReferenceFault)
deriving DecidableEq, Repr

def ReadFault.message : ReadFault → String
  | .badSyntax f => "syntax error: " ++ f.message
  | .illFormed f => "ill-formed document: " ++ f.message
  | .attribute f => "error while parsing attribute: " ++ f.message
  | .reference f => f.message

/-- Why readable markup is not one tree, or not a tree of rules. -/
inductive DocumentFault where
  | unexpectedClose (name : String)
  | mismatchedClose (expected found : String)
  | unclosed (name : String)
  | noRoot
  | secondRoot (name : String)
  | wrongRoot (name : String)
  | unnamedTopic
deriving DecidableEq, Repr

def DocumentFault.message : DocumentFault → String
  | .unexpectedClose name => "unexpected closing tag </" ++ name ++ ">"
  | .mismatchedClose expected found => "expected </" ++ expected ++ ">, found </" ++ found ++ ">"
  | .unclosed name => "unclosed element <" ++ name ++ ">"
  | .noRoot => "no root element"
  | .secondRoot name => "second root element <" ++ name ++ ">"
  | .wrongRoot name => "expected <aiml> root, found <" ++ name ++ ">"
  | .unnamedTopic => "<topic> without a name attribute"

end Dialogue.Markup
