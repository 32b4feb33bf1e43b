import Dialogue.Console.Report
import Dialogue.Console.Texts
import Dialogue.Rules.Loading

/-!
Conversations on a command line. Each line that is not blank is one turn: its reply goes to the output,
its fault to the error output, and what was remembered before a fault stays.
-/
namespace Dialogue.Console

structure Output where
  out : String := ""
  err : String := ""
deriving DecidableEq, Repr

def Output.append (a b : Output) : Output :=
  ⟨a.out ++ b.out, a.err ++ b.err⟩

instance : Append Output := ⟨Output.append⟩

structure Conversation where
  bot : Interpreter
  /-- Where patterns are looked for until a rule sets the predicate `topic`. -/
  firstTopic : String
  trace : Bool
  color : Bool
  predicates : Predicates := .empty
  /-- The last reply. -/
  that : String := ""

namespace Conversation

def topic (c : Conversation) : String :=
  (c.predicates.get? "topic").getD c.firstTopic

/-- Reports how a line is matched, if reports are wanted. -/
def report (timing : List SearchReport → Timing) (c : Conversation) (line : String) :
    Conversation × Output :=
  if c.trace then
    let (details, bot) := c.bot.explain line c.topic c.that
    ({ c with bot }, { err := matchReport c.color line details (timing details.searches) })
  else (c, {})

def reply (c : Conversation) (line : String) : Conversation × Output :=
  let turn := c.bot.respond line c.topic c.that c.predicates
  let c := { c with bot := turn.interpreter, predicates := turn.predicates }
  match turn.result with
  | .ok reply => ({ c with that := reply.text }, { out := reply.text ++ "\n" })
  | .error e => (c, { err := "error: " ++ e.message ++ "\n" })

/-- One line of input; blank lines are passed over. -/
def turn (timing : List SearchReport → Timing) (c : Conversation) (line : String) :
    Conversation × Output :=
  if Text.isBlankLine line then (c, {})
  else
    let (c, reported) := c.report timing line
    let (c, replied) := c.reply line
    (c, reported ++ replied)

end Conversation

structure Ending where
  code : Nat
  output : Output
deriving DecidableEq, Repr

def textOf? (bytes : List UInt8) : Option String :=
  String.fromUTF8? ⟨bytes.toArray⟩

/-- A line without the carriage return before its line feed. -/
def dropReturn (line : List UInt8) : List UInt8 :=
  if line.getLast? = some 13 then line.dropLast else line

/-- The lines of an input; the last need not end in a line feed. -/
def splitLines (bytes : List UInt8) : List (List UInt8) :=
  match _h : bytes with
  | [] => []
  | _ :: _ =>
    let line := bytes.takeWhile (· ≠ 10)
    match _hr : bytes.dropWhile (· ≠ 10) with
    | [] => [line]
    | _ :: rest => dropReturn line :: splitLines rest
termination_by bytes.length
decreasing_by
  have := (List.dropWhile_suffix (fun b : UInt8 => decide (b ≠ 10)) (l := bytes)).length_le
  subst _h
  rw [_hr, List.length_cons] at this
  omega

/-- Answers lines up to the first that is no text. -/
def Conversation.converse (timing : List SearchReport → Timing) (c : Conversation) :
    List (List UInt8) → Ending
  | [] => { code := 0, output := {} }
  | line :: rest =>
    match textOf? line with
    | none => { code := 1, output := { err := "error: " ++ notText ++ "\n" } }
    | some text =>
      let (c, output) := c.turn timing text
      let ending := c.converse timing rest
      { ending with output := output ++ ending.output }

/-- The text of a file that was read, if it is text. -/
def sourceText (content : Except FileFault (List UInt8)) : Except FileFault String :=
  match content with
  | .error fault => .error fault
  | .ok bytes =>
    match textOf? bytes with
    | some source => .ok source
    | none => .error .notText

/-- Loads the rules of a file, or tells why that fails. -/
def loadFile (file : String) (content : Except FileFault (List UInt8)) : Except String Index :=
  match sourceText content with
  | .error fault => .error ("error: failed to read '" ++ file ++ "': " ++ fault.message)
  | .ok source =>
    (Index.ofSource ({} : Options).defaultTopic source).mapError fun e =>
      "error: failed to load '" ++ file ++ "': " ++ e.message

/-- The conversation that settings ask for, with `entropy` in place of a seed that
they do not give. -/
def begin (settings : Settings) (index : Index) (entropy : UInt64) : Conversation × Output :=
  let draws := Draws.ofSeed ((settings.seed?.map Nat.toUInt64).getD entropy)
  let options : Options := {}
  ({ bot := { index, options, draws }
     firstTopic := settings.topic?.getD options.defaultTopic
     trace := settings.trace
     color := settings.color },
   if settings.trace then
     { err := loadedReport settings.color settings.file index.topicCount index.categoryCount }
   else {})

/-- How a program starts: at its end already, or with a conversation. -/
inductive Start where
  | over (ending : Ending)
  | talking (conversation : Conversation) (output : Output)

/-- Starts from a command line, or asks for the file that it names. -/
def start (color : Bool) (arguments : List String)
    (readFile : String → Except FileFault (List UInt8)) (entropy : UInt64) : Start :=
  match Request.read color arguments with
  | .error fault => .over { code := 2, output := { err := fault.message ++ "\n" } }
  | .ok .help => .over { code := 0, output := { out := helpText ++ "\n" } }
  | .ok .version => .over { code := 0, output := { out := versionText ++ "\n" } }
  | .ok (.talk settings) =>
    match loadFile settings.file (readFile settings.file) with
    | .error message => .over { code := 1, output := { err := message ++ "\n" } }
    | .ok index =>
      let (conversation, output) := begin settings index entropy
      .talking conversation output

/-- A whole run, from a command line and an input to its end. -/
def run (timing : List SearchReport → Timing) (color : Bool) (arguments : List String)
    (readFile : String → Except FileFault (List UInt8)) (entropy : UInt64) (input : List UInt8) :
    Ending :=
  match start color arguments readFile entropy with
  | .over ending => ending
  | .talking conversation output =>
    let ending := conversation.converse timing (splitLines input)
    { ending with output := output ++ ending.output }

end Dialogue.Console
