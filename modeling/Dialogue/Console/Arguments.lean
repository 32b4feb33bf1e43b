import Dialogue.Text.Basic

/-! The command line: options, their values, and one file of rules. -/
namespace Dialogue.Console

/-- What a run needs to know. -/
structure Settings where
  file : String
  seed? : Option Nat
  topic? : Option String
  trace : Bool
  color : Bool
deriving DecidableEq, Repr

inductive Request where
  | help
  | version
  | talk (settings : Settings)
deriving DecidableEq, Repr

inductive ArgumentFault where
  | missingValue (option : String)
  | invalidSeed (value : String)
  | unknownOption (argument : String)
  | severalFiles
  | noFile
deriving DecidableEq, Repr

structure Draft where
  file? : Option String := none
  seed? : Option Nat := none
  topic? : Option String := none
  trace : Bool := false
  color : Bool := false
deriving DecidableEq, Repr

/-- An unsigned number of 64 bits, with or without a plus sign. -/
def parseSeed? (value : String) : Option Nat :=
  let digits := match value.toList with
    | '+' :: cs => cs
    | cs => cs
  (Text.number? 10 digits).filter (· < UInt64.size)

/-- The text without any number of copies of `start` in front. -/
def dropCopies (start cs : List Char) : List Char :=
  if _h : start ≠ [] ∧ start.isPrefixOf cs then dropCopies start (cs.drop start.length) else cs
termination_by cs.length
decreasing_by
  have h₁ := List.length_pos_iff.2 _h.1
  have h₂ := (List.isPrefixOf_iff_prefix.1 _h.2).length_le
  rw [List.length_drop]
  omega

/-- The value of an argument of the form `option=value`. -/
def joinedValue? (option argument : String) : Option String :=
  let start := option.toList ++ ['=']
  if start.isPrefixOf argument.toList then some (String.ofList (dropCopies start argument.toList))
  else none

inductive ValueOption where
  | aiml
  | seed
  | topic
deriving DecidableEq, Repr

namespace ValueOption

def all : List ValueOption := [.aiml, .seed, .topic]

def name : ValueOption → String
  | .aiml => "--aiml"
  | .seed => "--seed"
  | .topic => "--topic"

/-- The option of an argument that stands before its value. -/
def ofArgument? (argument : String) : Option ValueOption :=
  if argument = "-a" then some .aiml else all.find? (·.name == argument)

/-- The option and value of an argument that holds both. -/
def ofJoined? (argument : String) : Option (ValueOption × String) :=
  all.findSome? fun o => (joinedValue? o.name argument).map (o, ·)

end ValueOption

namespace Draft

/-- Takes the value of an option; a later value replaces an earlier one. -/
def set (d : Draft) (o : ValueOption) (value : String) : Except ArgumentFault Draft :=
  match o with
  | .aiml => .ok { d with file? := some value }
  | .seed =>
    match parseSeed? value with
    | some n => .ok { d with seed? := some n }
    | none => .error (.invalidSeed value)
  | .topic => .ok { d with topic? := some value }

/-- Takes an argument without a value: a switch, or a file if none was named before. -/
def single (d : Draft) (argument : String) : Except ArgumentFault Draft :=
  if argument = "--color" then .ok { d with color := true }
  else if argument = "--no-color" then .ok { d with color := false }
  else if argument = "--trace" then .ok { d with trace := true }
  else
    match ValueOption.ofJoined? argument with
    | some (o, value) => d.set o value
    | none =>
      if argument.toList.head? = some '-' then .error (.unknownOption argument)
      else if d.file?.isSome then .error .severalFiles
      else .ok { d with file? := some argument }

/-- Reads arguments from the left; help and version end the reading. -/
def read (d : Draft) : List String → Except ArgumentFault Request
  | [] =>
    match d.file? with
    | none => .error .noFile
    | some file =>
      .ok (.talk { file, seed? := d.seed?, topic? := d.topic?, trace := d.trace, color := d.color })
  | argument :: rest =>
    if argument = "-h" ∨ argument = "--help" then .ok .help
    else if argument = "-V" ∨ argument = "--version" then .ok .version
    else
      match ValueOption.ofArgument? argument, rest with
      | some o, [] => .error (.missingValue o.name)
      | some o, value :: rest => do
        let d ← d.set o value
        d.read rest
      | none, rest => do
        let d ← d.single argument
        d.read rest

end Draft

/-- Reads a command line; `color` says whether output is coloured unless an option decides it. -/
def Request.read (color : Bool) (arguments : List String) : Except ArgumentFault Request :=
  Draft.read { color } arguments

end Dialogue.Console
