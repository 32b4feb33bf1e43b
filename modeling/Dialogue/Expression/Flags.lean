import Dialogue.Expression.Basic
import Dialogue.Text.Case

/-! The switches of an expression text and what they make of characters, classes and conditions. -/
namespace Dialogue.Expression

structure Flags where
  ignoreCase : Bool := false
  multiLine : Bool := false
  dotAll : Bool := false
  crlf : Bool := false
  unicode : Bool := true
  extended : Bool := false
  preferFew : Bool := false
deriving DecidableEq, Repr

namespace Flags

/-- Turns one switch on or off by its letter. -/
def set? (f : Flags) (on : Bool) : Char → Option Flags
  | 'i' => some { f with ignoreCase := on }
  | 'm' => some { f with multiLine := on }
  | 's' => some { f with dotAll := on }
  | 'R' => some { f with crlf := on }
  | 'u' => some { f with unicode := on }
  | 'x' => some { f with extended := on }
  | 'U' => some { f with preferFew := on }
  | _ => none

/-- ASCII letters of a set in both cases. -/
def closeAsciiCase (s : CharSet) : CharSet :=
  ((List.range 26).filter fun i => s.hasCode (0x41 + i) || s.hasCode (0x61 + i)).foldl
    (fun t i => t.union ⟨[(0x41 + i, 0x41 + i), (0x61 + i, 0x61 + i)]⟩) s

/-- A set under the switches for case and script. -/
def closed (f : Flags) (s : CharSet) : CharSet :=
  if !f.ignoreCase then s else if f.unicode then Text.closeCase s else closeAsciiCase s

/-- The complement of a set, if asked for; outside Unicode it would hold bytes
that are no characters. -/
def negated? (f : Flags) (negated : Bool) (s : CharSet) : Option CharSet :=
  if !negated then some s else if f.unicode then some s.compl else none

/-- A single character; written as a byte outside Unicode, it must be ASCII. -/
def literal? (f : Flags) (asByte : Bool) (c : Char) : Option CharSet :=
  if !f.unicode && asByte && 0x80 ≤ c.toNat then none else some (f.closed (.single c))

/-- A character of a class; outside Unicode, it must be ASCII. -/
def member? (f : Flags) (c : Char) : Option Char :=
  if !f.unicode && 0x80 ≤ c.toNat then none else some c

/-- What `.` matches: outside Unicode it would match bytes that are no characters. -/
def dot? (f : Flags) : Option CharSet :=
  if !f.unicode then none
  else if f.dotAll then some .all
  else if f.crlf then some ⟨[(0, 9), (11, 12), (14, CharSet.top)]⟩
  else some ⟨[(0, 9), (11, CharSet.top)]⟩

def lineStart (f : Flags) : Look :=
  if f.multiLine then .lineStart f.crlf else .start

def lineStop (f : Flags) : Look :=
  if f.multiLine then .lineStop f.crlf else .stop

end Flags

def asciiDigit : CharSet := ⟨[(0x30, 0x39)]⟩

def asciiBlank : CharSet := ⟨[(0x9, 0xD), (0x20, 0x20)]⟩

/-- The classes `\d`, `\s` and `\w`, and with a capital letter their complements. -/
def Flags.shorthand? (f : Flags) (letter : Char) : Option CharSet :=
  f.negated? letter.isUpper <|
    match letter.toLower with
    | 'd' => if f.unicode then Unicode.digit else asciiDigit
    | 's' => if f.unicode then Text.blank else asciiBlank
    | _ => if f.unicode then Unicode.word else asciiWord

/-- The classes of ASCII characters that have a name. -/
def asciiClasses : List (List Char × CharSet) := [
  ("alnum".toList, ⟨[(0x30, 0x39), (0x41, 0x5A), (0x61, 0x7A)]⟩),
  ("alpha".toList, ⟨[(0x41, 0x5A), (0x61, 0x7A)]⟩),
  ("ascii".toList, ⟨[(0, 0x7F)]⟩),
  ("blank".toList, ⟨[(0x9, 0x9), (0x20, 0x20)]⟩),
  ("cntrl".toList, ⟨[(0, 0x1F), (0x7F, 0x7F)]⟩),
  ("digit".toList, asciiDigit),
  ("graph".toList, ⟨[(0x21, 0x7E)]⟩),
  ("lower".toList, ⟨[(0x61, 0x7A)]⟩),
  ("print".toList, ⟨[(0x20, 0x7E)]⟩),
  ("punct".toList, ⟨[(0x21, 0x2F), (0x3A, 0x40), (0x5B, 0x60), (0x7B, 0x7E)]⟩),
  ("space".toList, asciiBlank),
  ("upper".toList, ⟨[(0x41, 0x5A)]⟩),
  ("word".toList, asciiWord),
  ("xdigit".toList, ⟨[(0x30, 0x39), (0x41, 0x46), (0x61, 0x66)]⟩)]

def namedAscii? (name : List Char) : Option CharSet :=
  asciiClasses.lookup name

end Dialogue.Expression
