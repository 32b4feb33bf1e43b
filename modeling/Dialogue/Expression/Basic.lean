import Dialogue.Unicode.Property

/-!
Regular expressions over characters, and which stretches of a text they match. Places in a text are
numbered from zero and stand between characters.
-/
namespace Dialogue

/-- A condition on one place of a text; `unicode` says whether words are those of all scripts. -/
inductive Look where
  | start
  | stop
  | lineStart (crlf : Bool)
  | lineStop (crlf : Bool)
  | wordEdge (unicode : Bool)
  | notWordEdge (unicode : Bool)
  | wordStart (unicode : Bool)
  | wordStop (unicode : Bool)
  | notAfterWord (unicode : Bool)
  | notBeforeWord (unicode : Bool)
deriving DecidableEq, Repr

inductive Expression where
  | empty
  | one (set : CharSet)
  | look (condition : Look)
  | seq (a b : Expression)
  | alt (a b : Expression)
  /-- Between `min` and `max` matches of `e` in a row, or any number from `min` on;
  `lazy` says which of them come first, not which there are. -/
  | many (e : Expression) (min : Nat) (max : Option Nat) (lazy : Bool)
  /-- A group, with its number if it captures. -/
  | group (number : Option Nat) (e : Expression)
deriving DecidableEq, Repr

def asciiWord : CharSet := ⟨[(0x30, 0x39), (0x41, 0x5A), (0x5F, 0x5F), (0x61, 0x7A)]⟩

def inWord (unicode : Bool) (c : Option Char) : Bool :=
  c.any (if unicode then Unicode.word else asciiWord).contains

namespace Look

/-- Whether the condition holds between two characters; none stands beyond an end of the text. -/
def holds (before after : Option Char) : Look → Bool
  | .start => before.isNone
  | .stop => after.isNone
  | .lineStart false => before.isNone || before == some '\n'
  | .lineStop false => after.isNone || after == some '\n'
  | .lineStart true =>
    before.isNone || before == some '\n' || (before == some '\r' && after != some '\n')
  | .lineStop true =>
    after.isNone || after == some '\r' || (after == some '\n' && before != some '\r')
  | .wordEdge u => inWord u before != inWord u after
  | .notWordEdge u => inWord u before == inWord u after
  | .wordStart u => !inWord u before && inWord u after
  | .wordStop u => inWord u before && !inWord u after
  | .notAfterWord u => !inWord u before
  | .notBeforeWord u => !inWord u after

/-- Whether the condition holds at a place of a text. -/
def holdsAt (text : List Char) (place : Nat) (l : Look) : Bool :=
  l.holds (if place = 0 then none else text[place - 1]?) text[place]?

end Look

namespace Expression

def ofList : List Expression → Expression
  | [] => .empty
  | [e] => e
  | e :: es => .seq e (ofList es)

def anyOf : List Expression → Expression
  | [] => .empty
  | [e] => e
  | e :: es => .alt e (anyOf es)

/-- The expression matches the text from one place to another. -/
inductive Spans (text : List Char) : Expression → Nat → Nat → Prop
  | empty {i : Nat} : i ≤ text.length → Spans text .empty i i
  | one {set : CharSet} {c : Char} {i : Nat} :
    text[i]? = some c → set.contains c → Spans text (.one set) i (i + 1)
  | look {l : Look} {i : Nat} : i ≤ text.length → l.holdsAt text i → Spans text (.look l) i i
  | seq {a b : Expression} {i j k : Nat} :
    Spans text a i j → Spans text b j k → Spans text (.seq a b) i k
  | left {a b : Expression} {i j : Nat} : Spans text a i j → Spans text (.alt a b) i j
  | right {a b : Expression} {i j : Nat} : Spans text b i j → Spans text (.alt a b) i j
  | group {number : Option Nat} {e : Expression} {i j : Nat} :
    Spans text e i j → Spans text (.group number e) i j
  | none {e : Expression} {max : Option Nat} {lazy : Bool} {i : Nat} :
    i ≤ text.length → Spans text (.many e 0 max lazy) i i
  | more {e : Expression} {min : Nat} {max : Option Nat} {lazy : Bool} {i j k : Nat} :
    max ≠ some 0 → Spans text e i j →
      Spans text (.many e (min - 1) (max.map (· - 1)) lazy) j k →
        Spans text (.many e min max lazy) i k

end Expression

end Dialogue
