/-! The wildcards of pattern text and which of them a pattern uses. -/
namespace Dialogue

/-- A wildcard stands for one or more characters, or for any number; each of these
has two spellings. -/
inductive Wildcard where
  | oneOrMore
  | oneOrMoreHighest
  | zeroOrMore
  | zeroOrMoreHighest
deriving DecidableEq, Repr

namespace Wildcard

def all : List Wildcard :=
  [.oneOrMore, .oneOrMoreHighest, .zeroOrMore, .zeroOrMoreHighest]

def symbol : Wildcard → Char
  | .oneOrMore => '*'
  | .oneOrMoreHighest => '_'
  | .zeroOrMore => '^'
  | .zeroOrMoreHighest => '#'

/-- The expression text that a wildcard stands for. -/
def expression : Wildcard → String
  | .oneOrMore | .oneOrMoreHighest => ".+"
  | .zeroOrMore | .zeroOrMoreHighest => ".*"

def name : Wildcard → String
  | .oneOrMore => "ONE_OR_MORE"
  | .oneOrMoreHighest => "ONE_OR_MORE_HIGHEST"
  | .zeroOrMore => "ZERO_OR_MORE"
  | .zeroOrMoreHighest => "ZERO_OR_MORE_HIGHEST"

/-- The bit of a spelling in a set of spellings. -/
def bit : Wildcard → Nat
  | .oneOrMore => 1
  | .oneOrMoreHighest => 2
  | .zeroOrMore => 4
  | .zeroOrMoreHighest => 8

end Wildcard

/-- The spellings that occur in a pattern, in the order of `Wildcard.all`. -/
structure WildcardSet where
  members : List Wildcard
deriving DecidableEq, Repr

namespace WildcardSet

def ofPattern (pattern : String) : WildcardSet :=
  ⟨Wildcard.all.filter fun w => pattern.toList.contains w.symbol⟩

def isLiteral (s : WildcardSet) : Bool :=
  s.members.isEmpty

def bits (s : WildcardSet) : Nat :=
  s.members.foldr (fun w n => w.bit + n) 0

/-- The names of the members; the empty set is written as the number zero. -/
def describe (s : WildcardSet) : String :=
  "WildcardSet(" ++
    (if s.isLiteral then "0x0" else " | ".intercalate (s.members.map Wildcard.name)) ++ ")"

end WildcardSet

end Dialogue
