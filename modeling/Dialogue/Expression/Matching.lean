import Dialogue.Expression.Basic

/-!
Matching. A set of places is a number whose bit `i` stands for place `i`; an expression maps the
places where a match may start to those where it may end, so that no match is tried twice. Where a set
or a condition holds in a text is worked out once for each that occurs.
-/
namespace Dialogue

/-- An expression laid along a text: its sets and conditions are the places where they hold. -/
inductive Track where
  | stay
  /-- Past one character, from any of the places. -/
  | pass (places : Nat)
  /-- Nowhere, at any of the places. -/
  | hold (places : Nat)
  | seq (a b : Track)
  | alt (a b : Track)
  | many (t : Track) (min : Nat) (max : Option Nat)
deriving DecidableEq, Repr

/-- The number with the given bits, least first. -/
def ofBits : List Bool → Nat
  | [] => 0
  | b :: bs => b.toNat + 2 * ofBits bs

/-- Whether a condition holds at each place of a text, given the character before it. -/
def lookBits (l : Look) (before : Option Char) : List Char → List Bool
  | [] => [l.holds before none]
  | c :: cs => l.holds before (some c) :: lookBits l (some c) cs

namespace Expression

def sets : Expression → List CharSet
  | .one s => [s]
  | .seq a b => sets a ++ sets b
  | .alt a b => sets a ++ sets b
  | .group _ e => sets e
  | .many e _ _ _ => sets e
  | _ => []

def looks : Expression → List Look
  | .look l => [l]
  | .seq a b => looks a ++ looks b
  | .alt a b => looks a ++ looks b
  | .group _ e => looks e
  | .many e _ _ _ => looks e
  | _ => []

end Expression

/-- The places before the characters of a text that are in a set. -/
def setPlaces (text : List Char) (s : CharSet) : Nat :=
  ofBits (text.map s.contains)

/-- The places of a text where a condition holds. -/
def lookPlaces (text : List Char) (l : Look) : Nat :=
  ofBits (lookBits l none text)

/-- The value of a function, taken from a table if it is there. -/
def fromTable {α : Type} [BEq α] (table : List (α × Nat)) (f : α → Nat) (a : α) : Nat :=
  match table.lookup a with
  | some n => n
  | none => f a

namespace Track

/-- Lays an expression along a text, with tables of the places of sets and conditions. -/
def lay (text : List Char) (sets : List (CharSet × Nat)) (looks : List (Look × Nat)) :
    Expression → Track
  | .empty => .stay
  | .one s => .pass (fromTable sets (setPlaces text) s)
  | .look l => .hold (fromTable looks (lookPlaces text) l)
  | .seq a b => .seq (lay text sets looks a) (lay text sets looks b)
  | .alt a b => .alt (lay text sets looks a) (lay text sets looks b)
  | .group _ e => lay text sets looks e
  | .many e min max _ => .many (lay text sets looks e) min max

def ofExpression (text : List Char) (e : Expression) : Track :=
  lay text (e.sets.eraseDups.map fun s => (s, setPlaces text s))
    (e.looks.eraseDups.map fun l => (l, lookPlaces text l)) e

/-- `n` rounds of `f`, or fewer if a round changes nothing. -/
def rounds (f : Nat → Nat) : Nat → Nat → Nat
  | 0, places => places
  | n + 1, places =>
    let next := f places
    if next = places then places else rounds f n next

/-- The places in `seen` and all that at most `n` rounds of `f` reach from those in `latest`; a place
that was seen before is not gone from again. -/
def reach (f : Nat → Nat) : Nat → Nat → Nat → Nat
  | 0, seen, _ => seen
  | n + 1, seen, latest =>
    let all := seen ||| f latest
    if all = seen then seen else reach f n all (all ^^^ seen)

/-- Places where a match that starts at one of `places` may end, in a text of the given length. -/
def advance (length : Nat) : Track → Nat → Nat
  | .stay, places => places
  | .pass spots, places => (places &&& spots) <<< 1
  | .hold spots, places => places &&& spots
  | .seq a b, places => advance length b (advance length a places)
  | .alt a b, places => advance length a places ||| advance length b places
  | .many t min max, places =>
    if max.all (min ≤ ·) then
      let least := rounds (fun p => advance length t p) min places
      reach (fun p => advance length t p) (max.elim (length + 1) (· - min)) least least
    else 0

end Track

/-- Whether the expression matches anywhere in the text. -/
def Expression.occursIn (e : Expression) (text : List Char) : Bool :=
  (Track.ofExpression text e).advance text.length (1 <<< (text.length + 1) - 1) != 0

end Dialogue
