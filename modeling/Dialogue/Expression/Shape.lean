import Dialogue.Expression.Basic

/-!
The form in which an expression is laid out as an automaton. Neighbouring characters are one literal,
rows in rows and choices in choices are one, a choice of single characters or of sets is a set, and what
all branches of a choice begin with stands before it.
-/
namespace Dialogue

inductive Shape where
  | empty
  /-- Some characters in a row. -/
  | literal (codes : List Nat)
  /-- One character of several, or none, in sorted ranges. -/
  | set (ranges : List (Nat × Nat))
  | look (condition : Look)
  | many (s : Shape) (min : Nat) (max : Option Nat) (lazy : Bool)
  | capture (number : Nat) (s : Shape)
  | seq (a b : Shape)
  | alt (a b : Shape)
deriving DecidableEq, Repr

namespace Shape

/-- The parts of a row; the empty shape is a row of none. -/
def parts : Shape → List Shape
  | .seq a b => a :: parts b
  | .empty => []
  | s => [s]

def branches : Shape → List Shape
  | .alt a b => a :: branches b
  | s => [s]

def ofParts : List Shape → Shape
  | [] => .empty
  | [s] => s
  | s :: ss => .seq s (ofParts ss)

/-- A choice of none matches nothing. -/
def ofBranches : List Shape → Shape
  | [] => .set []
  | [s] => s
  | s :: ss => .alt s (ofBranches ss)

/-- Neighbouring literals as one. -/
def mergeLiterals : List Shape → List Shape
  | [] => []
  | .literal a :: ss =>
    match mergeLiterals ss with
    | .literal b :: rest => .literal (a ++ b) :: rest
    | rest => .literal a :: rest
  | s :: ss => s :: mergeLiterals ss

/-- Shapes in a row. -/
def row (ss : List Shape) : Shape :=
  ofParts (mergeLiterals (ss.flatMap parts))

/-- Code points that are no characters. -/
def surrogates : CharSet := ⟨[(0xD800, 0xDFFF)]⟩

/-- One character of a set; a set of one is a literal. -/
def ofSet (s : CharSet) : Shape :=
  let ranges := (s.diff surrogates).ranges
  match ranges with
  | [(a, b)] => if a = b then .literal [a] else .set ranges
  | _ => .set ranges

/-- Whether the shape matches nothing but the empty text. -/
def onlyEmpty : Shape → Bool
  | .empty => true
  | .literal _ => false
  | .set _ => false
  | .look _ => true
  | .many s _ max _ => onlyEmpty s && max.isSome
  | .capture _ s => onlyEmpty s
  | .seq a b => onlyEmpty a && onlyEmpty b
  | .alt a b => onlyEmpty a && onlyEmpty b

/-- A lower bound on the characters of a match; none if a part of the shape matches nothing. -/
def leastLength? : Shape → Option Nat
  | .empty => some 0
  | .literal codes => some codes.length
  | .set ranges => if ranges.isEmpty then none else some 1
  | .look _ => some 0
  | .many s min _ _ => (leastLength? s).map (· * min)
  | .capture _ s => leastLength? s
  | .seq a b => do some ((← leastLength? a) + (← leastLength? b))
  | .alt a b => do some (Nat.min (← leastLength? a) (← leastLength? b))

/-- Whether every match begins under the condition. -/
def opensWith (l : Look) : Shape → Bool
  | .look l' => l = l'
  | .many s min _ _ => 0 < min && opensWith l s
  | .capture _ s => opensWith l s
  | .seq a b => opensWith l a || (onlyEmpty a && opensWith l b)
  | .alt a b => opensWith l a && opensWith l b
  | _ => false

/-- Whether every match ends under the condition. -/
def closesWith (l : Look) : Shape → Bool
  | .look l' => l = l'
  | .many s min _ _ => 0 < min && closesWith l s
  | .capture _ s => closesWith l s
  | .seq a b => closesWith l b || (onlyEmpty b && closesWith l a)
  | .alt a b => closesWith l a && closesWith l b
  | _ => false

/-- A repetition. What matches only the empty text is repeated once at most. -/
def repeated (s : Shape) (min : Nat) (max : Option Nat) (lazy : Bool) : Shape :=
  let min := if s.onlyEmpty then Nat.min min 1 else min
  let max := if s.onlyEmpty then some (max.elim 1 (Nat.min · 1)) else max
  if min = 0 ∧ max = some 0 then .empty
  else if min = 1 ∧ max = some 1 then s
  else .many s min max lazy

def single? : Shape → Option (Nat × Nat)
  | .literal [c] => some (c, c)
  | _ => none

def ranges? : Shape → Option (List (Nat × Nat))
  | .set ranges => some ranges
  | _ => none

/-- What two lists have in common at the front. -/
def common : List Shape → List Shape → List Shape
  | a :: as, b :: bs => if a = b then a :: common as bs else []
  | _, _ => []

/-- What all rows have in common at the front; a single part is no row. -/
def commonParts : List Shape → List Shape
  | [] => []
  | s :: ss =>
    if (s :: ss).all fun s => 1 < s.parts.length then ss.foldl (fun ps s => common ps s.parts) s.parts
    else []

/-- The number of parts and branches. -/
def size : Shape → Nat
  | .many s _ _ _ => size s + 1
  | .capture _ s => size s + 1
  | .seq a b => size a + size b + 1
  | .alt a b => size a + size b + 1
  | _ => 1

/-- A choice; each step takes common parts off the branches. -/
def choiceWithin : Nat → List Shape → Shape
  | 0, ss => ofBranches (ss.flatMap branches)
  | fuel + 1, ss =>
    let ss := ss.flatMap branches
    if ss.length < 2 then ofBranches ss
    else match ss.mapM single?, ss.mapM ranges? with
      | some codes, _ => ofSet ⟨codes⟩
      | _, some ranges => ofSet ⟨ranges.flatten⟩
      | none, none =>
        match commonParts ss with
        | [] => ofBranches ss
        | ps => row (ps ++ [choiceWithin fuel (ss.map fun s => row (s.parts.drop ps.length))])

/-- A choice between shapes; of one, it is that one. -/
def choice (ss : List Shape) : Shape :=
  match ss with
  | [s] => s
  | ss => choiceWithin (ss.foldr (fun s n => s.size + n) 0) ss

/-- The shapes of the branches of an expression. -/
def branchesOf : Expression → List Shape
  | .empty => [.empty]
  | .one s => [ofSet s]
  | .look l => [.look l]
  | .seq a b => [row [choice (branchesOf a), choice (branchesOf b)]]
  | .alt a b => choice (branchesOf a) :: branchesOf b
  | .many e min max lazy => [repeated (choice (branchesOf e)) min max lazy]
  | .group none e => [choice (branchesOf e)]
  | .group (some n) e => [.capture n (choice (branchesOf e))]

def ofExpression (e : Expression) : Shape :=
  choice (branchesOf e)

end Shape

end Dialogue
