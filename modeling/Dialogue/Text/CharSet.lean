/-! Sets of characters, written as ranges of code points, and the operations of a class language. -/
namespace Dialogue

/-- A set of characters: the code points of any of its inclusive ranges, which may overlap. -/
structure CharSet where
  ranges : List (Nat × Nat)
deriving DecidableEq, Repr

namespace CharSet

def top : Nat := 0x10FFFF

def holds (r : Nat × Nat) (n : Nat) : Bool :=
  r.1 ≤ n && n ≤ r.2

def hasCode (s : CharSet) (n : Nat) : Bool :=
  s.ranges.any (holds · n)

def contains (s : CharSet) (c : Char) : Bool :=
  s.hasCode c.toNat

def empty : CharSet := ⟨[]⟩

def all : CharSet := ⟨[(0, top)]⟩

def single (c : Char) : CharSet := ⟨[(c.toNat, c.toNat)]⟩

theorem contains_single {c d : Char} : (single c).contains d = true ↔ d = c := by
  simp only [contains, hasCode, single, holds, List.any_cons, List.any_nil, Bool.or_false,
    Bool.and_eq_true, decide_eq_true_eq]
  rw [← Char.toNat_inj]
  omega

def span (a b : Char) : CharSet := ⟨[(a.toNat, b.toNat)]⟩

def union (s t : CharSet) : CharSet := ⟨s.ranges ++ t.ranges⟩

/-- The ranges in order of their first code point. -/
def sorted (s : CharSet) : List (Nat × Nat) :=
  s.ranges.mergeSort fun a b => a.1 ≤ b.1

/-- What sorted ranges leave out from `low` up. -/
def gaps : Nat → List (Nat × Nat) → List (Nat × Nat)
  | low, [] => if low ≤ top then [(low, top)] else []
  | low, (a, b) :: rs =>
    if low < a then (low, a - 1) :: gaps (max low (b + 1)) rs else gaps (max low (b + 1)) rs

def compl (s : CharSet) : CharSet := ⟨gaps 0 s.sorted⟩

theorem compl_of_pairwise {s : CharSet} (h : s.ranges.Pairwise fun a b => decide (a.1 ≤ b.1)) :
    s.compl = ⟨gaps 0 s.ranges⟩ := by
  rw [compl, sorted, List.mergeSort_of_pairwise h]

def inter (s t : CharSet) : CharSet := (s.compl.union t.compl).compl

def diff (s t : CharSet) : CharSet := s.inter t.compl

def symmDiff (s t : CharSet) : CharSet := (s.diff t).union (t.diff s)

/-- The same set with sorted ranges that neither overlap nor touch. -/
def canonical (s : CharSet) : CharSet := s.compl.compl

end CharSet

end Dialogue
