import Dialogue.Text.CharSet

/-! Ranges of code points as sequences of byte ranges in UTF-8. -/
namespace Dialogue

abbrev ByteRange := Nat × Nat

def utf8Bytes (n : Nat) : List Nat :=
  if n < 0x80 then [n]
  else if n < 0x800 then [0xC0 + n / 0x40, 0x80 + n % 0x40]
  else if n < 0x10000 then [0xE0 + n / 0x1000, 0x80 + n / 0x40 % 0x40, 0x80 + n % 0x40]
  else [0xF0 + n / 0x40000, 0x80 + n / 0x1000 % 0x40, 0x80 + n / 0x40 % 0x40, 0x80 + n % 0x40]

namespace ByteRange

/-- Where a range of code points has to be cut so that each part is one sequence of byte ranges. -/
def cut? (a b : Nat) : Option Nat :=
  ([0x7F, 0x7FF, 0xFFFF].find? fun m => a ≤ m && m < b) <|>
    if b < 0x80 then none
    else [0x40, 0x1000, 0x40000].findSome? fun w =>
      if a / w = b / w then none
      else if a % w ≠ 0 then some (a - a % w + w - 1)
      else if b % w ≠ w - 1 then some (b - b % w - 1)
      else none

/-- The sequences of byte ranges that encode a range of code points. -/
def sequences (a b : Nat) : List (List ByteRange) :=
  match cut? a b with
  | some p =>
    if _h : a ≤ p ∧ p < b then sequences a p ++ sequences (p + 1) b
    else [(utf8Bytes a).zip (utf8Bytes b)]
  | none => [(utf8Bytes a).zip (utf8Bytes b)]
termination_by b - a

def ofRanges (ranges : List (Nat × Nat)) : List (List ByteRange) :=
  ranges.flatMap fun r => sequences r.1 r.2

/-- Neighbouring sequences with the same first range, taken together. -/
def groupHeads : List (List ByteRange) → List (ByteRange × List (List ByteRange))
  | [] => []
  | [] :: seqs => groupHeads seqs
  | (r :: tail) :: seqs =>
    match groupHeads seqs with
    | (r', tails) :: groups =>
      if r = r' then (r, tail :: tails) :: groups else (r, [tail]) :: (r', tails) :: groups
    | [] => [(r, [tail])]

end ByteRange

end Dialogue
