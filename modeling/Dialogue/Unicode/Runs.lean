import Dialogue.Text.CharSet

/-!
Tables of a property written as one text: the name of each run of code points, in order from zero,
with the length of the run behind it unless that is one.
-/
namespace Dialogue.Unicode

/-- A property's value and the range of code points that have it. -/
structure Run where
  name : List Char
  first : Nat
  last : Nat
deriving DecidableEq, Repr

/-- The words of a table, which stand on lines. -/
def words (table : String) : List String :=
  (table.splitOn "\n").flatMap (·.splitOn " ")

def readNumber (digits : List Char) : Nat :=
  digits.foldl (fun n d => 10 * n + (d.toNat - '0'.toNat)) 0

/-- Reads the words of a table from the code point `first` on. -/
def runsFrom (first : Nat) : List String → List Run
  | [] => []
  | word :: words =>
    let name := word.toList.takeWhile Char.isAlpha
    let digits := word.toList.dropWhile Char.isAlpha
    let length := if digits.isEmpty then 1 else readNumber digits
    ⟨name, first, first + length - 1⟩ :: runsFrom (first + length) words

def readRuns (table : String) : List Run :=
  runsFrom 0 (words table)

/-- Ranges of which neighbours are joined. -/
def joinRanges : List (Nat × Nat) → List (Nat × Nat)
  | [] => []
  | (a, b) :: rs =>
    match joinRanges rs with
    | (c, d) :: rest => if b + 1 = c then (a, d) :: rest else (a, b) :: (c, d) :: rest
    | [] => [(a, b)]

/-- The code points whose value has a name that satisfies `p`. -/
def select (runs : List Run) (p : List Char → Bool) : CharSet :=
  ⟨joinRanges ((runs.filter fun r => p r.name).map fun r => (r.first, r.last))⟩

def readHex (digits : List Char) : Nat :=
  digits.foldl
    (fun n d => 16 * n + (if d.isDigit then d.toNat - '0'.toNat else d.toNat - 'A'.toNat + 10)) 0

/-- Reads ranges written in hexadecimal, such as `30-39 41-46 61`. -/
def readRanges (table : String) : CharSet :=
  ⟨(words table).map fun word =>
    let first := word.toList.takeWhile (· ≠ '-')
    let last := (word.toList.dropWhile (· ≠ '-')).drop 1
    (readHex first, readHex (if last.isEmpty then first else last))⟩

end Dialogue.Unicode
