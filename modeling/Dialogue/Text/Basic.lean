import Dialogue.Text.CharSet

/-!
Texts as lists of characters: white space (the Unicode property `White_Space`) and trimming, numbers written
in digits, and cutting at a character.
-/
namespace Dialogue.Text

/-- The characters with the property `White_Space`. -/
def blank : CharSet :=
  ⟨[(0x9, 0xD), (0x20, 0x20), (0x85, 0x85), (0xA0, 0xA0), (0x1680, 0x1680), (0x2000, 0x200A),
    (0x2028, 0x2029), (0x202F, 0x202F), (0x205F, 0x205F), (0x3000, 0x3000)]⟩

def isBlank (c : Char) : Bool :=
  blank.contains c

/-- The text without the white space at its two ends. -/
def trimmed (cs : List Char) : List Char :=
  ((cs.dropWhile isBlank).reverse.dropWhile isBlank).reverse

def trim (s : String) : String :=
  String.ofList (trimmed s.toList)

/-- Whether nothing but white space is in the text. -/
def isBlankLine (s : String) : Bool :=
  s.toList.all isBlank

theorem mem_of_mem_trimmed {c : Char} {cs : List Char} (h : c ∈ trimmed cs) : c ∈ cs := by
  rw [trimmed, List.mem_reverse] at h
  have h := (List.dropWhile_suffix _).mem h
  rw [List.mem_reverse] at h
  exact (List.dropWhile_suffix _).mem h

/-- The value of a digit in a base of at most sixteen. -/
def digit? (base : Nat) (c : Char) : Option Nat :=
  let value? :=
    if '0' ≤ c ∧ c ≤ '9' then some (c.toNat - '0'.toNat)
    else if 'a' ≤ c ∧ c ≤ 'f' then some (c.toNat - 'a'.toNat + 10)
    else if 'A' ≤ c ∧ c ≤ 'F' then some (c.toNat - 'A'.toNat + 10)
    else none
  value?.filter (· < base)

/-- The number that digits alone write; no digits write none. -/
def number? (base : Nat) (cs : List Char) : Option Nat :=
  if cs.isEmpty then none else (cs.mapM (digit? base)).map fun ds => ds.foldl (base * · + ·) 0

/-- The text before the first `stop` and the text after it. -/
def splitAt? (stop : Char) : List Char → Option (List Char × List Char)
  | [] => none
  | c :: cs => if c = stop then some ([], cs) else (splitAt? stop cs).map fun r => (c :: r.1, r.2)

theorem splitAt?_eq_some {stop : Char} {cs before after : List Char}
    (h : splitAt? stop cs = some (before, after)) : cs = before ++ stop :: after := by
  induction cs generalizing before with
  | nil => simp [splitAt?] at h
  | cons c cs ih =>
    simp only [splitAt?] at h
    split at h
    · simp_all
    · obtain ⟨r, hr, he⟩ := Option.map_eq_some_iff.1 h
      cases he
      simp [ih hr]

theorem splitAt?_length {stop : Char} {cs before after : List Char}
    (h : splitAt? stop cs = some (before, after)) : after.length < cs.length := by
  have := congrArg List.length (splitAt?_eq_some h)
  simp at this
  omega

theorem splitAt?_append {stop : Char} {cs before after : List Char}
    (h : splitAt? stop cs = some (before, after)) (more : List Char) :
    splitAt? stop (cs ++ more) = some (before, after ++ more) := by
  induction cs generalizing before with
  | nil => cases h
  | cons c cs ih =>
    simp only [List.cons_append, splitAt?] at h ⊢
    split
    · next hc =>
      rw [if_pos hc] at h
      cases h
      rfl
    · next hc =>
      rw [if_neg hc] at h
      obtain ⟨r, hr, he⟩ := Option.map_eq_some_iff.mp h
      cases he
      rw [ih hr]
      rfl

end Dialogue.Text
