import Dialogue.Session.Search

/-!
# White space around a text

Trimming takes away the white space around a text and nothing else, so that all other characters are left
and counted as before, and uppercase leaves white space as it is. So white space around an input makes no difference to what it is normalized to.
-/

namespace Dialogue

namespace Text

theorem dropWhile_isBlank_eq_nil {cs : List Char} (h : ∀ c ∈ cs, isBlank c) :
    cs.dropWhile isBlank = [] := by
  have hnil : (cs ++ []).dropWhile isBlank = [] := List.dropWhile_append_of_pos h
  rwa [List.append_nil] at hnil

theorem trimmed_of_isBlank {cs : List Char} (h : ∀ c ∈ cs, isBlank c) : trimmed cs = [] := by
  rw [trimmed, dropWhile_isBlank_eq_nil h]
  rfl

theorem trimmed_append_left {as : List Char} (h : ∀ c ∈ as, isBlank c) (cs : List Char) :
    trimmed (as ++ cs) = trimmed cs := by
  rw [trimmed, List.dropWhile_append_of_pos h, trimmed]

theorem trimmed_append_right (cs : List Char) {bs : List Char} (h : ∀ c ∈ bs, isBlank c) :
    trimmed (cs ++ bs) = trimmed cs := by
  have hreverse : ∀ c ∈ bs.reverse, isBlank c := fun c hc => h c (List.mem_reverse.mp hc)
  rw [trimmed, List.dropWhile_append]
  split
  · rename_i hempty
    rw [dropWhile_isBlank_eq_nil h, trimmed, List.isEmpty_iff.mp hempty]
  · rw [List.reverse_append, List.dropWhile_append_of_pos hreverse, trimmed]

/-- A text is its trimmed text with white space on both sides. -/
theorem exists_trimmed (cs : List Char) :
    ∃ as bs, cs = as ++ trimmed cs ++ bs ∧ (∀ c ∈ as, isBlank c) ∧ ∀ c ∈ bs, isBlank c := by
  let back := (cs.dropWhile isBlank).reverse
  refine ⟨cs.takeWhile isBlank, (back.takeWhile isBlank).reverse, ?_, ?_, ?_⟩
  · have hback : cs.dropWhile isBlank = trimmed cs ++ (back.takeWhile isBlank).reverse := by
      rw [trimmed, ← List.reverse_append, List.takeWhile_append_dropWhile, List.reverse_reverse]
    rw [List.append_assoc, ← hback, List.takeWhile_append_dropWhile]
  · exact fun c hc => List.all_eq_true.mp List.all_takeWhile c hc
  · exact fun c hc => List.all_eq_true.mp List.all_takeWhile c (List.mem_reverse.mp hc)

/-- Trimming takes away white space alone. -/
theorem mem_trimmed {c : Char} {cs : List Char} (h : c ∈ cs) (hc : ¬isBlank c) : c ∈ trimmed cs := by
  obtain ⟨as, bs, hcs, ha, hb⟩ := exists_trimmed cs
  rw [hcs, List.mem_append, List.mem_append] at h
  rcases h with (h | h) | h
  · exact absurd (ha c h) hc
  · exact h
  · exact absurd (hb c h) hc

theorem isBlankLine_iff (s : String) : isBlankLine s ↔ trim s = "" := by
  have hempty : trim s = "" ↔ trimmed s.toList = [] := by
    rw [trim, ← String.toList_eq_nil_iff, String.toList_ofList]
  rw [isBlankLine, List.all_eq_true, hempty]
  constructor
  · exact trimmed_of_isBlank
  · intro h
    obtain ⟨as, bs, hs, ha, hb⟩ := exists_trimmed s.toList
    rw [h, List.append_nil] at hs
    rw [hs]
    exact List.forall_mem_append.mpr ⟨ha, hb⟩

/-- How many characters are not white space. -/
def ink (cs : List Char) : Nat :=
  cs.countP (!isBlank ·)

theorem ink_append (as bs : List Char) : ink (as ++ bs) = ink as + ink bs :=
  List.countP_append

theorem ink_of_isBlank {cs : List Char} (h : ∀ c ∈ cs, isBlank c) : ink cs = 0 :=
  List.countP_eq_zero.mpr fun c hc => by simp [h c hc]

theorem ink_trimmed (cs : List Char) : ink (trimmed cs) = ink cs := by
  obtain ⟨as, bs, hcs, ha, hb⟩ := exists_trimmed cs
  have hink : ink cs = ink as + ink (trimmed cs) + ink bs := by
    rw [← ink_append, ← ink_append, ← hcs]
  rw [hink, ink_of_isBlank ha, ink_of_isBlank hb, Nat.zero_add, Nat.add_zero]

/-! ## Uppercase -/

/-- The characters of white space, one by one. -/
def blankCodes : List Nat :=
  blank.ranges.flatMap fun r => List.range' r.1 (r.2 + 1 - r.1)

theorem toNat_mem_blankCodes {c : Char} (h : isBlank c) : c.toNat ∈ blankCodes := by
  obtain ⟨r, hr, hc⟩ := List.any_eq_true.mp h
  simp only [CharSet.holds, Bool.and_eq_true, decide_eq_true_eq] at hc
  refine List.mem_flatMap.mpr ⟨r, hr, List.mem_range'_1.mpr ⟨hc.1, ?_⟩⟩
  omega

theorem upper_of_isBlank {c : Char} (h : isBlank c) : upper c = [c] := by
  have hall : ∀ n ∈ blankCodes, upper (Char.ofNat n) = [Char.ofNat n] := by decide +kernel
  have hc := hall _ (toNat_mem_blankCodes h)
  rwa [Char.ofNat_toNat] at hc

theorem uppercase_of_isBlank {cs : List Char} (h : ∀ c ∈ cs, isBlank c) : uppercase cs = cs := by
  induction cs with
  | nil => rfl
  | cons c cs ih =>
      obtain ⟨hc, hcs⟩ := List.forall_mem_cons.mp h
      have hrest : uppercase cs = cs := ih hcs
      rw [uppercase, List.flatMap_cons, upper_of_isBlank hc]
      exact congrArg (c :: ·) hrest

theorem trimmed_uppercase_trimmed (cs : List Char) :
    trimmed (uppercase (trimmed cs)) = trimmed (uppercase cs) := by
  obtain ⟨as, bs, hcs, ha, hb⟩ := exists_trimmed cs
  have hupper : uppercase cs = as ++ uppercase (trimmed cs) ++ bs := by
    have happend : uppercase (as ++ trimmed cs ++ bs) =
        uppercase as ++ uppercase (trimmed cs) ++ uppercase bs := by
      simp only [uppercase, List.flatMap_append]
    rw [← hcs, uppercase_of_isBlank ha, uppercase_of_isBlank hb] at happend
    exact happend
  rw [hupper, trimmed_append_right _ hb, trimmed_append_left ha]

end Text

/-- White space around an input makes no difference. -/
theorem normalize_trim (input : String) : normalize (Text.trim input) = normalize input := by
  rw [normalize, Text.trim, String.toList_ofList, Text.trimmed_uppercase_trimmed, normalize]

end Dialogue
