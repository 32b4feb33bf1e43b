import Mathlib.Data.List.SplitBy
import Dialogue.Session.Rendering

/-!
# Tidied text

Text is answered without its line breaks, however they are paired, and with half as many spaces in each run
of them, rounded up. The runs are those that are left when the line breaks are gone.
-/

namespace Dialogue

/-- The characters that text is freed from. -/
def lineBreaks : List Char :=
  ['\r', '\n']

/-- What is left of a run of one character. -/
def tidyRun (run : List Char) : List Char :=
  if run.head? = some ' ' then List.replicate ((run.length + 1) / 2) ' ' else run

/-! ## Line breaks -/

/-- No matter how line breaks are paired, all their characters are dropped. -/
theorem dropBreaks_eq_filter (cs : List Char) : dropBreaks cs = cs.filter (· ∉ lineBreaks) := by
  fun_induction dropBreaks cs with
  | case1 cs ih => rw [ih]; rfl
  | case2 cs ih => rw [ih]; rfl
  | case3 cs _ ih => rw [ih]; rfl
  | case4 cs _ ih => rw [ih]; rfl
  | case5 c cs _ _ hr hn ih =>
      have hc : c ∉ lineBreaks := by
        rw [lineBreaks, List.mem_cons, List.mem_singleton]
        exact not_or_intro hr hn
      simp only [List.filter_cons, hc, not_false_eq_true, decide_true, if_true, ih]
  | case6 => rfl

theorem mem_of_mem_joinSpaces {c : Char} {cs : List Char} (h : c ∈ joinSpaces cs) : c ∈ cs := by
  fun_induction joinSpaces cs with
  | case1 cs ih =>
      obtain rfl | h := List.mem_cons.mp h
      · exact List.mem_cons_self
      · exact List.mem_cons_of_mem _ (List.mem_cons_of_mem _ (ih h))
  | case2 d cs _ ih =>
      obtain rfl | h := List.mem_cons.mp h
      · exact List.mem_cons_self
      · exact List.mem_cons_of_mem _ (ih h)
  | case3 => exact h

theorem not_mem_tidyText {c : Char} (hc : c ∈ lineBreaks) (s : String) : c ∉ (tidyText s).toList := by
  intro h
  rw [tidyText, String.toList_ofList, dropBreaks_eq_filter] at h
  have hkept := (List.mem_filter.mp (mem_of_mem_joinSpaces h)).2
  exact of_decide_eq_true hkept hc

/-! ## Runs of spaces -/

theorem joinSpaces_cons {c : Char} (h : c ≠ ' ') (cs : List Char) : joinSpaces (c :: cs) = c :: joinSpaces cs :=
  joinSpaces.eq_2 c cs fun _ hc _ => h hc

theorem joinSpaces_append {before : List Char} (h : ' ' ∉ before) (cs : List Char) :
    joinSpaces (before ++ cs) = before ++ joinSpaces cs := by
  induction before with
  | nil => rfl
  | cons c before ih =>
      obtain ⟨hc, hbefore⟩ := List.ne_and_not_mem_of_not_mem_cons h
      rw [List.cons_append, joinSpaces_cons hc.symm, ih hbefore, List.cons_append]

/-- Of an odd number of spaces, the last is kept by itself. -/
theorem joinSpaces_spaces (n : Nat) {cs : List Char} (h : cs.head? ≠ some ' ') :
    joinSpaces (List.replicate n ' ' ++ cs) = List.replicate ((n + 1) / 2) ' ' ++ joinSpaces cs := by
  induction n using Nat.twoStepInduction with
  | zero => rfl
  | one =>
      refine joinSpaces.eq_2 ' ' cs fun cs' _ hcs => h ?_
      rw [hcs, List.head?_cons]
  | more n ih _ =>
      have hhalf : (n + 2 + 1) / 2 = (n + 1) / 2 + 1 := by omega
      rw [List.replicate_succ, List.replicate_succ, List.cons_append, List.cons_append, joinSpaces, ih, hhalf]
      rfl

theorem joinSpaces_run {c : Char} (n : Nat) {cs : List Char} (h : cs.head? ≠ some c) :
    joinSpaces (List.replicate (n + 1) c ++ cs) = tidyRun (List.replicate (n + 1) c) ++ joinSpaces cs := by
  have hhead : (List.replicate (n + 1) c).head? = some c := rfl
  rw [tidyRun, hhead, List.length_replicate]
  by_cases hc : c = ' '
  · subst hc
    rw [if_pos rfl, joinSpaces_spaces _ h]
  · have hmem : ' ' ∉ List.replicate (n + 1) c := fun hmem => hc (List.eq_of_mem_replicate hmem).symm
    rw [if_neg (fun heq => hc (Option.some.inj heq)), joinSpaces_append hmem]

/-- A run of one character, as long as it can be. -/
theorem exists_run (c : Char) (cs : List Char) :
    ∃ n rest, c :: cs = List.replicate (n + 1) c ++ rest ∧ rest.head? ≠ some c := by
  induction cs with
  | nil => exact ⟨0, [], rfl, nofun⟩
  | cons d cs ih =>
      by_cases hd : d = c
      · subst hd
        obtain ⟨n, rest, hrun, hrest⟩ := ih
        exact ⟨n + 1, rest, congrArg (d :: ·) hrun, hrest⟩
      · exact ⟨0, d :: cs, rfl, fun heq => hd (Option.some.inj heq)⟩

theorem splitBy_run {c : Char} (n : Nat) {cs : List Char} (h : cs.head? ≠ some c) :
    (List.replicate (n + 1) c ++ cs).splitBy (· == ·) =
      List.replicate (n + 1) c :: cs.splitBy (· == ·) := by
  have hrun : (List.replicate (n + 1) c).splitBy (· == ·) = [List.replicate (n + 1) c] := by
    refine List.splitBy_of_isChain (List.cons_ne_nil _ _) ?_
    exact List.isChain_replicate_of_rel _ (beq_self_eq_true c)
  rw [List.splitBy_append, hrun, List.singleton_append]
  intro last hlast next hnext
  obtain rfl : last = c := List.eq_of_mem_replicate (List.mem_of_getLast? hlast)
  refine beq_false_of_ne fun heq => h ?_
  rw [heq]
  exact hnext

/-- Each run of spaces is joined by itself. -/
theorem joinSpaces_eq_flatMap (cs : List Char) : joinSpaces cs = (cs.splitBy (· == ·)).flatMap tidyRun := by
  match cs with
  | [] => rfl
  | c :: cs =>
      obtain ⟨n, rest, hrun, hrest⟩ := exists_run c cs
      have hshorter : rest.length < (c :: cs).length := by
        rw [hrun, List.length_append, List.length_replicate]
        omega
      rw [hrun, joinSpaces_run n hrest, splitBy_run n hrest, List.flatMap_cons, joinSpaces_eq_flatMap rest]
termination_by cs.length
decreasing_by exact hshorter

/-- Of the text without its line breaks, each longest run of `n` spaces becomes `(n + 1) / 2` spaces, and all
else is kept as it is. -/
theorem tidyText_joins_runs (s : String) :
    (tidyText s).toList = ((s.toList.filter (· ∉ lineBreaks)).splitBy (· == ·)).flatMap tidyRun ∧
      '\r' ∉ (tidyText s).toList ∧ '\n' ∉ (tidyText s).toList := by
  refine ⟨?_, not_mem_tidyText (by decide) s, not_mem_tidyText (by decide) s⟩
  rw [tidyText, String.toList_ofList, dropBreaks_eq_filter, joinSpaces_eq_flatMap]

/-- Three spaces that a line break divided, and four. -/
example : tidyText "a \n\r  b    c" = "a  b  c" := by decide

end Dialogue
