import Mathlib.Data.List.TakeWhile
import Dialogue.Proofs.Expression.Brackets

/-!
# Readers of items

One item of an expression text is read in the same way whatever stands behind the parenthesis after it.
-/

namespace Dialogue.Expression

variable {x : Bool} {p : Progress} {c : Char} {cs ds more rest : List Char}

/-! ## Repetitions -/

theorem dropWhile_append {ok : Char → Bool} (hok : ok ')' = false) (cs more : List Char) :
    (cs ++ ')' :: more).dropWhile ok = cs.dropWhile ok ++ ')' :: more := by
  rw [List.dropWhile_append, List.dropWhile_cons_of_neg (by simp [hok])]
  split
  · next h => rw [List.isEmpty_iff.mp h, List.nil_append]
  · rfl

theorem readDigits_suffix (x : Bool) (cs : List Char) : (readDigits x cs).2 <:+ cs :=
  ((collect_suffix x _ _).trans (collect_suffix x _ _)).trans (List.dropWhile_suffix _)

theorem readDigits_append (x : Bool) (h : '#' ∉ cs) (more : List Char) :
    readDigits x (cs ++ ')' :: more) =
      ((readDigits x cs).1, (readDigits x cs).2 ++ ')' :: more) := by
  have hblank : Text.isBlank ')' = false := by decide
  have hd := List.dropWhile_suffix Text.isBlank (l := cs)
  have hr := (collect_suffix x Char.isDigit (cs.dropWhile Text.isBlank)).trans hd
  simp only [readDigits, dropWhile_append hblank,
    collect_append_of_stop x Char.isDigit rfl (notMem_of_suffix hd h),
    collect_append_of_stop x Text.isBlank hblank (notMem_of_suffix hr h)]

/-- Reads what may follow the comma of two counts. -/
def readMost (x : Bool) (least : Option Nat) (cs : List Char) :
    Option ((Nat × Option Nat) × List Char) :=
  match cs with
  | '}' :: rest => least.map fun n => ((n, none), rest)
  | tail =>
    match least, count? (readDigits x tail).1, (readDigits x tail).2 with
    | some n, some m, '}' :: rest => if n ≤ m then some ((n, some m), rest) else none
    | _, _, _ => none

theorem readMost_of_ne (x : Bool) (least : Option Nat) (h : ∀ tail, cs ≠ '}' :: tail) :
    readMost x least cs =
      match least, count? (readDigits x cs).1, (readDigits x cs).2 with
      | some n, some m, '}' :: rest => if n ≤ m then some ((n, some m), rest) else none
      | _, _, _ => none := by
  unfold readMost
  split
  · next tail => exact absurd rfl (h tail)
  · rfl

theorem readMost_local (x : Bool) (least : Option Nat) : Local (readMost x least) := by
  intro cs more h
  by_cases hb : ∃ rest, cs = '}' :: rest
  · obtain ⟨rest, rfl⟩ := hb
    exact .ofOption _ _ (List.suffix_cons _ _)
  · have hne : ∀ tail, cs ≠ '}' :: tail := fun tail heq => hb ⟨tail, heq⟩
    have hd := readDigits_suffix x cs
    rw [readMost_of_ne x least hne, readMost_of_ne x least (append_ne_cons (by decide) hne more),
      readDigits_append x h]
    generalize readDigits x cs = most at hd
    obtain ⟨digits, _ | ⟨c, rest⟩⟩ := most
    · cases least <;> cases count? digits <;> exact .stuck
    by_cases hc : c = '}'
    · subst hc
      cases least with
      | none => exact .stuck
      | some n =>
          cases count? digits with
          | none => exact .stuck
          | some m =>
              simp only [List.cons_append]
              split
              · exact .within _ rest ((List.suffix_cons _ _).trans hd)
              · exact .stuck
    · cases least <;> cases count? digits <;> simp [hc, Extends.stuck]

theorem readCounts_local (x : Bool) : Local (readCounts x) := by
  intro cs more h
  have hd := (readDigits_suffix x (skip x cs)).trans (skip_suffix x cs)
  simp only [readCounts, skip_append x h, readDigits_append x (notMem_skip h)]
  generalize readDigits x (skip x cs) = least at hd
  obtain ⟨digits, _ | ⟨c, tail⟩⟩ := least
  · exact .stuck
  have ht : tail <:+ cs := (List.suffix_cons c tail).trans hd
  by_cases hclose : c = '}'
  · subst hclose
    exact .ofOption _ _ ht
  by_cases hcomma : c = ','
  · subst hcomma
    have htail := notMem_of_suffix ht h
    have hmost := readMost_local x (count? digits) (skip x tail) more (notMem_skip htail)
    simp only [List.cons_append, skip_append x htail]
    exact hmost.mono ((skip_suffix x tail).trans ht)
  · simp [hclose, hcomma, Extends.stuck]

theorem readDigits_of_isBlank (x : Bool) (h : ∀ c ∈ cs, Text.isBlank c) :
    readDigits x cs = ([], []) := by
  have hd : cs.dropWhile Text.isBlank = [] := List.dropWhile_eq_nil_iff.mpr h
  simp only [readDigits, hd, collect]

theorem readCounts_of_isBlank (x : Bool) (h : ∀ c ∈ cs, Text.isBlank c) (more : List Char) :
    readCounts x (cs ++ ')' :: more) = none := by
  have hash : '#' ∉ cs := fun hc => absurd (h '#' hc) (by decide)
  have hs : ∀ c ∈ skip x cs, Text.isBlank c := fun c hc => h c ((skip_suffix x cs).subset hc)
  simp only [readCounts, skip_append x hash, readDigits_append x (notMem_skip hash),
    readDigits_of_isBlank x hs, List.nil_append]
  rfl

theorem readMark_suffix (cs : List Char) : (readMark cs).2 <:+ cs := by
  unfold readMark
  split
  · exact List.suffix_cons _ _
  · exact List.suffix_refl _

theorem readMark_append (cs more : List Char) :
    readMark (cs ++ ')' :: more) = ((readMark cs).1, (readMark cs).2 ++ ')' :: more) := by
  cases cs with
  | nil => rfl
  | cons c cs =>
      by_cases hc : c = '?'
      · subst hc
        rfl
      · simp [readMark, hc]

theorem readRepeat_local (p : Progress) (min : Nat) (max : Option Nat) :
    Local (readRepeat p min max) := by
  intro cs more _
  rw [readRepeat, readRepeat, readMark_append]
  exact .ofOption _ _ (readMark_suffix cs)

/-! ## Groups -/

theorem readName_local (names : List (List Char)) : Local (readName names) := by
  intro cs more h
  unfold readName
  cases hs : Text.splitAt? '>' cs with
  | none =>
      rw [splitAt?_append_of_none (by decide) hs]
      cases hm : Text.splitAt? '>' more with
      | none => exact .stuck
      | some r =>
          have hlength : r.2.length < more.length := Text.splitAt?_length hm
          refine .ofLength fun name rest hn => ?_
          dsimp only [Option.map_some] at hn
          split at hn
          · next heq =>
              split at hn
              · cases hn
                rw [← (Prod.mk.inj (Option.some.inj heq)).2]
                exact Nat.le_of_lt hlength
              · cases hn
          · cases hn
  | some r =>
      obtain ⟨_ | ⟨c, name⟩, rest⟩ := r
      · rw [Text.splitAt?_append hs]
        exact .stuck
      · have hr : rest <:+ cs := ⟨c :: name ++ ['>'], by rw [Text.splitAt?_eq_some hs]; simp⟩
        rw [Text.splitAt?_append hs]
        dsimp only
        split
        · exact .within _ rest hr
        · exact .stuck

theorem readFlags_local (f : Flags) (seen : List Char) (on : Bool) :
    Local fun cs => (readFlags f seen on cs).map fun r => ((r.1, r.2.1), r.2.2) := by
  intro cs more h
  induction cs generalizing f seen on with
  | nil =>
      -- The parenthesis ends the switches.
      refine .ofLength fun a rest hr => ?_
      obtain ⟨r, hf, heq⟩ := Option.map_eq_some_iff.mp hr
      cases heq
      exact Nat.le_of_lt_succ (readFlags_length hf)
  | cons c cs ih =>
      have hs := List.suffix_cons c cs
      have ih f seen on := (ih f seen on (List.not_mem_of_not_mem_cons h)).mono hs
      simp only [List.cons_append, readFlags]
      split
      · split
        · exact .stuck
        · exact .within (f, c) cs hs
      · split
        · exact .stuck
        · split
          · exact ih _ _ _
          · split
            · exact ih _ _ _
            · exact .stuck

/-- A group with the given switches, or the switches for the rest of the group around. -/
def Progress.turn (p : Progress) (flags : Flags) (c : Char) : Progress :=
  if c = ':' then p.enter flags
  else { p with flags }.push { expression := .empty, repeatable := false }

theorem match_readFlags_eq_map (p : Progress) (r : Option (Flags × Char × List Char)) :
    (match r with
      | none => none
      | some (flags, c, rest) =>
        if c = ':' then some (p.enter flags, rest)
        else some ({ p with flags }.push { expression := .empty, repeatable := false }, rest)) =
      r.map fun r => (p.turn r.1 r.2.1, r.2.2) := by
  cases r with
  | none => rfl
  | some r =>
      simp only [Option.map_some, Progress.turn]
      split <;> rfl

theorem openGroup_capture (hs : skip p.flags.extended cs = ds) (h : ∀ tail, ds ≠ '?' :: tail) :
    openGroup p cs = some (p.enterCapture, ds) := by
  unfold openGroup
  rw [hs]
  split
  · exact absurd rfl (h _)
  · exact absurd rfl (h _)
  · exact absurd rfl (h _)
  · exact absurd rfl (h _)
  · exact absurd rfl (h _)
  · exact absurd rfl (h _)
  · exact absurd rfl (h _)
  · rfl

theorem openGroup_name (hs : skip p.flags.extended cs = '?' :: '<' :: ds)
    (hahead : ∀ tail, ds ≠ '=' :: tail) (hnot : ∀ tail, ds ≠ '!' :: tail) :
    openGroup p cs = (readName p.names ds).map fun r =>
      ({ p with names := r.1 :: p.names }.enterCapture, r.2) := by
  unfold openGroup
  rw [hs]
  split
  · next heq => cases heq
  · next heq => cases heq
  · next heq => cases heq; exact absurd rfl (hahead _)
  · next heq => cases heq; exact absurd rfl (hnot _)
  · next heq => cases heq
  · next heq => cases heq; rfl
  · next hname heq => cases heq; exact absurd rfl (hname _)
  · next h => exact absurd rfl (h _)

theorem openGroup_flags (hs : skip p.flags.extended cs = '?' :: ds)
    (hahead : ∀ tail, ds ≠ '=' :: tail) (hnot : ∀ tail, ds ≠ '!' :: tail)
    (hname : ∀ tail, ds ≠ '<' :: tail) (hnamed : ∀ tail, ds ≠ 'P' :: '<' :: tail) :
    openGroup p cs = (readFlags p.flags [] true ds).map fun r => (p.turn r.1 r.2.1, r.2.2) := by
  unfold openGroup
  rw [hs]
  split
  · next heq => cases heq; exact absurd rfl (hahead _)
  · next heq => cases heq; exact absurd rfl (hnot _)
  · next heq => cases heq; exact absurd rfl (hname _)
  · next heq => cases heq; exact absurd rfl (hname _)
  · next heq => cases heq; exact absurd rfl (hnamed _)
  · next heq => cases heq; exact absurd rfl (hname _)
  · next heq =>
      cases heq
      exact match_readFlags_eq_map p (readFlags p.flags [] true ds)
  · next h => exact absurd rfl (h _)

theorem readName_capture_local (p : Progress) :
    Local fun cs => (readName p.names cs).map fun r =>
      ({ p with names := r.1 :: p.names }.enterCapture, r.2) :=
  fun cs more h => (readName_local p.names cs more h).map
    fun name => { p with names := name :: p.names }.enterCapture

theorem readFlags_turn_local (p : Progress) :
    Local fun cs => (readFlags p.flags [] true cs).map fun r => (p.turn r.1 r.2.1, r.2.2) := by
  intro cs more h
  have hturn := (readFlags_local p.flags [] true cs more h).map fun a => p.turn a.1 a.2
  simp only [Option.map_map] at hturn
  exact hturn

theorem openGroup_local (p : Progress) : Local (openGroup p) := by
  intro cs more h
  generalize hr : openGroup p (cs ++ ')' :: more) = r
  unfold openGroup
  split
  · next hs =>
      rw [openGroup, skip_cons_append h hs] at hr
      exact hr ▸ .stuck
  · next hs =>
      rw [openGroup, skip_cons_append h hs] at hr
      exact hr ▸ .stuck
  · next hs =>
      rw [openGroup, skip_cons_append h hs] at hr
      exact hr ▸ .stuck
  · next hs =>
      rw [openGroup, skip_cons_append h hs] at hr
      exact hr ▸ .stuck
  · next ds hs =>
      have hd : ds <:+ cs :=
        ((List.suffix_cons _ _).trans (List.suffix_cons _ _)).trans (suffix_of_skip hs)
      rw [openGroup, skip_cons_append h hs] at hr
      rw [← hr]
      exact (readName_capture_local p ds more (notMem_of_suffix hd h)).mono hd
  · next ds hahead hnot hs =>
      have hd : ds <:+ cs := (List.suffix_cons _ _).trans (suffix_of_skip hs)
      rw [openGroup_name (skip_cons_append h hs more) (append_ne_cons (by decide) hahead more)
        (append_ne_cons (by decide) hnot more)] at hr
      rw [← hr]
      exact (readName_capture_local p ds more (notMem_of_suffix hd h)).mono hd
  · next ds hahead hnot _ _ hnamed hname hs =>
      have hd := suffix_of_skip hs
      rw [openGroup_flags (skip_cons_append h hs more) (append_ne_cons (by decide) hahead more)
        (append_ne_cons (by decide) hnot more) (append_ne_cons (by decide) hname more)
        (append_ne_cons_cons (by decide) (by decide) hnamed more)] at hr
      rw [← hr]
      refine (congrArg (Extends more cs · _) (match_readFlags_eq_map p _)).mpr ?_
      exact (readFlags_turn_local p ds more (notMem_of_suffix hd h)).mono hd
  · next hne =>
      rw [openGroup_capture (skip_append _ h more) (append_ne_cons (by decide) hne more)] at hr
      rw [← hr]
      exact .within _ _ (skip_suffix _ cs)

/-! ## Items -/

theorem readItem_bracket (p : Progress) (cs : List Char) :
    readItem p '[' cs =
      (readBracket p.flags (openBracket p.flags.extended cs).1 []
        (openBracket p.flags.extended cs).2).map fun r =>
          (p.push { expression := .one r.1.1, depth := r.1.2 }, r.2) :=
  rfl

theorem readItem_counts (p : Progress) (cs : List Char) :
    readItem p '{' cs =
      (readCounts p.flags.extended cs).bind fun r =>
        readRepeat p r.1.1 r.1.2 (skip p.flags.extended r.2) := by
  rw [readItem]
  cases readCounts p.flags.extended cs <;> rfl

theorem readItem_escape (p : Progress) (cs : List Char) :
    readItem p '\\' cs =
      (readEscape p.flags cs).bind fun r => (p.pushAtom? r.1).map (·, r.2) := by
  rw [readItem]
  cases readEscape p.flags cs <;> rfl

/-- An item that needs the parenthesis ends beyond it, or before a brace from which nothing is read. -/
theorem readItem_local (p : Progress) (c : Char) (h : '#' ∉ cs) (more : List Char) :
    Extends more cs (readItem p c cs) (readItem p c (cs ++ ')' :: more)) ∨
      readItem p c cs = none ∧ ∃ q ds, readItem p c (cs ++ ')' :: more) =
        some (q, '{' :: (ds ++ ')' :: more)) ∧ ∀ q, readItem q '{' (ds ++ ')' :: more) = none := by
  by_cases hbracket : c = '['
  · subst hbracket
    have hb := openBracket_suffix p.flags.extended cs
    rw [readItem_bracket, readItem_bracket, openBracket_append _ h]
    left
    exact ((readBracket_local p.flags _ [] _ more (notMem_of_suffix hb h)).map
      fun v => p.push { expression := .one v.1, depth := v.2 }).mono hb
  by_cases hcounts : c = '{'
  · subst hcounts
    rw [readItem_counts, readItem_counts]
    left
    refine (readCounts_local p.flags.extended cs more h).bind
      (g := fun n rest => readRepeat p n.1 n.2 (skip p.flags.extended rest)) ?_ ?_
    · intro n rest _ hr
      have hrest := notMem_of_suffix hr h
      rw [skip_append _ hrest]
      exact (readRepeat_local p n.1 n.2 _ more (notMem_skip hrest)).mono (skip_suffix _ rest)
    · intro n rest q rest' hr
      exact Nat.le_trans (readRepeat_length hr) (skip_length _ rest)
  by_cases hescape : c = '\\'
  · subst hescape
    rw [readItem_escape, readItem_escape]
    rcases readEscape_local p.flags h more with he | ⟨hn, l, ds, hl, hblank⟩
    · exact .inl (he.filterMap p.pushAtom? id)
    · right
      rw [hn, hl]
      refine ⟨rfl, p.pushLook l, ds, rfl, fun q => ?_⟩
      rw [readItem_counts, readCounts_of_isBlank _ hblank]
      rfl
  left
  unfold readItem
  split
  · exact openGroup_local p cs more h
  · exact .ofOption _ _ (List.suffix_refl _)
  · exact .within _ cs (List.suffix_refl _)
  · exact absurd rfl hbracket
  · exact readRepeat_local p 0 (some 1) cs more h
  · exact readRepeat_local p 0 none cs more h
  · exact readRepeat_local p 1 none cs more h
  · exact absurd rfl hcounts
  · exact absurd rfl hescape
  · exact .ofOption _ _ (List.suffix_refl _)
  · exact .within _ cs (List.suffix_refl _)
  · exact .within _ cs (List.suffix_refl _)
  · exact .ofOption _ _ (List.suffix_refl _)

end Dialogue.Expression
