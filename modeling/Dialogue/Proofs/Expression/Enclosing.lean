import Dialogue.Proofs.Expression.Items
import Dialogue.Proofs.Pattern.Reading

/-!
# Reading within a group

A text by itself and the same text within a group are read item by item in the same way, up to the
parenthesis that closes the group. Which parenthesis that is, the text decides.
-/

namespace Dialogue.Expression

variable {p p' q : Progress} {c : Char} {cs ds more rest tail : List Char}

/-! ## Runs of items -/

/-- Reading goes from one state to another, item by item, with the text that is left each time. -/
inductive Reads : Progress → List Char → Progress → List Char → Prop
  | done (p : Progress) (cs : List Char) : Reads p cs p cs
  | item {p p' q : Progress} {c : Char} {cs tail rest ds : List Char} :
    skip p.flags.extended cs = c :: tail → readItem p c tail = some (p', rest) →
      Reads p' rest q ds → Reads p cs q ds

theorem Reads.length (h : Reads p cs q ds) : ds.length ≤ cs.length := by
  induction h with
  | done => exact Nat.le_refl _
  | item hs hi _ ih =>
      have hcs := (suffix_of_skip hs).length_le
      have hrest := readItem_length hi
      omega

theorem readItems_of_skip_nil (hs : skip p.flags.extended cs = []) : readItems p cs = some p := by
  rw [readItems]
  split
  · rfl
  · next heq =>
      rw [hs] at heq
      cases heq

theorem readItems_of_skip_cons (hs : skip p.flags.extended cs = c :: tail) :
    readItems p cs = (readItem p c tail).bind fun r => readItems r.1 r.2 := by
  rw [readItems]
  split
  · next heq =>
      rw [hs] at heq
      cases heq
  · next heq =>
      rw [hs] at heq
      cases heq
      split
      · next hi => rw [hi, Option.bind_none]
      · next hi => rw [hi, Option.bind_some]

theorem Reads.readItems_eq (h : Reads p cs q ds) : readItems p cs = readItems q ds := by
  induction h with
  | done => rfl
  | item hs hi _ ih => rw [readItems_of_skip_cons hs, hi, Option.bind_some, ih]

/-- Reading succeeds where a run of items leaves nothing but white space. -/
theorem readItems_eq_some_iff :
    readItems p cs = some q ↔ ∃ ds, Reads p cs q ds ∧ skip q.flags.extended ds = [] := by
  constructor
  · intro h
    fun_induction readItems p cs with
    | case1 p cs hs =>
        cases h
        exact ⟨cs, .done _ cs, hs⟩
    | case2 p cs c tail hs hi => cases h
    | case3 p cs c tail hs p' rest hi ih =>
        obtain ⟨ds, hr, hds⟩ := ih h
        exact ⟨ds, .item hs hi hr, hds⟩
  · rintro ⟨ds, hr, hds⟩
    rw [hr.readItems_eq, readItems_of_skip_nil hds]

/-! ## A parenthesis behind the text -/

theorem readItem_append (h : '#' ∉ cs) (hi : readItem p c cs = some (p', rest)) (more : List Char) :
    rest <:+ cs ∧ readItem p c (cs ++ ')' :: more) = some (p', rest ++ ')' :: more) := by
  rcases readItem_local p c h more with he | ⟨hn, _⟩
  · rw [hi] at he
    exact he.eq_of_some
  · rw [hi] at hn
    cases hn

theorem readItem_suffix (h : '#' ∉ cs) (hi : readItem p c cs = some (p', rest)) : rest <:+ cs :=
  (readItem_append h hi []).1

theorem Reads.suffix (h : '#' ∉ cs) (hr : Reads p cs q ds) : ds <:+ cs := by
  induction hr with
  | done => exact List.suffix_refl _
  | item hs hi _ ih =>
      have ht := suffix_of_skip hs
      have hrest := (readItem_suffix (notMem_of_suffix ht h) hi).trans ht
      exact (ih (notMem_of_suffix hrest h)).trans hrest

theorem Reads.append (h : '#' ∉ cs) (hr : Reads p cs q ds) (more : List Char) :
    Reads p (cs ++ ')' :: more) q (ds ++ ')' :: more) := by
  induction hr with
  | done p cs => exact .done p _
  | @item p p' q c cs tail rest ds hs hi _ ih =>
      have ht := suffix_of_skip hs
      have htail := notMem_of_suffix ht h
      obtain ⟨hrest, hi⟩ := readItem_append htail hi more
      exact .item (skip_cons_append h hs more) hi (ih (notMem_of_suffix (hrest.trans ht) h))

theorem skip_brace (x : Bool) (cs : List Char) : skip x ('{' :: cs) = '{' :: cs := by
  cases x <;> rfl

/-- A run that comes to stand before a parenthesis has read the text before it by itself. -/
theorem Reads.before (h : '#' ∉ cs) (hr : Reads p (cs ++ ')' :: more) q ds)
    (hds : skip q.flags.extended ds = ')' :: more) : readItems p cs = some q := by
  generalize heq : cs ++ ')' :: more = text at hr
  induction hr generalizing cs with
  | done p text =>
      subst heq
      rw [skip_append _ h] at hds
      refine readItems_of_skip_nil ?_
      exact List.append_left_eq_self.mp hds
  | @item p p' q c text tail rest ds hs hi hr ih =>
      subst heq
      have hbeyond : more.length < rest.length := by
        have hlength := (skip_suffix q.flags.extended ds).length_le
        rw [hds, List.length_cons] at hlength
        have := hr.length
        omega
      cases hcs : skip p.flags.extended cs with
      | nil =>
          rw [skip_nil_append h hcs] at hs
          cases hs
          have := readItem_length hi
          omega
      | cons d tail' =>
          rw [skip_cons_append h hcs] at hs
          obtain ⟨rfl, rfl⟩ := List.cons.inj hs
          have ht := suffix_of_skip hcs
          rw [readItems_of_skip_cons hcs]
          rcases readItem_local p d (notMem_of_suffix ht h) more with he | ⟨_, q', ds', hi', hfail⟩
          · rw [hi] at he
            generalize readItem p d tail' = r at he
            cases he with
            | within _ rest' hrest =>
                exact ih (notMem_of_suffix (hrest.trans ht) h) hds rfl
            | beyond _ _ hrest => omega
          · -- Nothing can be read from the brace, so the run would have to end there.
            rw [hi] at hi'
            cases hi'
            have hbrace := skip_brace p'.flags.extended (ds' ++ ')' :: more)
            cases hr with
            | done =>
                rw [hbrace] at hds
                cases hds
            | item hs hi =>
                rw [hbrace] at hs
                cases hs
                rw [hfail] at hi
                cases hi

/-! ## Within a group -/

/-- The state in which what has been read stands within one more open group. -/
def Progress.within (p : Progress) (w : Level) : Progress :=
  { p with levels := p.levels ++ [w] }

@[simp] theorem Progress.within_flags (p : Progress) (w : Level) : (p.within w).flags = p.flags :=
  rfl

theorem turn_within (p : Progress) (w : Level) (flags : Flags) (c : Char) :
    (p.within w).turn flags c = (p.turn flags c).within w := by
  unfold Progress.turn
  split <;> rfl

theorem openGroup_within (p : Progress) (w : Level) (cs : List Char) :
    openGroup (p.within w) cs = (openGroup p cs).map fun r => (r.1.within w, r.2) := by
  generalize hr : openGroup (p.within w) cs = r
  unfold openGroup
  split
  · next hs =>
      rw [openGroup, Progress.within_flags, hs] at hr
      exact hr.symm
  · next hs =>
      rw [openGroup, Progress.within_flags, hs] at hr
      exact hr.symm
  · next hs =>
      rw [openGroup, Progress.within_flags, hs] at hr
      exact hr.symm
  · next hs =>
      rw [openGroup, Progress.within_flags, hs] at hr
      exact hr.symm
  · next ds hs =>
      rw [openGroup, Progress.within_flags, hs] at hr
      rw [Option.map_map, ← hr]
      rfl
  · next ds hahead hnot hs =>
      rw [openGroup_name (p := p.within w) hs hahead hnot] at hr
      rw [Option.map_map, ← hr]
      rfl
  · next ds hahead hnot _ _ hnamed hname hs =>
      rw [openGroup_flags (p := p.within w) hs hahead hnot hname hnamed] at hr
      rw [← hr]
      refine .trans ?_ (congrArg (Option.map _) (match_readFlags_eq_map p _)).symm
      simp only [Option.map_map, turn_within]
      rfl
  · next hne =>
      rw [openGroup_capture (p := p.within w) rfl hne] at hr
      exact hr.symm

theorem repeat?_within (p : Progress) (w : Level) (min : Nat) (max : Option Nat) (marked : Bool) :
    (p.within w).repeat? min max marked = (p.repeat? min max marked).map (·.within w) := by
  obtain ⟨flags, items, branches, levels, names, captures⟩ := p
  cases items with
  | nil => rfl
  | cons part items =>
      simp only [Progress.within, Progress.repeat?]
      split <;> rfl

theorem readRepeat_within (p : Progress) (w : Level) (min : Nat) (max : Option Nat)
    (cs : List Char) :
    readRepeat (p.within w) min max cs = (readRepeat p min max cs).map fun r => (r.1.within w, r.2) := by
  rw [readRepeat, readRepeat, repeat?_within, Option.map_map, Option.map_map]
  rfl

theorem pushAtom?_within (p : Progress) (w : Level) (a : Atom) :
    (p.within w).pushAtom? a = (p.pushAtom? a).map (·.within w) := by
  cases a with
  | char c asByte => 
      simp only [Progress.pushAtom?, Option.map_map]
      rfl
  | set s => rfl
  | look l => rfl

theorem leave?_within (w : Level) (hp : p.levels ≠ []) :
    (p.within w).leave? = p.leave?.map (·.within w) := by
  obtain ⟨flags, items, branches, levels, names, captures⟩ := p
  cases levels with
  | nil => exact absurd rfl hp
  | cons level levels => rfl

/-- But for the parenthesis that closes the group, every item is read within it as without. -/
theorem readItem_within (w : Level) (cs : List Char) (hc : c = ')' → p.levels ≠ []) :
    readItem (p.within w) c cs = (readItem p c cs).map fun r => (r.1.within w, r.2) := by
  by_cases hcounts : c = '{'
  · subst hcounts
    rw [readItem_counts, readItem_counts]
    simp only [Progress.within_flags, readRepeat_within]
    cases readCounts p.flags.extended cs <;> rfl
  by_cases hescape : c = '\\'
  · subst hescape
    rw [readItem_escape, readItem_escape]
    simp only [Progress.within_flags, pushAtom?_within]
    cases readEscape p.flags cs with
    | none => rfl
    | some r =>
        simp only [Option.bind_some, Option.map_map]
        rfl
  unfold readItem
  split
  · exact openGroup_within p w cs
  · rw [leave?_within w (hc rfl), Option.map_map, Option.map_map]
    rfl
  · rfl
  · simp only [Option.map_map]
    rfl
  · exact readRepeat_within p w 0 (some 1) cs
  · exact readRepeat_within p w 0 none cs
  · exact readRepeat_within p w 1 none cs
  · exact absurd rfl hcounts
  · exact absurd rfl hescape
  · simp only [Option.map_map]
    rfl
  · rfl
  · rfl
  · simp only [pushAtom?_within, Option.map_map]
    rfl

theorem readItem_close (p : Progress) (cs : List Char) :
    readItem p ')' cs = p.leave?.map (·, cs) :=
  rfl

theorem Reads.within (hr : Reads p cs q ds) (w : Level) :
    Reads (p.within w) cs (q.within w) ds := by
  induction hr with
  | done p cs => exact .done _ cs
  | @item p p' q c cs tail rest ds hs hi _ ih =>
      have hopen : c = ')' → p.levels ≠ [] := by
        rintro rfl hp
        rw [readItem_close, Progress.leave?, hp] at hi
        cases hi
      refine .item hs ?_ ih
      rw [readItem_within w tail hopen, hi]
      rfl

/-- A run that leaves the group comes to the parenthesis that closes it, and what it has read by then is
read without the group as well. -/
theorem Reads.exists_close {w : Level} (hr : Reads (p.within w) cs q ds) (hq : q.levels = []) :
    ∃ p' cs' tail, Reads p cs p' cs' ∧ skip p'.flags.extended cs' = ')' :: tail ∧
      p'.levels = [] := by
  generalize hw : p.within w = p₀ at hr
  induction hr generalizing p with
  | done p₀ cs =>
      subst hw
      exact absurd hq (List.append_ne_nil_of_right_ne_nil _ (List.cons_ne_nil w []))
  | @item p₀ p₁ q c cs tail rest ds hs hi _ ih =>
      subst hw
      by_cases hc : c = ')' ∧ p.levels = []
      · obtain ⟨rfl, hp⟩ := hc
        exact ⟨p, cs, tail, .done p cs, hs, hp⟩
      · rw [readItem_within w tail fun hclose hp => hc ⟨hclose, hp⟩] at hi
        obtain ⟨⟨p', rest'⟩, hi', heq⟩ := Option.map_eq_some_iff.mp hi
        cases heq
        obtain ⟨p'', cs', tail', hr, hs', hp⟩ := ih hq rfl
        exact ⟨p'', cs', tail', .item hs hi' hr, hs', hp⟩

/-! ## Between anchors -/

/-- What a text is read as, if it closes the groups that it opens and no others. -/
def readPart (cs : List Char) : Option Part :=
  (readItems {} cs).bind fun p => if p.levels = [] then some p.group else none

theorem read_eq_readPart (cs : List Char) :
    read cs = (readPart cs).bind fun part =>
      if part.depth ≤ maxDepth then some part.expression else none := by
  unfold read readPart
  cases readItems {} cs with
  | none => rfl
  | some p => by_cases hp : p.levels = [] <;> simp [hp]

theorem readPart_eq_some_iff {part : Part} :
    readPart cs = some part ↔ ∃ p, readItems {} cs = some p ∧ p.levels = [] ∧ p.group = part := by
  rw [readPart, Option.bind_eq_some_iff]
  refine exists_congr fun p => and_congr_right fun _ => ?_
  split
  · next hp => simp [hp]
  · next hp => simp [hp]

/-- The group between the anchors while it is open. -/
def anchorLevel : Level := ⟨{}, [{ expression := .look .start }], [], none⟩

/-- What an expression becomes between the anchors. -/
def betweenAnchors (e : Expression) : Expression :=
  .seq (.look .start) (.seq (.group none e) (.look .stop))

theorem readItems_anchored (cs : List Char) :
    readItems {} (anchored cs) = readItems (({} : Progress).within anchorLevel) (cs ++ [')', '$']) := by
  let p₁ : Progress := ({} : Progress).pushLook .start
  calc readItems {} (anchored cs)
    _ = readItems p₁ ('(' :: '?' :: ':' :: (cs ++ [')', '$'])) := readItems_cons rfl rfl
    _ = readItems (p₁.enter {}) (cs ++ [')', '$']) := readItems_cons rfl rfl

theorem readItems_close (hp : p.levels = []) (hs : skip p.flags.extended cs = [')', '$']) :
    ∃ q, readItems (p.within anchorLevel) cs = some q ∧ q.levels = [] ∧
      q.group = { expression := betweenAnchors p.group.expression, depth := p.group.depth + 2 } := by
  let group : Part := { expression := .group none p.group.expression, depth := p.group.depth + 1 }
  let p₁ : Progress :=
    { p with flags := {}, items := [group, { expression := .look .start }], branches := [], levels := [] }
  have hleave : (p.within anchorLevel).leave? = some p₁ := by
    simp only [Progress.within, Progress.leave?, hp]
    rfl
  refine ⟨p₁.pushLook .stop, ?_, rfl, ?_⟩
  · calc readItems (p.within anchorLevel) cs
      _ = readItems p₁ ['$'] := by
        rw [readItems_of_skip_cons (p := p.within anchorLevel) hs, readItem_close, hleave]
        rfl
      _ = readItems (p₁.pushLook .stop) [] := readItems_cons rfl rfl
      _ = some (p₁.pushLook .stop) := readItems_of_skip_nil rfl
  · have hdepth : max (max (max 0 0) (p.group.depth + 1)) 0 + 1 = p.group.depth + 2 := by omega
    rw [← hdepth]
    rfl

theorem readPart_anchored {part : Part} (h : '#' ∉ cs) (hpart : readPart cs = some part) :
    readPart (anchored cs) =
      some { expression := betweenAnchors part.expression, depth := part.depth + 2 } := by
  obtain ⟨p, hread, hp, rfl⟩ := readPart_eq_some_iff.mp hpart
  obtain ⟨ds, hr, hds⟩ := readItems_eq_some_iff.mp hread
  have hclose := skip_nil_append (notMem_of_suffix (hr.suffix h) h) hds ['$']
  obtain ⟨q, hq, hlevels, hgroup⟩ := readItems_close hp hclose
  refine readPart_eq_some_iff.mpr ⟨q, ?_, hlevels, hgroup⟩
  rw [readItems_anchored, ((hr.append h ['$']).within anchorLevel).readItems_eq, hq]

/-- Where an anchored text is read, the group between the anchors may end before the text does. -/
theorem readPart_of_anchored {part : Part} (h : '#' ∉ cs) (hpart : readPart (anchored cs) = some part) :
    (∃ part, readPart cs = some part) ∨
      ∃ before after part, cs = before ++ ')' :: after ∧ readPart before = some part := by
  obtain ⟨q, hread, hq, _⟩ := readPart_eq_some_iff.mp hpart
  rw [readItems_anchored] at hread
  obtain ⟨ds, hr, _⟩ := readItems_eq_some_iff.mp hread
  obtain ⟨p, cs', tail, hr, hs, hp⟩ := hr.exists_close hq
  have hanchored : '#' ∉ cs ++ [')', '$'] := by
    rw [List.mem_append]
    exact not_or.mpr ⟨h, by decide⟩
  have hsuffix : ')' :: tail <:+ cs ++ [')', '$'] :=
    (hs ▸ skip_suffix p.flags.extended cs').trans (hr.suffix hanchored)
  obtain ⟨before, heq⟩ := hsuffix
  have hbefore : '#' ∉ before := fun hb => hanchored (heq ▸ List.mem_append_left _ hb)
  rw [← heq] at hr
  have hwhole : readPart before = some p.group :=
    readPart_eq_some_iff.mpr ⟨p, hr.before hbefore hs, hp, rfl⟩
  rcases List.append_eq_append_iff.mp heq with ⟨mid, rfl, htail⟩ | ⟨mid, rfl, htail⟩
  · cases mid with
    | nil =>
        rw [List.append_nil]
        exact .inl ⟨_, hwhole⟩
    | cons c mid =>
        obtain ⟨rfl, _⟩ := List.cons.inj htail
        exact .inr ⟨before, mid, _, rfl, hwhole⟩
  · cases mid with
    | nil =>
        rw [List.append_nil] at hwhole
        exact .inl ⟨_, hwhole⟩
    | cons c mid =>
        have hmem : ')' ∈ ['$'] := by
          rw [(List.cons.inj htail).2]
          exact List.mem_append_right _ List.mem_cons_self
        exact absurd hmem (by decide)

end Dialogue.Expression
