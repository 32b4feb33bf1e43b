import Dialogue.Expression.Reader
import Dialogue.Proofs.Expression.Locality

/-!
# Readers of brackets

A character class in brackets is read in the same way whatever stands behind the parenthesis after it.
-/

namespace Dialogue.Expression

variable {β : Type} {f : Flags} {c : Char} {cs ds more rest : List Char}

/-! ## Names in brackets -/

theorem splitAt?_append_of_none {stop : Char} (hc : c ≠ stop) (h : Text.splitAt? stop cs = none)
    (more : List Char) :
    Text.splitAt? stop (cs ++ c :: more) =
      (Text.splitAt? stop more).map fun r => (cs ++ c :: r.1, r.2) := by
  induction cs with
  | nil => simp only [List.nil_append, Text.splitAt?, if_neg hc]
  | cons d cs ih =>
      simp only [List.cons_append, Text.splitAt?] at h ⊢
      split
      · next hd =>
          rw [if_pos hd] at h
          cases h
      · next hd =>
          rw [if_neg hd, Option.map_eq_none_iff] at h
          rw [ih h, Option.map_map]
          rfl

theorem readCaret_suffix (cs : List Char) : (readCaret cs).2 <:+ cs := by
  unfold readCaret
  split
  · exact List.suffix_cons _ _
  · exact List.suffix_refl _

theorem readCaret_append (cs more : List Char) :
    readCaret (cs ++ ')' :: more) = ((readCaret cs).1, (readCaret cs).2 ++ ')' :: more) := by
  cases cs with
  | nil => rfl
  | cons c cs =>
      by_cases hc : c = '^'
      · subst hc
        rfl
      · simp [readCaret, hc]

theorem namedAscii?_of_mem {name : List Char} (h : ')' ∈ name) : namedAscii? name = none := by
  have hplain : ∀ p ∈ asciiClasses, ')' ∉ p.1 := by decide
  refine List.lookup_eq_none_iff.mpr fun p hp => bne_iff_ne.mpr ?_
  rintro rfl
  exact hplain p hp h

theorem readNamed_suffix {s : Option CharSet} (h : readNamed f cs = some (s, rest)) :
    rest <:+ cs := by
  unfold readNamed at h
  split at h
  · next ds =>
      split at h
      · next name rest' hs =>
          obtain ⟨t, _, heq⟩ := Option.map_eq_some_iff.mp h
          cases heq
          have hd : rest <:+ (readCaret ds).2 :=
            ⟨name ++ [':', ']'], by rw [Text.splitAt?_eq_some hs]; simp⟩
          exact (hd.trans (readCaret_suffix ds)).trans (List.suffix_cons _ _)
      · cases h
  · cases h

/-- What fails to be the name of a class fails as well with a parenthesis behind it, as no name holds
one; so it is an open bracket both times. -/
theorem readNamed_append (f : Flags) (cs more : List Char) :
    readNamed f (cs ++ ')' :: more) = (readNamed f cs).map fun r => (r.1, r.2 ++ ')' :: more) := by
  obtain _ | ⟨c, cs⟩ := cs
  · rfl
  by_cases hc : c = ':'
  · subst hc
    simp only [List.cons_append, readNamed, readCaret_append]
    cases hs : Text.splitAt? ':' (readCaret cs).2 with
    | none =>
        rw [splitAt?_append_of_none (by decide) hs]
        cases Text.splitAt? ':' more with
        | none => rfl
        | some p =>
            have hname : namedAscii? ((readCaret cs).2 ++ ')' :: p.1) = none :=
              namedAscii?_of_mem (List.mem_append_right _ List.mem_cons_self)
            simp only [Option.map_some, Option.map_none]
            split
            · next heq =>
                rw [← (Prod.mk.inj (Option.some.inj heq)).1, hname]
                rfl
            · rfl
    | some p =>
        obtain ⟨name, rest⟩ := p
        rw [Text.splitAt?_append hs]
        obtain _ | ⟨d, rest⟩ := rest
        · rfl
        by_cases hd : d = ']'
        · subst hd
          simp only [List.cons_append]
          cases namedAscii? name <;> rfl
        · simp [hd]
  · simp [readNamed, hc]

/-! ## Members and ranges -/

theorem readMember_of_ne (f : Flags) (hc : c ≠ '\\') (cs : List Char) :
    readMember f (c :: cs) = some (.char c false, cs) := by
  unfold readMember
  split
  · next heq => cases heq
  · next heq => exact absurd (List.cons.inj heq).1 hc
  · next heq =>
      cases heq
      rfl

theorem readMember_local (f : Flags) (h : '#' ∉ cs) (more : List Char) :
    Extends more cs (readMember f cs) (readMember f (cs ++ ')' :: more)) ∨
      Frays more (readMember f cs) (readMember f (cs ++ ')' :: more)) := by
  obtain _ | ⟨c, cs⟩ := cs
  · exact .inl (.beyond _ more (Nat.le_refl _))
  by_cases hc : c = '\\'
  · subst hc
    exact (readEscape_local f (List.not_mem_of_not_mem_cons h) more).imp_left
      (·.mono (List.suffix_cons _ _))
  · rw [List.cons_append, readMember_of_ne f hc, readMember_of_ne f hc]
    exact .inl (.within _ cs (List.suffix_cons c cs))

theorem Atom.range?_look (f : Flags) (a : Atom) (l : Look) : a.range? f (.look l) = none := by
  cases a <;> rfl

/-- Reads what may follow the first member of a range. -/
def readRangeFrom (f : Flags) (a : Atom) (cs : List Char) : Option (CharSet × List Char) :=
  match skip f.extended cs with
  | '-' :: tail =>
    match skip f.extended tail with
    | ']' :: _ => (a.item? f).map (·, '-' :: tail)
    | '-' :: _ => (a.item? f).map (·, '-' :: tail)
    | next =>
      match readMember f next with
      | none => none
      | some (b, rest) => (a.range? f b).map (·, rest)
  | rest => (a.item? f).map (·, rest)

theorem readRange_eq_bind (f : Flags) (cs : List Char) :
    readRange f cs = (readMember f cs).bind fun r => readRangeFrom f r.1 r.2 := by
  unfold readRange
  cases readMember f cs with
  | none => rfl
  | some r => rfl

theorem readRangeFrom_of_ne (f : Flags) (a : Atom) (hs : skip f.extended cs = ds)
    (hd : ∀ tail, ds ≠ '-' :: tail) : readRangeFrom f a cs = (a.item? f).map (·, ds) := by
  unfold readRangeFrom
  rw [hs]
  split
  · next tail => exact absurd rfl (hd tail)
  · rfl

theorem readRangeFrom_item (f : Flags) (a : Atom) (hs : skip f.extended cs = '-' :: ds)
    (hc : c = ']' ∨ c = '-') (hd : skip f.extended ds = c :: rest) :
    readRangeFrom f a cs = (a.item? f).map (·, '-' :: ds) := by
  simp only [readRangeFrom, hs, hd]
  rcases hc with rfl | rfl
  · rfl
  · rfl

theorem readRangeFrom_range (f : Flags) (a : Atom) (hs : skip f.extended cs = '-' :: ds)
    (hclose : ∀ tail, skip f.extended ds ≠ ']' :: tail)
    (hhyphen : ∀ tail, skip f.extended ds ≠ '-' :: tail) :
    readRangeFrom f a cs =
      (readMember f (skip f.extended ds)).bind fun r => (a.range? f r.1).map (·, r.2) := by
  simp only [readRangeFrom, hs]
  cases readMember f (skip f.extended ds) <;> rfl

theorem readRangeFrom_look (f : Flags) (l : Look) (cs : List Char) :
    readRangeFrom f (.look l) cs = none := by
  unfold readRangeFrom
  split
  · split
    · rfl
    · rfl
    · split <;> rfl
  · rfl

theorem readRangeFrom_length {a : Atom} {s : CharSet} (h : readRangeFrom f a cs = some (s, rest)) :
    rest.length ≤ cs.length := by
  have hs := (skip_suffix f.extended cs).length_le
  unfold readRangeFrom at h
  split at h
  · next tail heq =>
      rw [heq] at hs
      have ht := (skip_suffix f.extended tail).length_le
      split at h
      · obtain ⟨t, _, heq⟩ := Option.map_eq_some_iff.mp h
        cases heq
        exact hs
      · obtain ⟨t, _, heq⟩ := Option.map_eq_some_iff.mp h
        cases heq
        exact hs
      · split at h
        · cases h
        · next hb =>
            obtain ⟨t, _, heq⟩ := Option.map_eq_some_iff.mp h
            cases heq
            have := readMember_length hb
            simp only [List.length_cons] at hs
            omega
  · obtain ⟨t, _, heq⟩ := Option.map_eq_some_iff.mp h
    cases heq
    exact hs

theorem readRangeFrom_local (f : Flags) (a : Atom) : Local (readRangeFrom f a) := by
  intro cs more h
  by_cases hh : ∃ ds, skip f.extended cs = '-' :: ds
  · obtain ⟨ds, hs⟩ := hh
    have hs' := skip_cons_append h hs more
    have hd : '-' :: ds <:+ cs := hs ▸ skip_suffix f.extended cs
    have hds := notMem_of_suffix (suffix_of_skip hs) h
    have hnext := (skip_suffix f.extended ds).trans (suffix_of_skip hs)
    by_cases hend : ∃ c tail, (c = ']' ∨ c = '-') ∧ skip f.extended ds = c :: tail
    · obtain ⟨c, tail, hc, ht⟩ := hend
      rw [readRangeFrom_item f a hs hc ht, readRangeFrom_item f a hs' hc (skip_cons_append hds ht more)]
      exact .ofOption _ _ hd
    · have hclose : ∀ tail, skip f.extended ds ≠ ']' :: tail :=
        fun tail ht => hend ⟨']', tail, .inl rfl, ht⟩
      have hhyphen : ∀ tail, skip f.extended ds ≠ '-' :: tail :=
        fun tail ht => hend ⟨'-', tail, .inr rfl, ht⟩
      have happend := skip_append f.extended hds more
      rw [readRangeFrom_range f a hs hclose hhyphen,
        readRangeFrom_range f a hs' (happend ▸ append_ne_cons (by decide) hclose more)
          (happend ▸ append_ne_cons (by decide) hhyphen more), happend]
      rcases readMember_local f (notMem_skip hds) more with he | he
      · exact (he.filterMap (a.range? f) id).mono hnext
      · refine he.bind (g := fun b rest => (a.range? f b).map (·, rest)) (fun l ds => ?_) cs
        rw [Atom.range?_look]
        rfl
  · have hne : ∀ tail, skip f.extended cs ≠ '-' :: tail := fun tail hs => hh ⟨tail, hs⟩
    rw [readRangeFrom_of_ne f a rfl hne, readRangeFrom_of_ne f a (skip_append f.extended h more)
      (append_ne_cons (by decide) hne more)]
    exact .ofOption _ _ (skip_suffix f.extended cs)

theorem readRange_local (f : Flags) : Local (readRange f) := by
  intro cs more h
  rw [readRange_eq_bind, readRange_eq_bind]
  rcases readMember_local f h more with he | he
  · exact he.bind (g := readRangeFrom f)
      (fun a rest _ hr => readRangeFrom_local f a rest more (notMem_of_suffix hr h))
      fun _ _ _ _ => readRangeFrom_length
  · exact he.bind (g := readRangeFrom f) (readRangeFrom_look f) cs

/-! ## Brackets -/

theorem openBracket_append (x : Bool) (h : '#' ∉ cs) (more : List Char) :
    openBracket x (cs ++ ')' :: more) =
      ((openBracket x cs).1, (openBracket x cs).2 ++ ')' :: more) := by
  have hs := (readCaret_suffix (skip x cs)).trans (skip_suffix x cs)
  have hr := ((collect_suffix x (· = '-') (skip x (readCaret (skip x cs)).2)).trans
    (skip_suffix x _)).trans hs
  simp only [openBracket, skip_append x h, readCaret_append, skip_append x (notMem_of_suffix hs h),
    collect_append_of_stop x (· = '-') rfl (notMem_skip (notMem_of_suffix hs h))]
  generalize collect x (· = '-') (skip x (readCaret (skip x cs)).2) = r at hr
  obtain ⟨_ | ⟨c, hyphens⟩, _ | ⟨d, rest⟩⟩ := r
  · rfl
  · by_cases hd : d = ']'
    · subst hd
      have hr : rest <:+ cs := (List.suffix_cons _ _).trans hr
      simp only [List.cons_append, skip_append x (notMem_of_suffix hr h)]
    · simp [hd]
  · rfl
  · rfl

theorem openBracket_suffix (x : Bool) (cs : List Char) : (openBracket x cs).2 <:+ cs := by
  have hs := (readCaret_suffix (skip x cs)).trans (skip_suffix x cs)
  have hr := ((collect_suffix x (· = '-') (skip x (readCaret (skip x cs)).2)).trans
    (skip_suffix x _)).trans hs
  simp only [openBracket]
  split
  · next rest heq =>
      rw [heq] at hr
      exact (skip_suffix x rest).trans ((List.suffix_cons _ _).trans hr)
  · next heq =>
      rw [heq] at hr
      exact hr

theorem readBracket_eq (f : Flags) (b : Bracket) (outer : List Bracket) (cs : List Char) :
    readBracket f b outer cs =
      match skip f.extended cs with
      | [] => none
      | '[' :: tail =>
        match readNamed f tail with
        | some (none, _) => none
        | some (some s, rest) => readBracket f (b.add s 0) outer rest
        | none =>
          readBracket f (openBracket f.extended tail).1 (b :: outer) (openBracket f.extended tail).2
      | ']' :: tail =>
        match b.close? f, outer with
        | none, _ => none
        | some v, [] => some (v, tail)
        | some v, o :: outer => readBracket f (o.add v.1 v.2) outer tail
      | '&' :: '&' :: tail => readBracket f (b.operator f .inter) outer tail
      | '-' :: '-' :: tail => readBracket f (b.operator f .diff) outer tail
      | '~' :: '~' :: tail => readBracket f (b.operator f .symmDiff) outer tail
      | c :: tail => (readRange f (c :: tail)).bind fun r => readBracket f (b.add r.1 0) outer r.2 := by
  rw [readBracket]
  split
  · next heq => simp only [heq]
  · next heq =>
      simp only [heq]
      split
      · next hn => simp only [hn]
      · next hn => simp only [hn]
      · next hn => simp only [hn]
  · next heq => exact heq ▸ rfl
  · next heq => simp only [heq]
  · next heq => simp only [heq]
  · next heq => simp only [heq]
  · next heq =>
      simp only [heq]
      split
      · next hr => simp only [hr, Option.bind_none]
      · next hr => simp only [hr, Option.bind_some]

theorem readBracket_range (b : Bracket) (outer : List Bracket) (hs : skip f.extended cs = c :: ds)
    (hopen : c ≠ '[') (hclose : c ≠ ']') (hinter : ∀ tail, c = '&' → ds ≠ '&' :: tail)
    (hdiff : ∀ tail, c = '-' → ds ≠ '-' :: tail) (hsymm : ∀ tail, c = '~' → ds ≠ '~' :: tail) :
    readBracket f b outer cs =
      (readRange f (c :: ds)).bind fun r => readBracket f (b.add r.1 0) outer r.2 := by
  rw [readBracket_eq, hs]
  split
  · next heq => cases heq
  · next heq => cases heq; exact absurd rfl hopen
  · next heq => cases heq; exact absurd rfl hclose
  · next heq => cases heq; exact absurd rfl (hinter _ rfl)
  · next heq => cases heq; exact absurd rfl (hdiff _ rfl)
  · next heq => cases heq; exact absurd rfl (hsymm _ rfl)
  · next heq => cases heq; rfl

/-- The step of a member or a range, given what happens after it. -/
theorem readBracket_range_local (b : Bracket) (outer : List Bracket) (more : List Char) (h : '#' ∉ cs)
    (hs : skip f.extended cs = c :: ds) (hopen : c ≠ '[') (hclose : c ≠ ']')
    (hinter : ∀ tail, c = '&' → ds ≠ '&' :: tail) (hdiff : ∀ tail, c = '-' → ds ≠ '-' :: tail)
    (hsymm : ∀ tail, c = '~' → ds ≠ '~' :: tail)
    (hrest : ∀ s rest, readRange f (c :: ds) = some (s, rest) → '#' ∉ rest →
      Extends more rest (readBracket f (b.add s 0) outer rest)
        (readBracket f (b.add s 0) outer (rest ++ ')' :: more))) :
    Extends more cs ((readRange f (c :: ds)).bind fun r => readBracket f (b.add r.1 0) outer r.2)
      (readBracket f b outer (cs ++ ')' :: more)) := by
  have hd : c :: ds <:+ cs := hs ▸ skip_suffix f.extended cs
  have hc := notMem_of_suffix hd h
  rw [readBracket_range b outer (skip_cons_append h hs more) hopen hclose
    (fun tail hc => append_ne_cons (by decide) (fun tail => hinter tail hc) more tail)
    (fun tail hc => append_ne_cons (by decide) (fun tail => hdiff tail hc) more tail)
    (fun tail hc => append_ne_cons (by decide) (fun tail => hsymm tail hc) more tail)]
  exact ((readRange_local f (c :: ds) more hc).bind
    (g := fun s rest => readBracket f (b.add s 0) outer rest)
    (fun s rest heq hr => hrest s rest heq (notMem_of_suffix hr hc))
    fun _ _ _ _ => readBracket_length).mono hd

theorem readBracket_local (f : Flags) (b : Bracket) (outer : List Bracket) :
    Local (readBracket f b outer) := by
  intro cs more h
  fun_induction readBracket f b outer cs with
  | case1 b outer cs hs =>
      -- The parenthesis becomes a member of the class.
      rw [readBracket_range b outer (skip_nil_append h hs more) (by decide) (by decide)
        (fun _ hc => absurd hc (by decide)) (fun _ hc => absurd hc (by decide))
        (fun _ hc => absurd hc (by decide))]
      refine .ofLength fun v rest hv => ?_
      obtain ⟨r, hr, hv⟩ := Option.bind_eq_some_iff.mp hv
      exact Nat.le_trans (readBracket_length hv) (Nat.le_of_lt_succ (readRange_length hr))
  | case2 b outer cs tail hs rest hn =>
      rw [readBracket_eq, skip_cons_append h hs]
      simp only [readNamed_append, hn, Option.map_some]
      exact .stuck
  | case3 b outer cs tail hs s rest hn ih =>
      have hr := (readNamed_suffix hn).trans (suffix_of_skip hs)
      rw [readBracket_eq f b outer (cs ++ ')' :: more), skip_cons_append h hs]
      simp only [readNamed_append, hn, Option.map_some]
      exact (ih (notMem_of_suffix hr h)).mono hr
  | case4 b outer cs tail hs hn ih =>
      have ht := notMem_of_suffix (suffix_of_skip hs) h
      have hr := (openBracket_suffix f.extended tail).trans (suffix_of_skip hs)
      rw [readBracket_eq f b outer (cs ++ ')' :: more), skip_cons_append h hs]
      simp only [readNamed_append, hn, Option.map_none, openBracket_append _ ht]
      exact (ih (notMem_of_suffix hr h)).mono hr
  | case5 b outer cs tail hs hc =>
      rw [readBracket_eq, skip_cons_append h hs]
      simp only [hc]
      exact .stuck
  | case6 b cs tail hs v hc =>
      rw [readBracket_eq, skip_cons_append h hs]
      simp only [hc]
      exact .within v tail (suffix_of_skip hs)
  | case7 b cs tail hs v o outer hc ih =>
      have hr := suffix_of_skip hs
      rw [readBracket_eq f b (o :: outer) (cs ++ ')' :: more), skip_cons_append h hs]
      simp only [hc]
      exact (ih (notMem_of_suffix hr h)).mono hr
  | case8 b outer cs tail hs ih =>
      have hr := (List.suffix_cons _ _).trans (suffix_of_skip hs)
      rw [readBracket_eq f b outer (cs ++ ')' :: more), skip_cons_append h hs]
      exact (ih (notMem_of_suffix hr h)).mono hr
  | case9 b outer cs tail hs ih =>
      have hr := (List.suffix_cons _ _).trans (suffix_of_skip hs)
      rw [readBracket_eq f b outer (cs ++ ')' :: more), skip_cons_append h hs]
      exact (ih (notMem_of_suffix hr h)).mono hr
  | case10 b outer cs tail hs ih =>
      have hr := (List.suffix_cons _ _).trans (suffix_of_skip hs)
      rw [readBracket_eq f b outer (cs ++ ')' :: more), skip_cons_append h hs]
      exact (ih (notMem_of_suffix hr h)).mono hr
  | case11 b outer cs c tail hopen hclose hinter hdiff hsymm hs hr =>
      have he := readBracket_range_local b outer more h hs hopen hclose hinter hdiff hsymm
        fun s rest heq _ => by
          rw [hr] at heq
          cases heq
      rw [hr] at he
      exact he
  | case12 b outer cs c tail hopen hclose hinter hdiff hsymm hs s rest hr ih =>
      have he := readBracket_range_local b outer more h hs hopen hclose hinter hdiff hsymm
        fun s rest heq hrest => by
          rw [hr] at heq
          cases heq
          exact ih hrest
      rw [hr] at he
      exact he

end Dialogue.Expression
