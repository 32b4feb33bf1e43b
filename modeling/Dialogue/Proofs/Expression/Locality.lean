import Dialogue.Expression.Escape

/-!
# Readers and the text behind them

What is read from a text stays as it is when a closing parenthesis and more text come after it, unless
the reader runs over the parenthesis. Only a comment could swallow the parenthesis unseen, so the texts
here hold no `#`.
-/

namespace Dialogue.Expression

variable {α β γ : Type} {x : Bool} {c : Char} {cs ds more rest : List Char}

/-! ## Texts before a parenthesis -/

theorem notMem_of_suffix (hs : ds <:+ cs) (h : c ∉ cs) : c ∉ ds :=
  fun hd => h (hs.subset hd)

theorem append_ne_cons (hc : c ≠ ')') (h : ∀ tail, cs ≠ c :: tail) (more tail : List Char) :
    cs ++ ')' :: more ≠ c :: tail := by
  cases cs with
  | nil => exact fun heq => hc (List.cons.inj heq).1.symm
  | cons d cs =>
      intro heq
      obtain ⟨rfl, _⟩ := List.cons.inj heq
      exact h cs rfl

theorem append_ne_cons_cons {d : Char} (hc : c ≠ ')') (hd : d ≠ ')')
    (h : ∀ tail, cs ≠ c :: d :: tail) (more tail : List Char) :
    cs ++ ')' :: more ≠ c :: d :: tail := by
  cases cs with
  | nil => exact fun heq => hc (List.cons.inj heq).1.symm
  | cons e cs =>
      intro heq
      obtain ⟨rfl, htail⟩ := List.cons.inj heq
      exact append_ne_cons hd (fun tail ht => h tail (congrArg _ ht)) more tail htail

/-! ## White space -/

mutual
theorem dropIgnored_suffix : (cs : List Char) → dropIgnored cs <:+ cs
  | [] => List.suffix_refl _
  | c :: cs => by
    have h := dropIgnored_suffix cs
    have h' := dropComment_suffix cs
    simp only [dropIgnored]
    split
    · exact h.trans (List.suffix_cons c cs)
    · split
      · exact h'.trans (List.suffix_cons c cs)
      · exact List.suffix_refl _

theorem dropComment_suffix : (cs : List Char) → dropComment cs <:+ cs
  | [] => List.suffix_refl _
  | c :: cs => by
    have h := dropIgnored_suffix cs
    have h' := dropComment_suffix cs
    simp only [dropComment]
    split
    · exact h.trans (List.suffix_cons c cs)
    · exact h'.trans (List.suffix_cons c cs)
end

theorem skip_suffix (x : Bool) (cs : List Char) : skip x cs <:+ cs := by
  cases x with
  | true => exact dropIgnored_suffix cs
  | false => exact List.suffix_refl cs

theorem suffix_of_skip (hs : skip x cs = c :: ds) : ds <:+ cs :=
  (List.suffix_cons c ds).trans (hs ▸ skip_suffix x cs)

theorem notMem_skip (h : c ∉ cs) : c ∉ skip x cs :=
  notMem_of_suffix (skip_suffix x cs) h

theorem skip_append (x : Bool) (h : '#' ∉ cs) (more : List Char) :
    skip x (cs ++ ')' :: more) = skip x cs ++ ')' :: more := by
  cases x with
  | false => rfl
  | true =>
      change dropIgnored _ = dropIgnored _ ++ _
      induction cs with
      | nil => rfl
      | cons c cs ih =>
          obtain ⟨hc, hcs⟩ := List.ne_and_not_mem_of_not_mem_cons h
          simp only [List.cons_append, dropIgnored, if_neg hc.symm]
          split
          · exact ih hcs
          · rfl

theorem skip_nil_append (h : '#' ∉ cs) (hs : skip x cs = []) (more : List Char) :
    skip x (cs ++ ')' :: more) = ')' :: more := by
  rw [skip_append x h, hs, List.nil_append]

theorem isBlank_of_skip_nil (h : '#' ∉ cs) (hs : skip x cs = []) : ∀ c ∈ cs, Text.isBlank c := by
  cases x with
  | false =>
      cases hs
      exact fun c hc => absurd hc List.not_mem_nil
  | true =>
      change dropIgnored cs = [] at hs
      induction cs with
      | nil => exact fun c hc => absurd hc List.not_mem_nil
      | cons c cs ih =>
          obtain ⟨hc, hcs⟩ := List.ne_and_not_mem_of_not_mem_cons h
          simp only [dropIgnored, if_neg hc.symm] at hs
          split at hs
          · next hblank => exact List.forall_mem_cons.mpr ⟨hblank, ih hcs hs⟩
          · cases hs

theorem skip_cons_append (h : '#' ∉ cs) (hs : skip x cs = c :: ds) (more : List Char) :
    skip x (cs ++ ')' :: more) = c :: (ds ++ ')' :: more) := by
  rw [skip_append x h, hs, List.cons_append]

theorem collect_cons (x : Bool) (ok : Char → Bool) (c : Char) (cs : List Char) :
    collect x ok (c :: cs) =
      if ok c then (c :: (collect x ok (skip x cs)).1, (collect x ok (skip x cs)).2)
      else ([], c :: cs) := by
  rw [collect]

theorem collect_suffix (x : Bool) (ok : Char → Bool) (cs : List Char) :
    (collect x ok cs).2 <:+ cs := by
  fun_induction collect x ok cs with
  | case1 => exact List.suffix_refl _
  | case2 c cs _ _ ih => exact (ih.trans (skip_suffix x cs)).trans (List.suffix_cons c cs)
  | case3 => exact List.suffix_refl _

theorem collect_append (x : Bool) (ok : Char → Bool) (h : '#' ∉ cs) (more : List Char) :
    collect x ok (cs ++ ')' :: more) =
      if (collect x ok cs).2 = [] then
        ((collect x ok cs).1 ++ (collect x ok (')' :: more)).1, (collect x ok (')' :: more)).2)
      else ((collect x ok cs).1, (collect x ok cs).2 ++ ')' :: more) := by
  fun_induction collect x ok cs with
  | case1 => rfl
  | case2 c cs hc r ih =>
      have hcs := List.not_mem_of_not_mem_cons h
      rw [List.cons_append, collect_cons, if_pos hc, skip_append x hcs, ih (notMem_skip hcs)]
      split <;> rfl
  | case3 c cs hc =>
      rw [List.cons_append, collect_cons, if_neg hc, if_neg (List.cons_ne_nil c cs)]

/-- A run of characters none of which is a parenthesis ends before it. -/
theorem collect_append_of_stop (x : Bool) (ok : Char → Bool) (hok : ok ')' = false)
    (h : '#' ∉ cs) (more : List Char) :
    collect x ok (cs ++ ')' :: more) =
      ((collect x ok cs).1, (collect x ok cs).2 ++ ')' :: more) := by
  rw [collect_append x ok h, collect_cons x ok ')', hok]
  split
  · next hnil => simp [hnil]
  · rfl

/-! ## Readers -/

/-- What a reader makes of a text, and of the text with a parenthesis and more behind it: it ends within
the text both times, or fails both times, or needs the parenthesis and ends beyond it. -/
inductive Extends (more cs : List Char) :
    Option (α × List Char) → Option (α × List Char) → Prop
  | within (a : α) (rest : List Char) :
    rest <:+ cs → Extends more cs (some (a, rest)) (some (a, rest ++ ')' :: more))
  | stuck : Extends more cs none none
  | beyond (a : α) (rest : List Char) :
    rest.length ≤ more.length → Extends more cs none (some (a, rest))

/-- A reader that sees what stands behind a parenthesis only after it has read the parenthesis. -/
def Local (f : List Char → Option (α × List Char)) : Prop :=
  ∀ cs more, '#' ∉ cs → Extends more cs (f cs) (f (cs ++ ')' :: more))

namespace Extends

variable {r r' : Option (α × List Char)}

theorem mono (h : Extends more ds r r') (hs : ds <:+ cs) : Extends more cs r r' := by
  cases h with
  | within a rest hr => exact .within a rest (hr.trans hs)
  | stuck => exact .stuck
  | beyond a rest hr => exact .beyond a rest hr

theorem eq_of_some {a : α} (h : Extends more cs (some (a, rest)) r) :
    rest <:+ cs ∧ r = some (a, rest ++ ')' :: more) := by
  cases h with
  | within _ _ hr => exact ⟨hr, rfl⟩

theorem ofOption (o : Option β) (g : β → α) (hr : rest <:+ cs) :
    Extends more cs (o.map fun b => (g b, rest)) (o.map fun b => (g b, rest ++ ')' :: more)) := by
  cases o with
  | none => exact .stuck
  | some b => exact .within (g b) rest hr

theorem ofLength (h : ∀ a rest, r = some (a, rest) → rest.length ≤ more.length) :
    Extends more cs none r := by
  cases r with
  | none => exact .stuck
  | some p => exact .beyond p.1 p.2 (h p.1 p.2 rfl)

theorem map (h : Extends more cs r r') (g : α → β) :
    Extends more cs (r.map fun p => (g p.1, p.2)) (r'.map fun p => (g p.1, p.2)) := by
  cases h with
  | within a rest hr => exact .within (g a) rest hr
  | stuck => exact .stuck
  | beyond a rest hr => exact .beyond (g a) rest hr

theorem filterMap (h : Extends more cs r r') (k : α → Option β) (g : β → γ) :
    Extends more cs (r.bind fun p => (k p.1).map fun b => (g b, p.2))
      (r'.bind fun p => (k p.1).map fun b => (g b, p.2)) := by
  cases h with
  | within a rest hr => exact .ofOption (k a) g hr
  | stuck => exact .stuck
  | beyond a rest hr =>
      refine .ofLength fun c rest' hc => ?_
      obtain ⟨b, _, heq⟩ := Option.map_eq_some_iff.mp hc
      cases heq
      exact hr

/-- A reader may go on where another has ended. -/
theorem bind (h : Extends more cs r r') {g : α → List Char → Option (β × List Char)}
    (hg : ∀ a rest, r = some (a, rest) → rest <:+ cs →
      Extends more rest (g a rest) (g a (rest ++ ')' :: more)))
    (hlength : ∀ a rest b rest', g a rest = some (b, rest') → rest'.length ≤ rest.length) :
    Extends more cs (r.bind fun p => g p.1 p.2) (r'.bind fun p => g p.1 p.2) := by
  cases h with
  | within a rest hr => exact (hg a rest rfl hr).mono hr
  | stuck => exact .stuck
  | beyond a rest hr => exact .ofLength fun b rest' hb => Nat.le_trans (hlength a rest b rest' hb) hr

end Extends

/-! ## Codes and properties -/

theorem readHex_local (x : Bool) (n : Nat) : Local (readHex x n) := by
  intro cs more h
  induction n generalizing cs with
  | zero => exact .within [] cs (List.suffix_refl cs)
  | succ n ih =>
      cases cs with
      | nil => exact .stuck
      | cons c cs =>
          have hcs := List.not_mem_of_not_mem_cons h
          have hs := (skip_suffix x cs).trans (List.suffix_cons c cs)
          simp only [List.cons_append, readHex, skip_append x hcs]
          split
          · exact ((ih _ (notMem_skip hcs)).map (c :: ·)).mono hs
          · exact .stuck

theorem readCode_brace (n : Nat) (hs : skip x cs = '{' :: ds) :
    readCode x n cs =
      match collect x isHex (skip x ds) with
      | (digits, '}' :: rest) => (hexChar? digits).map (.char · false, skip x rest)
      | _ => none := by
  unfold readCode
  split
  · next heq =>
      rw [hs] at heq
      cases heq
      rfl
  · next hne => exact absurd hs (hne ds)

theorem readCode_digits (n : Nat) (hs : ∀ tail, skip x cs ≠ '{' :: tail) :
    readCode x n cs = (readHex x n (skip x cs)).bind fun r =>
      (hexChar? r.1).map (.char · (n == 2), r.2) := by
  unfold readCode
  split
  · next tail hb => exact absurd hb (hs tail)
  · cases readHex x n (skip x cs) <;> rfl

theorem readCode_local (x : Bool) (n : Nat) : Local (readCode x n) := by
  intro cs more h
  by_cases hb : ∃ ds, skip x cs = '{' :: ds
  · obtain ⟨ds, hs⟩ := hb
    have hd := suffix_of_skip hs
    have hds := notMem_of_suffix hd h
    have hr := ((collect_suffix x isHex (skip x ds)).trans (skip_suffix x ds)).trans hd
    rw [readCode_brace n hs, readCode_brace n (skip_cons_append h hs more), skip_append x hds,
      collect_append_of_stop x isHex rfl (notMem_skip hds)]
    generalize collect x isHex (skip x ds) = r at hr
    obtain ⟨digits, _ | ⟨c, rest⟩⟩ := r
    · exact .stuck
    by_cases hc : c = '}'
    · subst hc
      have hr : rest <:+ cs := (List.suffix_cons _ _).trans hr
      simp only [List.cons_append, skip_append x (notMem_of_suffix hr h)]
      exact .ofOption _ _ ((skip_suffix x rest).trans hr)
    · simp [hc, Extends.stuck]
  · have hne : ∀ tail, skip x cs ≠ '{' :: tail := fun tail hs => hb ⟨tail, hs⟩
    have hne' : ∀ tail, skip x (cs ++ ')' :: more) ≠ '{' :: tail := by
      rw [skip_append x h]
      exact append_ne_cons (by decide) hne more
    rw [readCode_digits n hne, readCode_digits n hne', skip_append x h]
    have hhex := readHex_local x n (skip x cs) more (notMem_skip h)
    exact (hhex.filterMap hexChar? (Atom.char · (n == 2))).mono (skip_suffix x cs)

theorem readProperty_brace (f : Flags) (negated : Bool) (hu : f.unicode = true)
    (hs : skip f.extended cs = '{' :: ds) :
    readProperty f negated cs =
      match collect f.extended (· ≠ '}') (skip f.extended ds) with
      | (_, []) => none
      | (text, _ :: rest) => (bracedProperty? f negated text).map (.set ·, rest) := by
  simp only [readProperty, hu, hs]
  rfl

theorem readProperty_letter (f : Flags) (negated : Bool) (hu : f.unicode = true)
    (hs : skip f.extended cs = c :: ds) (hc : c ≠ '{') :
    readProperty f negated cs =
      if c = '\\' then none
      else ((Unicode.named? [c]).bind fun s => f.negated? negated (f.closed s)).map
        (.set ·, skip f.extended ds) := by
  simp only [readProperty, hu, hs, Bool.not_true, Bool.false_eq_true, ↓reduceIte]
  split
  · rfl
  · cases Unicode.named? [c] <;> rfl

/-- The name of a property in braces may hold a parenthesis; the brace that ends it then stands behind. -/
theorem readProperty_brace_local (f : Flags) (negated : Bool) (hu : f.unicode = true)
    (hs : skip f.extended cs = '{' :: ds) (h : '#' ∉ cs) (more : List Char) :
    Extends more cs (readProperty f negated cs) (readProperty f negated (cs ++ ')' :: more)) := by
  have hd := suffix_of_skip hs
  have hds := notMem_of_suffix hd h
  have hr := ((collect_suffix f.extended (· ≠ '}') (skip f.extended ds)).trans
    (skip_suffix f.extended ds)).trans hd
  have hlength := collect_length f.extended (· ≠ '}') (')' :: more)
  rw [readProperty_brace f negated hu hs,
    readProperty_brace f negated hu (skip_cons_append h hs more),
    skip_append _ hds, collect_append _ _ (notMem_skip hds)]
  generalize collect f.extended (· ≠ '}') (skip f.extended ds) = r at hr
  obtain ⟨text, _ | ⟨c, rest⟩⟩ := r
  · -- the text ends inside the name
    rw [if_pos rfl]
    generalize (collect f.extended (· ≠ '}') (')' :: more)).2 = tail at hlength
    refine .ofLength fun a rest ha => ?_
    cases tail with
    | nil => cases ha
    | cons c tail =>
        obtain ⟨s, _, heq⟩ := Option.map_eq_some_iff.mp ha
        cases heq
        exact Nat.le_of_succ_le_succ hlength
  · rw [if_neg (List.cons_ne_nil c rest)]
    exact .ofOption _ _ ((List.suffix_cons _ _).trans hr)

/-- The letter of a property may be the parenthesis itself. -/
theorem readProperty_local (f : Flags) (negated : Bool) : Local (readProperty f negated) := by
  intro cs more h
  cases hu : f.unicode with
  | false =>
      simp only [readProperty, hu, Bool.not_false, ↓reduceIte]
      exact .stuck
  | true =>
      cases hs : skip f.extended cs with
      | nil =>
          rw [readProperty_letter f negated hu (skip_nil_append h hs more) (by decide),
            if_neg (by decide)]
          simp only [readProperty, hu, hs, Bool.not_true, Bool.false_eq_true, ↓reduceIte]
          refine .ofLength fun a rest ha => ?_
          obtain ⟨s, _, heq⟩ := Option.map_eq_some_iff.mp ha
          cases heq
          exact skip_length f.extended more
      | cons c ds =>
          have hd := suffix_of_skip hs
          by_cases hc : c = '{'
          · subst hc
            exact readProperty_brace_local f negated hu hs h more
          · rw [readProperty_letter f negated hu hs hc,
              readProperty_letter f negated hu (skip_cons_append h hs more) hc,
              skip_append _ (notMem_of_suffix hd h)]
            split
            · exact .stuck
            · exact .ofOption _ _ ((skip_suffix _ ds).trans hd)

/-! ## Escapes -/

/-- The one reading in which a parenthesis matters before it is read. At the end of a text `\b{` fails
for want of a name; before a parenthesis it is a condition, and a brace from which nothing can be read. -/
def Frays (more : List Char) (r r' : Option (Atom × List Char)) : Prop :=
  r = none ∧ ∃ l ds, r' = some (.look l, '{' :: (ds ++ ')' :: more)) ∧ ∀ c ∈ ds, Text.isBlank c

theorem Frays.bind {r r' : Option (Atom × List Char)} (h : Frays more r r')
    {g : Atom → List Char → Option (β × List Char)} (hg : ∀ l ds, g (.look l) ds = none)
    (cs : List Char) :
    Extends more cs (r.bind fun p => g p.1 p.2) (r'.bind fun p => g p.1 p.2) := by
  obtain ⟨rfl, l, ds, rfl, _⟩ := h
  change Extends more cs none (g (.look l) _)
  rw [hg]
  exact .stuck

theorem readEdge_of_ne (f : Flags) (hc : c ≠ '{') (cs : List Char) :
    readEdge f (c :: cs) = some (.look (.wordEdge f.unicode), c :: cs) := by
  unfold readEdge
  split
  · next heq => exact absurd (List.cons.inj heq).1 hc
  · rfl

theorem readEdge_local (f : Flags) (h : '#' ∉ cs) (more : List Char) :
    Extends more cs (readEdge f cs) (readEdge f (cs ++ ')' :: more)) ∨
      Frays more (readEdge f cs) (readEdge f (cs ++ ')' :: more)) := by
  obtain _ | ⟨c, cs⟩ := cs
  · exact .inl (.within _ [] (List.suffix_refl _))
  by_cases hc : c = '{'
  · subst hc
    have hcs := List.not_mem_of_not_mem_cons h
    cases hs : skip f.extended cs with
    | nil =>
        have hs' := skip_nil_append hcs hs more
        have hparen : ¬ isEdgeChar ')' := by decide
        refine .inr ⟨?_, .wordEdge f.unicode, cs, ?_, isBlank_of_skip_nil hcs hs⟩
        · simp only [readEdge, hs]
        · simp only [List.cons_append, readEdge, hs', if_neg hparen]
    | cons d ds =>
        have hs' := skip_cons_append hcs hs more
        have hds : '#' ∉ d :: ds := hs ▸ notMem_skip hcs
        have hd : d :: ds <:+ '{' :: cs := (hs ▸ skip_suffix _ cs).trans (List.suffix_cons '{' cs)
        left
        simp only [List.cons_append, readEdge, hs, hs']
        split
        · have hr := (collect_suffix f.extended isEdgeChar (d :: ds)).trans hd
          rw [← List.cons_append, collect_append_of_stop f.extended isEdgeChar (by decide) hds]
          generalize collect f.extended isEdgeChar (d :: ds) = r at hr
          obtain ⟨name, _ | ⟨e, rest⟩⟩ := r
          · exact .stuck
          by_cases he : e = '}'
          · subst he
            exact .ofOption _ _ ((List.suffix_cons _ _).trans hr)
          · simp [he, Extends.stuck]
        · exact .within _ ('{' :: cs) (List.suffix_refl _)
  · rw [List.cons_append, readEdge_of_ne f hc, readEdge_of_ne f hc]
    exact .inl (.within _ (c :: cs) (List.suffix_refl _))

theorem readEscape_local (f : Flags) (h : '#' ∉ cs) (more : List Char) :
    Extends more cs (readEscape f cs) (readEscape f (cs ++ ')' :: more)) ∨
      Frays more (readEscape f cs) (readEscape f (cs ++ ')' :: more)) := by
  cases cs with
  | nil =>
      refine .inl (.ofLength fun a rest ha => ?_)
      exact Nat.le_of_lt_succ (readEscape_length ha)
  | cons c cs =>
      have hcs := List.not_mem_of_not_mem_cons h
      have hs := List.suffix_cons c cs
      unfold readEscape
      split
      · next heq => cases heq
      · next heq =>
          cases heq
          exact .inl ((readCode_local f.extended 2 cs more hcs).mono hs)
      · next heq =>
          cases heq
          exact .inl ((readCode_local f.extended 4 cs more hcs).mono hs)
      · next heq =>
          cases heq
          exact .inl ((readCode_local f.extended 8 cs more hcs).mono hs)
      · next heq =>
          cases heq
          exact .inl ((readProperty_local f false cs more hcs).mono hs)
      · next heq =>
          cases heq
          exact .inl ((readProperty_local f true cs more hcs).mono hs)
      · next heq =>
          cases heq
          exact (readEdge_local f hcs more).imp_left (·.mono hs)
      · next hx hu hU hp hP hb heq =>
          cases heq
          left
          simp only [List.cons_append]
          split
          · exact .ofOption _ _ hs
          · split
            · exact .within _ cs hs
            · exact .ofOption _ _ hs

end Dialogue.Expression
