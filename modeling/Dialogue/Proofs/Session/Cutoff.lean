import Dialogue.Proofs.Session.Overwriting

/-!
# Limits on references between rules

With a lower limit a rendering either ends as it does with a higher one, or it is cut off. A rendering that
is cut off has assigned what the other assigns first. So a limit decides whether there is an answer, and
never which one.
-/

namespace Dialogue

open Markup (Node Element)

/-- The end with a lower limit, beside the end with a higher one. -/
inductive Outcome.CutOff {α : Type} (limit : Nat) : Outcome α → Outcome α → Prop
  | same {o : Outcome α} :
    (∀ depth most, o.result ≠ .error (.tooDeep depth most)) → CutOff limit o o
  | cut {draws : Draws} {w : List (String × String)} {o : Outcome α} :
    w <+: o.assignments → CutOff limit ⟨.error (.tooDeep (limit + 1) limit), draws, w⟩ o

theorem Outcome.CutOff.eq_of_ne {α : Type} {limit : Nat} {o o' : Outcome α} (h : o.CutOff limit o')
    (hn : ∀ depth most, o.result ≠ .error (.tooDeep depth most)) : o' = o := by
  cases h with
  | same => rfl
  | cut => exact absurd rfl (hn (limit + 1) limit)

theorem Outcome.CutOff.of_eq {α : Type} {limit depth most : Nat} {o o' : Outcome α}
    (h : o.CutOff limit o') (he : o.result = .error (.tooDeep depth most)) :
    depth = limit + 1 ∧ most = limit ∧ o.assignments <+: o'.assignments := by
  cases h with
  | same hn => exact absurd he (hn depth most)
  | cut hw =>
      cases he
      exact ⟨rfl, rfl, hw⟩

namespace Rendering

variable {α β : Type} {limit : Nat}

/-- From every place in the stream the first rendering ends as the second, or is cut off. -/
def CutOff (limit : Nat) (m m' : Rendering α) : Prop :=
  ∀ d, (m d).CutOff limit (m' d)

theorem CutOff.refl {m : Rendering α}
    (h : ∀ d depth most, (m d).result ≠ .error (.tooDeep depth most)) : m.CutOff limit m :=
  fun d => .same (h d)

theorem CutOff.pure (a : α) : (Pure.pure a : Rendering α).CutOff limit (Pure.pure a) :=
  .refl fun _ _ _ h => nomatch h

/-- What comes after a part that is cut off adds to the assignments of the other only. -/
theorem CutOff.bind {m m' : Rendering α} {f f' : α → Rendering β} (h : m.CutOff limit m')
    (hf : ∀ a, (f a).CutOff limit (f' a)) : (m >>= f).CutOff limit (m' >>= f') := by
  intro d
  have hd := h d
  rcases ho : m d with ⟨r, e, w⟩
  rcases ho' : m' d with ⟨r', e', w'⟩
  rw [ho, ho'] at hd
  cases hd with
  | same hr =>
      cases r with
      | error e₁ =>
          rw [bind_error ho, bind_error ho']
          exact .same fun depth most he => hr depth most (by rw [Except.error.inj he])
      | ok a =>
          rcases hs : f a e with ⟨r₁, e₁, w₁⟩
          rcases hs' : f' a e with ⟨r₂, e₂, w₂⟩
          have hfa := hf a e
          rw [bind_ok ho hs, bind_ok ho' hs']
          rw [hs, hs'] at hfa
          cases hfa with
          | same hr => exact .same hr
          | cut hw => exact .cut ((List.prefix_append_right_inj w).mpr hw)
  | cut hw =>
      rw [bind_error ho]
      refine .cut (hw.trans ?_)
      cases r' with
      | error e₁ =>
          have hb : (m' >>= f') d = ⟨.error e₁, e', w'⟩ := bind_error ho'
          exact hb ▸ List.prefix_refl w'
      | ok a =>
          rcases hs : f' a e' with ⟨r₂, e₂, w₂⟩
          have hb : (m' >>= f') d = ⟨r₂, e₂, w' ++ w₂⟩ := bind_ok ho' hs
          exact hb ▸ List.prefix_append w' w₂

/-- What is cut off, beside what a higher limit lets through. -/
def cutOff (limit : Nat) : Renderer.Relation Rendering Rendering where
  rel := CutOff limit
  pure := .pure
  bind := .bind
  emptyChoice := .refl fun _ _ _ h => nomatch h
  choose _ := .refl fun _ _ _ h => nomatch h
  lookup _ _ := .pure _
  assign _ _ := .refl fun _ _ _ h => nomatch h

end Rendering

/-! ## Templates and rules -/

section
variable {σ : Type} [RuleStore σ] (store : σ) (options : Options) {limit limit' : Nat}

/-- The limits may differ, and so may what is left of them, as long as no more is left of the first. -/
theorem consult_cutOff {remaining remaining' : Nat} (hle : remaining ≤ remaining') (target : String) :
    (consult store (options.withLimit limit) remaining target).CutOff limit
      (consult store (options.withLimit limit') remaining' target) := by
  induction remaining generalizing remaining' target with
  | zero => exact fun d => .cut (List.nil_prefix)
  | succ remaining ih =>
      obtain ⟨remaining', rfl⟩ := Nat.exists_eq_add_of_lt hle
      exact (Rendering.cutOff limit).consult_succ store options (ih (by omega)) target

theorem Task.render_cutOff (hle : limit ≤ limit') (task : Task) :
    (task.render (options.withLimit limit) (consultAny store (options.withLimit limit))).CutOff limit
      (task.render (options.withLimit limit') (consultAny store (options.withLimit limit'))) := by
  have hc : ∀ target, (consultAny store (options.withLimit limit) target).CutOff limit
      (consultAny store (options.withLimit limit') target) := consult_cutOff store options hle
  have hrender : (task.render options (consultAny store (options.withLimit limit))).CutOff limit
      (task.render options (consultAny store (options.withLimit limit'))) :=
    (Rendering.cutOff limit).render hc options task
  cases task with
  | node | nodes | rule => exact hrender

end

/-! ## Calls -/

namespace Interpreter

variable {σ : Type} [RuleStore σ]

/-- The interpreter with another limit. -/
def withLimit (bot : Interpreter σ) (limit : Nat) : Interpreter σ :=
  { bot with options := bot.options.withLimit limit }

/-- The end of what a call renders. -/
def outcome (bot : Interpreter σ) (call : Call) : Outcome String :=
  (bot.task call).render bot.options (consultAny bot.index bot.options) bot.draws

theorem outcome_withLimit_cutOff (bot : Interpreter σ) (call : Call) {limit limit' : Nat}
    (hle : limit ≤ limit') :
    ((bot.withLimit limit).outcome call).CutOff limit ((bot.withLimit limit').outcome call) := by
  have ht (n : Nat) : (bot.withLimit n).task call = bot.task call := by
    cases call <;> rfl
  rw [outcome, outcome, ht, ht]
  exact Task.render_cutOff bot.index bot.options hle (bot.task call) bot.draws

theorem answerOf_withLimit (bot : Interpreter σ) (limit : Nat) (call : Call) :
    (bot.withLimit limit).answerOf call = bot.answerOf call := by
  cases call <;> rfl

variable (bot : Interpreter σ) (predicates : Predicates) {call : Call}

theorem perform_outcome (h : call.onlyMatches = false) :
    (bot.perform predicates call).result = (bot.outcome call).result.map (bot.answerOf call) ∧
      (bot.perform predicates call).interpreter.draws = (bot.outcome call).draws ∧
      (bot.perform predicates call).predicates = predicates.setAll (bot.outcome call).assignments :=
  bot.perform_eq predicates h

theorem perform_tooDeep_iff (h : call.onlyMatches = false) {depth most : Nat} :
    (bot.perform predicates call).result = .error (.tooDeep depth most) ↔
      (bot.outcome call).result = .error (.tooDeep depth most) := by
  rw [(bot.perform_outcome predicates h).1]
  cases (bot.outcome call).result with
  | error e => simp [Except.map]
  | ok text => simp [Except.map]

/-- The course of what a call renders leads to what the call leaves behind. -/
theorem course_of_perform (h : call.onlyMatches = false) :
    Course bot.index bot.options 0 (bot.task call) ⟨bot.draws, predicates⟩ (bot.outcome call).result
      ⟨(bot.perform predicates call).interpreter.draws, (bot.perform predicates call).predicates⟩
      (bot.outcome call).assignments := by
  obtain ⟨_, hd, hp⟩ := bot.perform_outcome predicates h
  refine (Course.iff_render (Nat.zero_le _)).mpr ⟨?_, hp⟩
  rw [hd]
  rfl

/-- A call that renders and is not cut off by its limit shows the same with a higher one. If it is cut off,
the fault tells the limit and the depth beyond it, and its assignments are the first of those that the
call makes with a higher limit. -/
theorem perform_withLimit (h : call.onlyMatches = false) {limit limit' : Nat} (hle : limit ≤ limit') :
    let low := bot.withLimit limit
    let high := bot.withLimit limit'
    let turn := low.perform predicates call
    let turn' := high.perform predicates call
    ((∀ depth most, turn.result ≠ .error (.tooDeep depth most)) →
        turn'.result = turn.result ∧ turn'.predicates = turn.predicates ∧
          turn'.interpreter.draws = turn.interpreter.draws) ∧
      ∀ depth most, turn.result = .error (.tooDeep depth most) →
        depth = limit + 1 ∧ most = limit ∧
        ∃ result w result' w',
          Course low.index low.options 0 (low.task call) ⟨low.draws, predicates⟩ result
            ⟨turn.interpreter.draws, turn.predicates⟩ w ∧
          Course high.index high.options 0 (high.task call) ⟨high.draws, predicates⟩ result'
            ⟨turn'.interpreter.draws, turn'.predicates⟩ w' ∧
          w <+: w' := by
  intro low high turn turn'
  have hcut : (low.outcome call).CutOff limit (high.outcome call) :=
    bot.outcome_withLimit_cutOff call hle
  constructor
  · intro hn
    have heq : high.outcome call = low.outcome call :=
      hcut.eq_of_ne fun depth most he => hn depth most ((low.perform_tooDeep_iff predicates h).mpr he)
    obtain ⟨hr, hd, hp⟩ := low.perform_outcome predicates h
    obtain ⟨hr', hd', hp'⟩ := high.perform_outcome predicates h
    rw [heq] at hr' hd' hp'
    rw [answerOf_withLimit] at hr hr'
    exact ⟨hr'.trans hr.symm, hp'.trans hp.symm, hd'.trans hd.symm⟩
  · intro depth most he
    obtain ⟨hdepth, hmost, hprefix⟩ := hcut.of_eq ((low.perform_tooDeep_iff predicates h).mp he)
    exact ⟨hdepth, hmost, _, _, _, _, low.course_of_perform predicates h,
      high.course_of_perform predicates h, hprefix⟩

/-- A rule that sets a name and asks for itself: not let in at all, it has set the name once. -/
theorem perform_withLimit_loop :
    let template : Element := { name := "template", children := [
      .element "set" [("name", "a")] [.text "x"], .element "srai" [] [.text "LOOP"]] }
    let bot : Interpreter := { index := Index.empty.insert (.ofTemplate "default" "LOOP" template) }
    let call : Call := .renderTemplate template
    let high := bot.withLimit 5
    let turn' := high.perform .empty call
    (call.onlyMatches = false ∧ 0 ≤ 5 ∧
        ((bot.withLimit 0).perform .empty call).result = .error (.tooDeep 1 0)) ∧
      ∃ result' w',
        Course high.index high.options 0 (high.task call) ⟨high.draws, .empty⟩ result'
          ⟨turn'.interpreter.draws, turn'.predicates⟩ w' ∧
        [("a", "x")] <+: w' := by
  intro template bot call high turn'
  refine ⟨⟨rfl, by decide, rfl⟩, ?_⟩
  obtain ⟨-, -, result, w, result', w', hlow, hhigh, hprefix⟩ :=
    (bot.perform_withLimit .empty (show call.onlyMatches = false from rfl) (show 0 ≤ 5 by decide)).2
      1 0 rfl
  have hw : w = [("a", "x")] := by
    have hrender := ((Course.iff_render (Nat.zero_le _)).mp hlow).1
    exact (congrArg Outcome.assignments hrender).symm
  exact ⟨result', w', hhigh, hw ▸ hprefix⟩

end Interpreter

end Dialogue
