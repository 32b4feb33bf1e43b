import Dialogue.Proofs.Session.Course
import Dialogue.Session.Calls

/-!
# Rendering writes predicates and never reads them

A call that renders gives one list of assignments, whatever the predicates are. They are those of the
`<set>` elements which its course completes, and the predicates after it, also after a fault, are the
predicates before it overwritten by them in order.
-/

namespace Dialogue

open Markup (Node Element)

namespace Interpreter

variable {σ : Type} [RuleStore σ]

/-- Where an input is found, or where it counts as found if it is nowhere. -/
def hitFor (bot : Interpreter σ) (input topic : String) : Hit :=
  (RuleStore.find? bot.index bot.cache input topic bot.options.defaultTopic).1.getD
    ⟨bot.options.defaultTopic, catchAll⟩

/-- The rule under a pattern and a topic, or else the one for any input. -/
def ruleAt (bot : Interpreter σ) (pattern topic : String) : Option Element :=
  (RuleStore.category? bot.index topic pattern <|>
    RuleStore.category? bot.index bot.options.defaultTopic catchAll).map (·.node)

/-- What a call renders. -/
def task (bot : Interpreter σ) : Call → Task
  | .matchPattern .. | .explain .. => .nodes []
  | .respond input topic _ =>
      .rule (bot.ruleAt (bot.hitFor input topic).pattern (bot.hitFor input topic).topic)
  | .renderPattern pattern topic _ => .rule (bot.ruleAt pattern topic)
  | .renderRule node? => .rule node?
  | .renderTemplate template => .nodes template.children

/-- The answer of a call that rendered a text. -/
def answerOf (bot : Interpreter σ) (call : Call) (text : String) : Answer :=
  match call with
  | .respond input topic _ => .reply ⟨(bot.hitFor input topic).pattern, text⟩
  | _ => .text text

theorem perform_eq (bot : Interpreter σ) (predicates : Predicates) {call : Call}
    (h : call.onlyMatches = false) :
    let o := (bot.task call).render bot.options (consultAny bot.index bot.options) bot.draws
    (bot.perform predicates call).result = o.result.map (bot.answerOf call) ∧
      (bot.perform predicates call).interpreter.draws = o.draws ∧
      (bot.perform predicates call).predicates = predicates.setAll o.assignments := by
  intro o
  cases call with
  | matchPattern | explain => cases h
  | respond input topic that =>
      refine ⟨?_, rfl, rfl⟩
      show Except.map Answer.reply (Except.map _ o.result) = _
      cases o.result <;> rfl
  | renderPattern | renderRule | renderTemplate => exact ⟨rfl, rfl, rfl⟩

/-- A call that renders has the same end from any predicates, and its assignments are those of the `<set>`
elements completed in its course: the predicates at its end, with a text or with a fault, are
the first ones overwritten by them in order, so that no name is lost. -/
theorem perform_overwrites (bot : Interpreter σ) {call : Call} (h : call.onlyMatches = false) :
    ∃ (result : Except Error String) (draws : Draws) (w : List (String × String)),
      ∀ predicates : Predicates,
        (bot.perform predicates call).result = result.map (bot.answerOf call) ∧
        (bot.perform predicates call).interpreter.draws = draws ∧
        (bot.perform predicates call).predicates = predicates.setAll w ∧
        (∀ r s' w', Course bot.index bot.options 0 (bot.task call) ⟨bot.draws, predicates⟩ r s' w' ↔
          r = result ∧ s' = ⟨draws, predicates.setAll w⟩ ∧ w' = w) ∧
        (∀ name, (bot.perform predicates call).predicates.get? name =
          (w.reverse.lookup name).or (predicates.get? name)) ∧
        ∀ name, (predicates.get? name).isSome →
          ((bot.perform predicates call).predicates.get? name).isSome := by
  rcases ho : (bot.task call).render bot.options (consultAny bot.index bot.options) bot.draws with
    ⟨result, draws, w⟩
  refine ⟨result, draws, w, fun predicates => ?_⟩
  obtain ⟨hr, hd, hp⟩ := bot.perform_eq predicates h
  simp only [ho] at hr hd hp
  have hg : ∀ name, (bot.perform predicates call).predicates.get? name =
      (w.reverse.lookup name).or (predicates.get? name) := by
    intro name
    rw [hp, Predicates.get?_setAll]
  refine ⟨hr, hd, hp, ?_, hg, ?_⟩
  · intro r s' w'
    rw [Course.iff_render (Nat.zero_le _)]
    show Task.render _ (consultAny bot.index bot.options) _ _ = _ ∧ _ ↔ _
    rw [ho, Outcome.mk.injEq]
    obtain ⟨draws', predicates'⟩ := s'
    constructor
    · rintro ⟨⟨rfl, rfl, rfl⟩, rfl⟩
      exact ⟨rfl, rfl, rfl⟩
    · rintro ⟨rfl, hs, rfl⟩
      cases hs
      exact ⟨⟨rfl, rfl, rfl⟩, rfl⟩
  · intro name hn
    rw [hg, Option.isSome_or, hn, Bool.or_true]

/-- Two sets are completed, the inner one first, before a choice without items fails inside a third. -/
theorem perform_overwrites_partly :
    let template : Element := { name := "template", children := [
      .element "set" [("name", "a")] [.text "x", .element "set" [("name", "b")] [.text "y"]],
      .element "set" [("name", "c")] [.element "random" [] []]] }
    let bot : Interpreter := { index := .empty }
    let call : Call := .renderTemplate template
    call.onlyMatches = false ∧
      (bot.perform .empty call).result = .error .emptyChoice ∧
      (bot.perform .empty call).predicates = Predicates.empty.setAll [("b", "y"), ("a", "x")] := by
  intro template bot call
  obtain ⟨result, draws, w, hw⟩ := bot.perform_overwrites (show call.onlyMatches = false from rfl)
  obtain ⟨hr, -, hp, hc, -, -⟩ := hw .empty
  have ho : Course bot.index bot.options 0 (bot.task call) ⟨bot.draws, .empty⟩ (.error .emptyChoice)
      ⟨bot.draws, Predicates.empty.setAll [("b", "y"), ("a", "x")]⟩ [("b", "y"), ("a", "x")] :=
    (Course.iff_render (Nat.zero_le _)).mpr ⟨rfl, rfl⟩
  obtain ⟨rfl, -, rfl⟩ := (hc _ _ _).mp ho
  exact ⟨rfl, hr, hp⟩

end Interpreter

end Dialogue
