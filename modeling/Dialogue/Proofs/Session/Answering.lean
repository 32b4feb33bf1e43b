import Dialogue.Proofs.Session.Cache

/-!
# Answers by the reported match

Matching with a report and answering search an index on two ways, and with caches that earlier calls have
filled differently. Still an answer renders the very rule whose topic and pattern are reported; and if
no match is reported, it renders the rule for any input in the default topic, if there is one.
-/

namespace Dialogue

/-! ## Hits are in the store -/

namespace RuleStore

variable {σ : Type} [RuleStore σ] {store : σ} {text input topic defaultTopic : String} {hit : Hit}

theorem mem_patterns_of_firstIn? (h : firstIn? store text topic = some hit) :
    hit.topic = topic ∧ hit.pattern ∈ patterns store topic := by
  obtain ⟨pattern, hp, rfl⟩ := Option.map_eq_some_iff.mp h
  exact ⟨rfl, List.mem_of_find?_eq_some hp⟩

theorem mem_patterns_of_firstHit? (h : firstHit? store input topic defaultTopic = some hit) :
    (hit.topic = topic ∨ hit.topic = defaultTopic) ∧ hit.pattern ∈ patterns store hit.topic := by
  rw [firstHit?, Option.orElse_apply, Option.orElse_eq_or, Option.or_eq_some_iff] at h
  rcases h with h | ⟨-, h⟩
  · obtain ⟨rfl, hp⟩ := mem_patterns_of_firstIn? h
    exact ⟨.inl rfl, hp⟩
  · split at h
    · cases h
    · obtain ⟨rfl, hp⟩ := mem_patterns_of_firstIn? h
      exact ⟨.inr rfl, hp⟩

end RuleStore

/-! ## Replies and renderings -/

/-- A turn that replies with a pattern and with what a rendering gives. -/
structure Turn.Replies {σ : Type} (turn : Turn Reply σ) (pattern : String) (rendering : Turn String σ) :
    Prop where
  result : turn.result = rendering.result.map (⟨pattern, ·⟩)
  predicates : turn.predicates = rendering.predicates
  draws : turn.interpreter.draws = rendering.interpreter.draws

namespace Interpreter

variable {σ : Type} [RuleStore σ] {bot : Interpreter σ}

theorem respond_replies (h : bot.cache.Sound) {input topic : String} {hit : Hit} (that : String)
    (predicates : Predicates)
    (hhit : (RuleStore.firstHit? bot.index input topic bot.options.defaultTopic).getD
      ⟨bot.options.defaultTopic, catchAll⟩ = hit) :
    (bot.respond input topic that predicates).Replies hit.pattern
      (bot.renderPattern hit.pattern hit.topic that predicates) := by
  have hf := (h.findInStore bot.index input topic bot.options.defaultTopic).1
  simp only [Interpreter.respond, hf, hhit]
  exact ⟨rfl, rfl, rfl⟩

theorem explain_reports (h : bot.cache.Sound) (input topic that : String) :
    let hit? := RuleStore.firstHit? bot.index input topic bot.options.defaultTopic
    (bot.explain input topic that).1.topic? = hit?.map (·.topic) ∧
      (bot.explain input topic that).1.pattern = patternOf hit? := by
  have ht := (h.traceInStore bot.index input topic bot.options.defaultTopic).1
  simp only [Interpreter.explain, ht, ofSearches_reports, and_self]

theorem renderPattern_of_some {pattern topic : String} {c : Category}
    (h : RuleStore.category? bot.index topic pattern = some c) (that : String)
    (predicates : Predicates) :
    bot.renderPattern pattern topic that predicates = bot.renderRule (some c.node) predicates := by
  rw [Interpreter.renderPattern, h]
  rfl

theorem renderPattern_of_none
    (h : RuleStore.category? bot.index bot.options.defaultTopic catchAll = none) (that : String)
    (predicates : Predicates) :
    bot.renderPattern catchAll bot.options.defaultTopic that predicates =
      ⟨.ok bot.options.defaultResponse, predicates, bot⟩ := by
  rw [Interpreter.renderPattern, h]
  rfl

end Interpreter

namespace Sessions

variable {σ : Type} [RuleStore σ]

theorem run_fixed (s : Sessions σ) (requests : List Request) :
    (s.run requests).2.bot.index = s.bot.index ∧ (s.run requests).2.bot.options = s.bot.options := by
  induction requests generalizing s with
  | nil => exact ⟨rfl, rfl⟩
  | cons r rs ih =>
      obtain ⟨hi, ho⟩ := s.bot.perform_fixed (s.memory r.user) r.call
      obtain ⟨hi', ho'⟩ := ih (s.step r).2
      exact ⟨hi'.trans hi, ho'.trans ho⟩

/-- Whatever was called before, an answer renders the rule that is stored under the reported topic and
pattern; without a reported match it renders the rule for any input in the default topic, or gives the
default response and changes nothing. -/
theorem respond_renders_explained (index : Index) (options : Options) (seed : UInt64)
    (memory : String → Predicates) (earlier before : List Request)
    (input topic that that' : String) (predicates : Predicates) :
    let s := start index options seed memory
    let explanation := ((s.run earlier).2.bot.explain input topic that).1
    let bot := (s.run before).2.bot
    let turn := bot.respond input topic that' predicates
    match explanation.topic? with
    | some found =>
        (found = topic ∨ found = options.defaultTopic) ∧
          explanation.pattern ∈ index.patterns found ∧
          ∃ c, index.category? found explanation.pattern = some c ∧
            c.topic = found ∧ c.pattern = explanation.pattern ∧
            turn.Replies explanation.pattern (bot.renderRule (some c.node) predicates)
    | none =>
        explanation.pattern = catchAll ∧
          match index.category? options.defaultTopic catchAll with
          | some c => turn.Replies catchAll (bot.renderRule (some c.node) predicates)
          | none =>
              turn.result = .ok ⟨catchAll, options.defaultResponse⟩ ∧ turn.predicates = predicates ∧
                turn.interpreter.draws = bot.draws := by
  intro s explanation bot turn
  have hsound : s.bot.cache.Sound := .empty
  obtain ⟨htopic, hpattern⟩ := Interpreter.explain_reports (run_sound hsound earlier) input topic that
  obtain ⟨hindex, hoptions⟩ : _ = index ∧ _ = options := s.run_fixed earlier
  obtain ⟨hindex', hoptions'⟩ : bot.index = index ∧ bot.options = options := s.run_fixed before
  have hreplies (hit : Hit)
      (h : (RuleStore.firstHit? index input topic options.defaultTopic).getD
        ⟨options.defaultTopic, catchAll⟩ = hit) :
      turn.Replies hit.pattern (bot.renderPattern hit.pattern hit.topic that' predicates) :=
    Interpreter.respond_replies (run_sound hsound before) that' predicates
      (by rw [hindex', hoptions', h])
  rw [hindex, hoptions] at htopic hpattern
  cases hhit : RuleStore.firstHit? index input topic options.defaultTopic with
  | some hit =>
      obtain ⟨hfound, hmem⟩ := RuleStore.mem_patterns_of_firstHit? hhit
      obtain ⟨c, hc, hct, hcp⟩ := (index.mem_patterns_iff hit.topic hit.pattern).mp hmem
      have hstored : RuleStore.category? bot.index hit.topic hit.pattern = some c := hindex' ▸ hc
      have hrendered := hreplies hit (by rw [hhit, Option.getD_some])
      rw [Interpreter.renderPattern_of_some hstored] at hrendered
      simp only [explanation, htopic, hpattern, hhit, Option.map_some]
      exact ⟨hfound, hmem, c, hc, hct, hcp, hrendered⟩
  | none =>
      have hrendered := hreplies ⟨options.defaultTopic, catchAll⟩ (by rw [hhit, Option.getD_none])
      simp only [explanation, htopic, hpattern, hhit, Option.map_none]
      refine ⟨rfl, ?_⟩
      cases hc : index.category? options.defaultTopic catchAll with
      | some c =>
          have hstored : RuleStore.category? bot.index options.defaultTopic catchAll = some c :=
            hindex' ▸ hc
          rw [Interpreter.renderPattern_of_some hstored] at hrendered
          exact hrendered
      | none =>
          have hmissing : RuleStore.category? bot.index bot.options.defaultTopic catchAll = none := by
            rw [hindex', hoptions']
            exact hc
          rw [← hoptions', Interpreter.renderPattern_of_none hmissing] at hrendered
          exact ⟨hoptions' ▸ hrendered.result, hrendered.predicates, hrendered.draws⟩

end Sessions

end Dialogue
