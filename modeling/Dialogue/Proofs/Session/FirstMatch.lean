import Dialogue.Session.Interpreter

/-!
# Matching without a cache

The pattern for an input is the first of its topic, else of the default topic, that has a test which
accepts the input. A search with a cache whose entries are the tests of their patterns finds the same, and
its cache stays so.
-/

namespace Dialogue

/-- The test of a pattern, made anew. -/
def testOf (pattern : String) : Option MatchTest :=
  (MatchTest.ofPattern pattern).toOption

/-- Whether a pattern has a test and it accepts a text. -/
def takes (text pattern : String) : Bool :=
  (testOf pattern).any (·.accepts text)

/-- Counts the patterns up to the first that takes a text. -/
def SearchReport.tryAll (text : String) (search : SearchReport) : List String → SearchReport
  | [] => search
  | pattern :: patterns =>
      if takes text pattern then
        { search with tried := search.tried + 1, matched? := some pattern }
      else if (testOf pattern).isSome then
        tryAll text { search with tried := search.tried + 1 } patterns
      else tryAll text { search with skipped := search.skipped + 1 } patterns

namespace RuleStore

variable {σ : Type} [RuleStore σ]

/-- The first pattern of a topic that takes a text. -/
def firstIn? (store : σ) (text topic : String) : Option Hit :=
  ((patterns store topic).find? (takes text)).map (⟨topic, ·⟩)

/-- The first pattern for an input in its topic, or else in another default topic. -/
def firstHit? (store : σ) (input topic defaultTopic : String) : Option Hit :=
  firstIn? store (normalize input) topic <|>
    if topic = defaultTopic then none else firstIn? store (normalize input) defaultTopic

/-- The report of a search of one topic. -/
def report (store : σ) (text topic : String) : SearchReport :=
  SearchReport.tryAll text { topic } (patterns store topic)

/-- The reports of all searches for an input. -/
def reports (store : σ) (input topic defaultTopic : String) : List SearchReport :=
  let first := report store (normalize input) topic
  if first.matched?.isSome || topic = defaultTopic then [first]
  else [first, report store (normalize input) defaultTopic]

end RuleStore

/-! ## Reports without a cache -/

namespace SearchReport

theorem tryAll_topic (text : String) (search : SearchReport) (patterns : List String) :
    (search.tryAll text patterns).topic = search.topic := by
  induction patterns generalizing search with
  | nil => rfl
  | cons pattern patterns ih =>
      simp only [tryAll]
      split
      · rfl
      · split
        · exact ih _
        · exact ih _

theorem tryAll_matched? (text : String) (search : SearchReport) (patterns : List String) :
    (search.tryAll text patterns).matched? = (patterns.find? (takes text)).or search.matched? := by
  induction patterns generalizing search with
  | nil => rfl
  | cons pattern patterns ih =>
      simp only [tryAll]
      split
      · rename_i h
        simp [h]
      · rename_i h
        rw [List.find?_cons_of_neg h]
        split
        · exact ih _
        · exact ih _

end SearchReport

namespace RuleStore

variable {σ : Type} [RuleStore σ]

@[simp] theorem report_topic (store : σ) (text topic : String) :
    (report store text topic).topic = topic :=
  SearchReport.tryAll_topic _ _ _

@[simp] theorem report_matched? (store : σ) (text topic : String) :
    (report store text topic).matched? = (firstIn? store text topic).map (·.pattern) := by
  have h := SearchReport.tryAll_matched? text { topic } (patterns store topic)
  simp only [report, firstIn?, h, Option.map_map]
  cases (patterns store topic).find? (takes text) <;> rfl

theorem firstIn?_topic {store : σ} {text topic : String} {hit : Hit}
    (h : firstIn? store text topic = some hit) : hit.topic = topic := by
  obtain ⟨pattern, _, rfl⟩ := Option.map_eq_some_iff.mp h
  rfl

/-- A report shows the hit in its topic. -/
theorem report_hit (store : σ) (text topic : String) :
    ((report store text topic).matched?.map ((report store text topic).topic, ·)) =
      (firstIn? store text topic).map fun hit => (hit.topic, hit.pattern) := by
  rw [report_matched?, report_topic]
  cases h : firstIn? store text topic with
  | none => rfl
  | some hit => simp [firstIn?_topic h]

/-- The reports show the first hit, and nothing else. -/
theorem findSome?_reports (store : σ) (input topic defaultTopic : String) :
    (reports store input topic defaultTopic).findSome? (fun s => s.matched?.map (s.topic, ·)) =
      (firstHit? store input topic defaultTopic).map fun hit => (hit.topic, hit.pattern) := by
  simp only [reports, firstHit?]
  cases hf : firstIn? store (normalize input) topic with
  | some hit => simp [hf, firstIn?_topic hf]
  | none =>
      by_cases ht : topic = defaultTopic
      · subst ht
        simp [hf]
      · have hr := report_hit store (normalize input) defaultTopic
        simp only [report_topic, report_matched?] at hr
        simp [hf, ht, hr]

end RuleStore

/-! ## Searches with a sound cache -/

namespace TestCache

/-- Every entry is the test of its pattern. -/
def Sound (cache : TestCache) : Prop :=
  ∀ entry ∈ cache.entries, entry.2 = testOf entry.1

theorem Sound.empty : Sound {} := by
  intro entry h
  cases h

theorem Sound.test? {cache : TestCache} (h : cache.Sound) (pattern : String) :
    (cache.test? pattern).1 = testOf pattern ∧ (cache.test? pattern).2.Sound := by
  unfold TestCache.test?
  split
  · rename_i t ht
    obtain ⟨before, after, he, _⟩ := List.lookup_eq_some_iff.mp ht
    exact ⟨h (pattern, t) (by simp [he]), h⟩
  · refine ⟨rfl, ?_⟩
    intro entry he
    rcases List.mem_cons.mp he with rfl | he
    · rfl
    · exact h entry he

theorem Sound.find? {cache : TestCache} (h : cache.Sound) (text : String) (patterns : List String) :
    (cache.find? text patterns).1 = patterns.find? (takes text) ∧
      (cache.find? text patterns).2.Sound := by
  induction patterns generalizing cache with
  | nil => exact ⟨rfl, h⟩
  | cons pattern patterns ih =>
      obtain ⟨ht, hs⟩ := h.test? pattern
      simp only [TestCache.find?, ht]
      split
      · rename_i ha
        rw [List.find?_cons_of_pos (show takes text pattern = true from ha)]
        exact ⟨rfl, hs⟩
      · rename_i ha
        rw [List.find?_cons_of_neg (show ¬takes text pattern = true from ha)]
        exact ih hs

theorem Sound.trace {cache : TestCache} (h : cache.Sound) (text : String) (search : SearchReport)
    (patterns : List String) :
    (cache.trace text search patterns).1 = search.tryAll text patterns ∧
      (cache.trace text search patterns).2.Sound := by
  induction patterns generalizing cache search with
  | nil => exact ⟨rfl, h⟩
  | cons pattern patterns ih =>
      obtain ⟨ht, hs⟩ := h.test? pattern
      rcases hc : cache.test? pattern with ⟨test?, after⟩
      rw [hc] at ht hs
      simp only at ht hs
      simp only [TestCache.trace, hc, SearchReport.tryAll, takes, ← ht]
      cases test? with
      | none => exact ih hs _
      | some test =>
          by_cases ha : test.accepts text = true
          · simp [ha, hs]
          · simpa [ha] using ih hs _

variable {σ : Type} [RuleStore σ]

theorem Sound.findInStore {cache : TestCache} (h : cache.Sound) (store : σ)
    (input topic defaultTopic : String) :
    (RuleStore.find? store cache input topic defaultTopic).1 =
        RuleStore.firstHit? store input topic defaultTopic ∧
      (RuleStore.find? store cache input topic defaultTopic).2.Sound := by
  obtain ⟨h₁, hs₁⟩ := h.find? (normalize input) (RuleStore.patterns store topic)
  rcases hc : cache.find? (normalize input) (RuleStore.patterns store topic) with ⟨pattern?, cache₁⟩
  rw [hc] at h₁ hs₁
  simp only at h₁ hs₁
  simp only [RuleStore.find?, hc, RuleStore.firstHit?, RuleStore.firstIn?, ← h₁]
  cases pattern? with
  | some pattern => exact ⟨rfl, hs₁⟩
  | none =>
      by_cases ht : topic = defaultTopic
      · simp [ht, hs₁]
      · obtain ⟨h₂, hs₂⟩ := hs₁.find? (normalize input) (RuleStore.patterns store defaultTopic)
        simp [ht, h₂, hs₂]

theorem Sound.traceInStore {cache : TestCache} (h : cache.Sound) (store : σ)
    (input topic defaultTopic : String) :
    (RuleStore.trace store cache input topic defaultTopic).1 =
        RuleStore.reports store input topic defaultTopic ∧
      (RuleStore.trace store cache input topic defaultTopic).2.Sound := by
  obtain ⟨h₁, hs₁⟩ := h.trace (normalize input) { topic } (RuleStore.patterns store topic)
  rcases hc : cache.trace (normalize input) { topic } (RuleStore.patterns store topic) with
    ⟨first, cache₁⟩
  rw [hc] at h₁ hs₁
  simp only at h₁ hs₁
  simp only [RuleStore.trace, hc, RuleStore.reports, RuleStore.report, ← h₁]
  by_cases hm : first.matched?.isSome || topic = defaultTopic
  · simp [hm, hs₁]
  · obtain ⟨h₂, hs₂⟩ := hs₁.trace (normalize input) { topic := defaultTopic }
      (RuleStore.patterns store defaultTopic)
    simp [hm, h₂, hs₂]

end TestCache

end Dialogue
