import Dialogue.Proofs.Session.Answering

/-!
# Reports of searches

A match with a report finds the pattern that a match without one finds. Its report has an entry for every
topic that was searched, and each entry counts the patterns up to the first that takes the input: those
that were tried, and those that have no test and were passed over.
-/

namespace Dialogue

/-- How many patterns a search looks at: up to the first that takes the text, or else all. -/
def reach (text : String) (patterns : List String) : Nat :=
  match patterns.findIdx? (takes text) with
  | some i => i + 1
  | none => patterns.length

/-- A report names the first pattern that takes the text, and counts the patterns that a search looks at. -/
structure SearchReport.Counts (search : SearchReport) (text : String) (patterns : List String) : Prop where
  matched : search.matched? = patterns.find? (takes text)
  total : search.tried + search.skipped = reach text patterns
  skipped : search.skipped = (patterns.take (reach text patterns)).countP (testOf · |>.isNone)

/-! ## Counting -/

theorem reach_cons_of_takes {text pattern : String} (h : takes text pattern) (patterns : List String) :
    reach text (pattern :: patterns) = 1 := by
  rw [reach, List.findIdx?_cons, if_pos h]

theorem reach_cons_of_not_takes {text pattern : String} (h : ¬takes text pattern)
    (patterns : List String) : reach text (pattern :: patterns) = reach text patterns + 1 := by
  rw [reach, reach, List.findIdx?_cons, if_neg h]
  cases patterns.findIdx? (takes text) <;> rfl

/-- A pattern that takes a text has a test. -/
theorem isNone_testOf_of_takes {text pattern : String} (h : takes text pattern) :
    (testOf pattern).isNone = false := by
  rw [takes] at h
  cases ht : testOf pattern with
  | none => rw [ht] at h; cases h
  | some test => rfl

namespace SearchReport

/-- What a search counts adds to what was counted before. -/
theorem tryAll_counts (text : String) (search : SearchReport) (patterns : List String) :
    (search.tryAll text patterns).tried + (search.tryAll text patterns).skipped =
        search.tried + search.skipped + reach text patterns ∧
      (search.tryAll text patterns).skipped =
        search.skipped + (patterns.take (reach text patterns)).countP (testOf · |>.isNone) := by
  induction patterns generalizing search with
  | nil => exact ⟨rfl, rfl⟩
  | cons pattern patterns ih =>
      by_cases h : takes text pattern
      · rw [tryAll, if_pos h, reach_cons_of_takes h, List.take_succ_cons, List.take_zero,
          List.countP_singleton, isNone_testOf_of_takes h]
        exact ⟨Nat.add_right_comm _ _ _, rfl⟩
      · rw [reach_cons_of_not_takes h, List.take_succ_cons, List.countP_cons, tryAll, if_neg h]
        cases ht : testOf pattern with
        | some test =>
            obtain ⟨htotal, hskipped⟩ := ih { search with tried := search.tried + 1 }
            simp only [Option.isSome_some, Option.isNone_some, if_true, Bool.false_eq_true, if_false]
            dsimp only at htotal hskipped
            exact ⟨by omega, hskipped⟩
        | none =>
            obtain ⟨htotal, hskipped⟩ := ih { search with skipped := search.skipped + 1 }
            simp only [Option.isSome_none, Option.isNone_none, if_true, Bool.false_eq_true, if_false]
            dsimp only at htotal hskipped
            exact ⟨by omega, by omega⟩

end SearchReport

namespace RuleStore

variable {σ : Type} [RuleStore σ] (store : σ) (input topic defaultTopic : String)

theorem report_counts (text : String) :
    (report store text topic).Counts text (patterns store topic) := by
  obtain ⟨htotal, hskipped⟩ := SearchReport.tryAll_counts text { topic } (patterns store topic)
  have hmatched := SearchReport.tryAll_matched? text { topic } (patterns store topic)
  rw [Option.or_none] at hmatched
  exact ⟨hmatched, htotal.trans (Nat.zero_add _), hskipped.trans (Nat.zero_add _)⟩

/-- The default topic is searched as well if the first search finds nothing and was one of another topic. -/
theorem reports_eq :
    reports store input topic defaultTopic =
      let first := report store (normalize input) topic
      if first.matched? = none ∧ topic ≠ defaultTopic then
        [first, report store (normalize input) defaultTopic]
      else [first] := by
  simp only [reports, Bool.or_eq_true, decide_eq_true_eq]
  by_cases ht : topic = defaultTopic
  · simp [ht]
  · cases (report store (normalize input) topic).matched? <;> simp [ht]

/-- All reports but the last name nothing. -/
theorem exists_last_report :
    ∃ others last, reports store input topic defaultTopic = others ++ [last] ∧
      ∀ search ∈ others, search.matched? = none := by
  rw [reports_eq]
  dsimp only
  split
  · rename_i h
    exact ⟨[_], _, rfl, List.forall_mem_singleton.mpr h.1⟩
  · exact ⟨[], _, rfl, List.forall_mem_nil _⟩

/-- What the last report names, if those before it name nothing, is what is found first. -/
theorem last_report_eq {others : List SearchReport} {last : SearchReport}
    (hreports : reports store input topic defaultTopic = others ++ [last])
    (hothers : ∀ search ∈ others, search.matched? = none) :
    last.matched?.map (⟨last.topic, ·⟩) = firstHit? store input topic defaultTopic := by
  have hfound := findSome?_reports store input topic defaultTopic
  have hnone : others.findSome? (fun s => s.matched?.map (s.topic, ·)) = none := by
    rw [List.findSome?_eq_none_iff]
    intro search hs
    rw [hothers search hs, Option.map_none]
  rw [hreports, List.findSome?_append, hnone, Option.none_or, List.findSome?_singleton] at hfound
  cases hm : last.matched? with
  | none =>
      rw [hm] at hfound
      exact (Option.map_eq_none_iff.mp hfound.symm).symm
  | some pattern =>
      rw [hm] at hfound
      obtain ⟨⟨found, pattern'⟩, hhit, he⟩ := Option.map_eq_some_iff.mp hfound.symm
      obtain ⟨rfl, rfl⟩ := Prod.mk.inj he
      exact hhit.symm

/-- Something is found in a topic if the last report is one of that topic and names what is found. -/
theorem firstHit?_topic_iff (found : String) :
    let hit? := firstHit? store input topic defaultTopic
    hit?.map (·.topic) = some found ↔
      ∃ others last, reports store input topic defaultTopic = others ++ [last] ∧
        last.topic = found ∧ last.matched? = some (patternOf hit?) ∧
        ∀ search ∈ others, search.matched? = none := by
  intro hit?
  constructor
  · intro htopic
    obtain ⟨hit, hhit, rfl⟩ := Option.map_eq_some_iff.mp htopic
    obtain ⟨others, last, hreports, hothers⟩ := exists_last_report store input topic defaultTopic
    have hlast := last_report_eq store input topic defaultTopic hreports hothers
    obtain ⟨pattern, hm, rfl⟩ := Option.map_eq_some_iff.mp (hlast.trans hhit)
    exact ⟨others, last, hreports, rfl, by rw [hm, hhit]; rfl, hothers⟩
  · rintro ⟨others, last, hreports, rfl, hm, hothers⟩
    have hlast := last_report_eq store input topic defaultTopic hreports hothers
    rw [hm] at hlast
    exact congrArg (Option.map Hit.topic) hlast.symm

end RuleStore

/-! ## Explanations -/

section
variable {σ : Type} [RuleStore σ]

theorem Interpreter.explain_eq {bot : Interpreter σ} (h : bot.cache.Sound)
    (input topic that : String) :
    let hit? := RuleStore.firstHit? bot.index input topic bot.options.defaultTopic
    (bot.explain input topic that).1 = {
      input := normalize input
      pattern := patternOf hit?
      topic? := hit?.map (·.topic)
      searches := RuleStore.reports bot.index input topic bot.options.defaultTopic } := by
  have ht := (h.traceInStore bot.index input topic bot.options.defaultTopic).1
  simp only [Interpreter.explain, ht, ofSearches_reports]

namespace Sessions

/-- A match with a report finds the pattern that a match without one finds, whatever was called before
either. It reports the search of the topic, and that of the default topic if nothing was found before and
it is another one, and counts in each the patterns up to the first that takes the input. The topic of the
match is that of the last report, if this one names a pattern, and no other report names one. -/
theorem explain_reports_searches (store : σ) (options : Options) (seed : UInt64)
    (memory : String → Predicates) (earlier before : List Request)
    (input topic that that' : String) :
    let s := start store options seed memory
    let explanation := ((s.run earlier).2.bot.explain input topic that).1
    ((s.run before).2.bot.patternFor input topic that').1 = explanation.pattern ∧
      (∃ first : SearchReport, first.topic = topic ∧
        first.Counts (normalize input) (RuleStore.patterns store topic) ∧
        if first.matched? = none ∧ topic ≠ options.defaultTopic then
          ∃ second : SearchReport, second.topic = options.defaultTopic ∧
            second.Counts (normalize input) (RuleStore.patterns store options.defaultTopic) ∧
            explanation.searches = [first, second]
        else explanation.searches = [first]) ∧
      (∀ found, explanation.topic? = some found ↔
        ∃ others last, explanation.searches = others ++ [last] ∧ last.topic = found ∧
          last.matched? = some explanation.pattern ∧ ∀ search ∈ others, search.matched? = none) ∧
      (explanation.topic?.isSome ∨ explanation.pattern = catchAll) := by
  intro s explanation
  have hsound : s.bot.cache.Sound := .empty
  obtain ⟨hindex, hoptions⟩ : _ = store ∧ _ = options := s.run_fixed earlier
  obtain ⟨hindex', hoptions'⟩ : _ = store ∧ _ = options := s.run_fixed before
  let hit? := RuleStore.firstHit? store input topic options.defaultTopic
  have hfind := ((run_sound hsound before).findInStore store input topic options.defaultTopic).1
  have hexplanation := Interpreter.explain_eq (run_sound hsound earlier) input topic that
  rw [hindex, hoptions] at hexplanation
  simp only [explanation, hexplanation]
  refine ⟨?_, ?_, RuleStore.firstHit?_topic_iff store input topic options.defaultTopic, ?_⟩
  · simp only [Interpreter.patternFor, hindex', hoptions', hfind]
    rfl
  · refine ⟨RuleStore.report store (normalize input) topic, RuleStore.report_topic ..,
      RuleStore.report_counts .., ?_⟩
    rw [RuleStore.reports_eq]
    dsimp only
    split
    · exact ⟨_, RuleStore.report_topic .., RuleStore.report_counts .., rfl⟩
    · rfl
  · cases RuleStore.firstHit? store input topic options.defaultTopic with
    | none => exact .inr rfl
    | some hit => exact .inl rfl

end Sessions

end

end Dialogue
