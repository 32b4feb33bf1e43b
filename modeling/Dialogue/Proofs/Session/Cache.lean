import Dialogue.Proofs.Session.FirstMatch
import Dialogue.Session.Calls

/-!
# Runs of calls with and without a cache

Interpreters that differ only in their caches answer alike as long as the caches are sound, and a call that
only matches changes nothing but the cache. So calls that only match can be put into a run, or left out
of it, and no other call shows a difference.
-/

namespace Dialogue

variable {σ : Type}

/-- The pattern that stands in an answer for a hit, or for none. -/
def patternOf (hit? : Option Hit) : String :=
  (hit?.map (·.pattern)).getD catchAll

/-- A call that matches answers by the first hit, found without a cache. -/
def Call.FindsFirst [RuleStore σ] (store : σ) (options : Options) : Call → Except Error Answer → Prop
  | .matchPattern input topic _, answer =>
      answer = .ok (.pattern (patternOf (RuleStore.firstHit? store input topic options.defaultTopic)))
  | .explain input topic _, answer =>
      let hit? := RuleStore.firstHit? store input topic options.defaultTopic
      answer = .ok (.explanation {
        input := normalize input
        pattern := patternOf hit?
        topic? := hit?.map (·.topic)
        searches := RuleStore.reports store input topic options.defaultTopic })
  | .respond input topic _, answer =>
      let hit? := RuleStore.firstHit? store input topic options.defaultTopic
      (∃ e, answer = .error e) ∨ ∃ text, answer = .ok (.reply ⟨patternOf hit?, text⟩)
  | _, _ => True

/-- The members of a list that are marked. -/
def atMarks {α : Type} : List Bool → List α → List α
  | true :: marks, a :: as => a :: atMarks marks as
  | false :: marks, _ :: as => atMarks marks as
  | _, _ => []

/-! ## Interpreters that differ only in their caches -/

/-- The same up to the caches, which are sound. -/
inductive Interpreter.Alike : Interpreter σ → Interpreter σ → Prop
  | mk {store : σ} {options : Options} {draws : Draws} {cache cache' : TestCache} :
    cache.Sound → cache'.Sound → Alike ⟨store, options, draws, cache⟩ ⟨store, options, draws, cache'⟩

/-- Ends of a call that show the same. -/
structure Turn.Alike {α : Type} (t u : Turn α σ) : Prop where
  result : t.result = u.result
  predicates : t.predicates = u.predicates
  interpreter : t.interpreter.Alike u.interpreter

theorem Turn.Alike.map {α β : Type} {t u : Turn α σ} (h : t.Alike u) (f : α → β) :
    (t.map f).Alike (u.map f) :=
  ⟨congrArg (Except.map f) h.result, h.predicates, h.interpreter⟩

namespace Interpreter

variable {a b c : Interpreter σ}

theorem Alike.refl (h : a.cache.Sound) : a.Alike a :=
  .mk h h

theorem Alike.left (h : a.Alike b) : a.cache.Sound := by
  obtain ⟨hc, _⟩ := h
  exact hc

theorem Alike.trans (h : a.Alike b) (h' : b.Alike c) : a.Alike c := by
  obtain ⟨hc, _⟩ := h
  obtain ⟨_, hd⟩ := h'
  exact .mk hc hd

theorem Alike.draws (h : a.Alike b) : a.draws = b.draws := by
  obtain ⟨_, _⟩ := h
  rfl

theorem Alike.run (h : a.Alike b) (predicates : Predicates) (rendering : Rendering String) :
    (a.run predicates rendering).Alike (b.run predicates rendering) := by
  obtain ⟨hc, hc'⟩ := h
  exact ⟨rfl, rfl, .mk hc hc'⟩

end Interpreter

variable [RuleStore σ]

namespace Interpreter

variable {a b : Interpreter σ}

theorem Alike.renderRule (h : a.Alike b) (node? : Option Markup.Element) (predicates : Predicates) :
    (a.renderRule node? predicates).Alike (b.renderRule node? predicates) := by
  obtain ⟨hc, hc'⟩ := h
  exact (Alike.mk hc hc').run predicates _

theorem Alike.renderTemplate (h : a.Alike b) (template : Markup.Element) (predicates : Predicates) :
    (a.renderTemplate template predicates).Alike (b.renderTemplate template predicates) := by
  obtain ⟨hc, hc'⟩ := h
  exact (Alike.mk hc hc').run predicates _

theorem Alike.renderPattern (h : a.Alike b) (pattern topic that : String) (predicates : Predicates) :
    (a.renderPattern pattern topic that predicates).Alike
      (b.renderPattern pattern topic that predicates) := by
  obtain ⟨hc, hc'⟩ := h
  exact (Alike.mk hc hc').renderRule _ predicates

theorem Alike.respond (h : a.Alike b) (input topic that : String) (predicates : Predicates) :
    (a.respond input topic that predicates).Alike (b.respond input topic that predicates) := by
  obtain @⟨store, options, draws, cache, cache', hc, hc'⟩ := h
  obtain ⟨hf, hs⟩ := hc.findInStore store input topic options.defaultTopic
  obtain ⟨hf', hs'⟩ := hc'.findInStore store input topic options.defaultTopic
  simp only [Interpreter.respond, hf, hf']
  exact ((Alike.mk hs hs').renderPattern _ _ that predicates).map _

theorem Alike.patternFor (h : a.Alike b) (input topic that : String) :
    (a.patternFor input topic that).1 = (b.patternFor input topic that).1 ∧
      (a.patternFor input topic that).2.Alike (b.patternFor input topic that).2 := by
  obtain @⟨store, options, draws, cache, cache', hc, hc'⟩ := h
  obtain ⟨hf, hs⟩ := hc.findInStore store input topic options.defaultTopic
  obtain ⟨hf', hs'⟩ := hc'.findInStore store input topic options.defaultTopic
  exact ⟨by simp only [Interpreter.patternFor, hf, hf'], .mk hs hs'⟩

theorem Alike.explain (h : a.Alike b) (input topic that : String) :
    (a.explain input topic that).1 = (b.explain input topic that).1 ∧
      (a.explain input topic that).2.Alike (b.explain input topic that).2 := by
  obtain @⟨store, options, draws, cache, cache', hc, hc'⟩ := h
  obtain ⟨ht, hs⟩ := hc.traceInStore store input topic options.defaultTopic
  obtain ⟨ht', hs'⟩ := hc'.traceInStore store input topic options.defaultTopic
  exact ⟨by simp only [Interpreter.explain, ht, ht'], .mk hs hs'⟩

/-- Whatever is called, interpreters that are alike show the same and stay alike. -/
theorem Alike.perform (h : a.Alike b) (predicates : Predicates) (call : Call) :
    (a.perform predicates call).Alike (b.perform predicates call) := by
  cases call with
  | matchPattern input topic that =>
      obtain ⟨hp, hi⟩ := h.patternFor input topic that
      exact ⟨by simp only [Interpreter.perform, hp], rfl, hi⟩
  | explain input topic that =>
      obtain ⟨he, hi⟩ := h.explain input topic that
      exact ⟨by simp only [Interpreter.perform, he], rfl, hi⟩
  | respond input topic that => exact (h.respond input topic that predicates).map _
  | renderPattern pattern topic that => exact (h.renderPattern pattern topic that predicates).map _
  | renderRule node? => exact (h.renderRule node? predicates).map _
  | renderTemplate template => exact (h.renderTemplate template predicates).map _

/-- A call that only matches changes nothing but the cache. -/
theorem perform_onlyMatches {call : Call} (hm : call.onlyMatches) (h : a.cache.Sound)
    (predicates : Predicates) :
    (a.perform predicates call).predicates = predicates ∧
      (a.perform predicates call).interpreter.Alike a := by
  cases call with
  | matchPattern input topic that =>
      exact ⟨rfl, .mk (h.findInStore _ _ _ _).2 h⟩
  | explain input topic that =>
      exact ⟨rfl, .mk (h.traceInStore _ _ _ _).2 h⟩
  | _ => cases hm

/-! ## Answers by the first hit -/

theorem ofSearches_reports (store : σ) (text input topic defaultTopic : String) :
    let hit? := RuleStore.firstHit? store input topic defaultTopic
    let searches := RuleStore.reports store input topic defaultTopic
    Explanation.ofSearches text searches =
      { input := text, pattern := patternOf hit?, topic? := hit?.map (·.topic), searches } := by
  simp only [Explanation.ofSearches, RuleStore.findSome?_reports]
  cases RuleStore.firstHit? store input topic defaultTopic <;> rfl

theorem perform_findsFirst (h : a.cache.Sound) (predicates : Predicates) (call : Call) :
    call.FindsFirst a.index a.options (a.perform predicates call).result := by
  cases call with
  | matchPattern input topic that =>
      have hf := (h.findInStore a.index input topic a.options.defaultTopic).1
      simp only [Call.FindsFirst, Interpreter.perform, Interpreter.patternFor, hf, patternOf]
  | explain input topic that =>
      have ht := (h.traceInStore a.index input topic a.options.defaultTopic).1
      simp only [Call.FindsFirst, Interpreter.perform, Interpreter.explain, ht, ofSearches_reports]
  | respond input topic that =>
      have hf := (h.findInStore a.index input topic a.options.defaultTopic).1
      simp only [Call.FindsFirst, Interpreter.perform, Interpreter.respond, Turn.map, hf]
      generalize RuleStore.firstHit? a.index input topic a.options.defaultTopic = hit?
      generalize Interpreter.renderPattern { a with cache := _ } _ _ that predicates = turn
      cases turn.result with
      | error e => exact .inl ⟨e, rfl⟩
      | ok text =>
          refine .inr ⟨text, ?_⟩
          cases hit? <;> rfl
  | _ => trivial

/-- No call changes the rules and options of an interpreter. -/
theorem perform_fixed (a : Interpreter σ) (predicates : Predicates) (call : Call) :
    (a.perform predicates call).interpreter.index = a.index ∧
      (a.perform predicates call).interpreter.options = a.options := by
  cases call <;> exact ⟨rfl, rfl⟩

theorem perform_sound (h : a.cache.Sound) (predicates : Predicates) (call : Call) :
    (a.perform predicates call).interpreter.cache.Sound :=
  ((Alike.refl h).perform predicates call).interpreter.left

end Interpreter

/-! ## Runs -/

namespace Sessions

/-- The same up to the caches, which are sound. -/
structure Alike (s t : Sessions σ) : Prop where
  bot : s.bot.Alike t.bot
  memory : s.memory = t.memory

variable {s t : Sessions σ}

theorem Alike.step (h : s.Alike t) (r : Request) :
    (s.step r).1 = (t.step r).1 ∧ (s.step r).2.Alike (t.step r).2 := by
  have hp := h.bot.perform (s.memory r.user) r.call
  simp only [Sessions.step, ← h.memory]
  refine ⟨?_, hp.interpreter, ?_⟩
  · rw [hp.result, hp.predicates, hp.interpreter.draws]
  · simp only [hp.predicates]

theorem step_onlyMatches {r : Request} (hm : r.call.onlyMatches) (h : s.Alike t) :
    (s.step r).2.Alike t := by
  obtain ⟨hp, hi⟩ := s.bot.perform_onlyMatches hm h.bot.left (s.memory r.user)
  refine ⟨hi.trans h.bot, ?_⟩
  funext user
  simp only [Sessions.step, hp, ← h.memory]
  split
  · rename_i hu
    rw [hu]
  · rfl

/-- A run shows at the marks what it shows with the calls at the marks alone, if all others only match. -/
theorem Alike.run {marks : List Bool} {requests : List Request} (h : s.Alike t)
    (hl : marks.length = requests.length)
    (hm : ∀ p ∈ marks.zip requests, p.1 = false → p.2.call.onlyMatches) :
    (t.run (atMarks marks requests)).1 = atMarks marks (s.run requests).1 ∧
      (s.run requests).2.Alike (t.run (atMarks marks requests)).2 := by
  induction requests generalizing marks s t with
  | nil =>
      cases List.length_eq_zero_iff.mp hl
      exact ⟨rfl, h⟩
  | cons r rs ih =>
      obtain _ | ⟨mark, marks⟩ := marks
      · cases hl
      · have hl' : marks.length = rs.length := Nat.succ.inj hl
        have hm' : ∀ p ∈ marks.zip rs, p.1 = false → p.2.call.onlyMatches :=
          fun p hp => hm p (List.mem_cons_of_mem _ hp)
        cases mark with
        | true =>
            obtain ⟨hr, hs⟩ := h.step r
            obtain ⟨hrs, hf⟩ := ih hs hl' hm'
            simp only [atMarks, Sessions.run]
            exact ⟨by rw [hrs, hr], hf⟩
        | false => exact ih (step_onlyMatches (hm _ List.mem_cons_self rfl) h) hl' hm'

theorem run_sound (h : s.bot.cache.Sound) (requests : List Request) :
    (s.run requests).2.bot.cache.Sound := by
  induction requests generalizing s with
  | nil => exact h
  | cons r rs ih => exact ih (Interpreter.perform_sound h (s.memory r.user) r.call)

theorem run_findsFirst (h : s.bot.cache.Sound) (requests : List Request) :
    ∀ p ∈ requests.zip (s.run requests).1,
      p.1.call.FindsFirst s.bot.index s.bot.options p.2.result := by
  induction requests generalizing s with
  | nil =>
      intro p hp
      cases hp
  | cons r rs ih =>
      obtain ⟨hi, ho⟩ := s.bot.perform_fixed (s.memory r.user) r.call
      intro p hp
      rcases List.mem_cons.mp hp with rfl | hp
      · exact s.bot.perform_findsFirst h (s.memory r.user) r.call
      · rw [← hi, ← ho]
        exact ih (Interpreter.perform_sound h (s.memory r.user) r.call) p hp

theorem run_length (s : Sessions σ) (requests : List Request) :
    (s.run requests).1.length = requests.length := by
  induction requests generalizing s with
  | nil => rfl
  | cons r rs ih => simp [Sessions.run, ih]

/-- Whatever is called, the cache holds the tests of its patterns and calls that match answer by the first
hit. The calls at some marks, if all others only match, show alone what they show among the others, and
leave the same predicates and random words behind. -/
theorem run_hides_cache (store : σ) (options : Options) (seed : UInt64)
    (memory : String → Predicates) (requests : List Request) :
    let s := start store options seed memory
    (∀ entry ∈ (s.run requests).2.bot.cache.entries,
        entry.2 = (MatchTest.ofPattern entry.1).toOption) ∧
      (s.run requests).1.length = requests.length ∧
      (∀ p ∈ requests.zip (s.run requests).1, p.1.call.FindsFirst store options p.2.result) ∧
      ∀ marks : List Bool, marks.length = requests.length →
        (∀ p ∈ marks.zip requests, p.1 = false → p.2.call.onlyMatches) →
        (s.run (atMarks marks requests)).1 = atMarks marks (s.run requests).1 ∧
        (s.run (atMarks marks requests)).2.memory = (s.run requests).2.memory ∧
        (s.run (atMarks marks requests)).2.bot.draws = (s.run requests).2.bot.draws := by
  intro s
  have hs : s.bot.cache.Sound := .empty
  refine ⟨run_sound hs requests, run_length s requests, run_findsFirst hs requests, ?_⟩
  intro marks hl hm
  obtain ⟨hr, hf⟩ := Alike.run (s := s) (t := s) ⟨.refl hs, rfl⟩ hl hm
  exact ⟨hr, hf.memory.symm, hf.bot.draws.symm⟩

theorem run_hides_cache_greeting :
    let template : Markup.Element := { name := "template", children := [.text "Hi there"] }
    let store := Index.empty.insert (.ofTemplate "default" "HELLO *" template)
    let respond : Request := ⟨"Ann", .respond "hello you" "default" ""⟩
    let requests : List Request := [⟨"Ann", .matchPattern "hello me" "default" ""⟩, respond]
    let s := start store {} 7 fun _ => .empty
    ([false, true].length = requests.length ∧
        ∀ p ∈ [false, true].zip requests, p.1 = false → p.2.call.onlyMatches) ∧
      (s.run [respond]).1 = atMarks [false, true] (s.run requests).1 := by
  intro template store respond requests s
  have hm : ∀ p ∈ [false, true].zip requests, p.1 = false → p.2.call.onlyMatches := by decide
  exact ⟨⟨rfl, hm⟩,
    ((run_hides_cache store {} 7 (fun _ => .empty) requests).2.2.2 [false, true] rfl hm).1⟩

end Sessions

end Dialogue
