import Dialogue.Proofs.Session.CatchAll

/-!
# Matches after a new rule

A rule under a key of its own comes last in its topic. So it is found for the inputs that it takes, when
nothing before it is found: in the topic that is searched, or, if it is in the default topic, in any topic.
A rule under the key of another comes in its place, and is found where that one was.
-/

namespace Dialogue

/-- The match that is reported, if there is one. -/
def Explanation.hit? (explanation : Explanation) : Option Hit :=
  explanation.topic?.map (⟨·, explanation.pattern⟩)

/-- The match that an answer is looked up by, if there is one. -/
def Interpreter.hit? {σ : Type} [RuleStore σ] (bot : Interpreter σ) (input topic : String) : Option Hit :=
  (RuleStore.find? bot.index bot.cache input topic bot.options.defaultTopic).1

namespace Category

/-- The match that finds a rule. -/
def hit (c : Category) : Hit :=
  ⟨c.topic, c.pattern⟩

/-- Whether a rule, once it is added to an index, is found for an input in place of the match before: it
has a key of its own, its pattern takes the input, and either the topic searched is its own and the match
before is not in it, or its topic is the default topic and there was no match. -/
def TakesOver (c : Category) (index : Index) (input topic defaultTopic : String) (hit? : Option Hit) :
    Prop :=
  index.category? c.topic c.pattern = none ∧ takes (normalize input) c.pattern ∧
    (c.topic = topic ∧ (∀ hit ∈ hit?, hit.topic ≠ topic) ∨ c.topic = defaultTopic ∧ hit? = none)

instance (c : Category) (index : Index) (input topic defaultTopic : String) (hit? : Option Hit) :
    Decidable (c.TakesOver index input topic defaultTopic hit?) :=
  inferInstanceAs (Decidable (_ ∧ _ ∧ (_ ∨ _)))

end Category

theorem Index.category?_eq_none_iff {index : Index} {topic pattern : String} :
    index.category? topic pattern = none ↔ pattern ∉ index.patterns topic := by
  rw [patterns, (index.shelf topic).inStep, ← Std.HashMap.isSome_getElem?_iff_mem,
    Option.not_isSome_iff_eq_none]
  rfl

/-! ## Two topics -/

namespace RuleStore

section
variable {σ : Type} [RuleStore σ] (store : σ) (input topic defaultTopic : String)

/-- The topic and the default topic are searched one after the other, be they the same or not: a second
search of the same topic would find nothing either. -/
theorem firstHit?_eq_or :
    firstHit? store input topic defaultTopic =
      (firstIn? store (normalize input) topic).or (firstIn? store (normalize input) defaultTopic) := by
  rw [firstHit?, Option.orElse_apply, Option.orElse_eq_or]
  split
  · next h => rw [← h, Option.or_none, Option.or_self]
  · rfl

theorem firstIn?_eq_none_iff_firstHit? :
    firstIn? store (normalize input) topic = none ↔
      ∀ hit ∈ firstHit? store input topic defaultTopic, hit.topic ≠ topic := by
  cases hfirst : firstIn? store (normalize input) topic with
  | some hit => simp [firstHit?_eq_or, hfirst, firstIn?_topic hfirst]
  | none =>
      refine iff_of_true rfl fun hit hhit htopic => ?_
      have hdefault : firstIn? store (normalize input) defaultTopic = some hit := by
        rwa [firstHit?_eq_or, hfirst, Option.none_or] at hhit
      have hsame : defaultTopic = topic := (firstIn?_topic hdefault).symm.trans htopic
      rw [hsame, hfirst] at hdefault
      cases hdefault

end

/-! ## A rule more -/

variable (index : Index) (c : Category) (input topic defaultTopic : String)

/-- In its topic a rule with a key of its own is found last. -/
theorem firstIn?_insert (text : String) :
    firstIn? (index.insert c) text topic =
      (firstIn? index text topic).or
        (if topic = c.topic ∧ index.category? c.topic c.pattern = none ∧ takes text c.pattern then
          some c.hit
        else none) := by
  show (((index.insert c).patterns topic).find? (takes text)).map _ =
    (((index.patterns topic).find? (takes text)).map _).or _
  rw [Index.patterns_insert]
  by_cases htopic : topic = c.topic
  · subst htopic
    by_cases hstored : c.pattern ∈ index.patterns c.topic
    · simp [hstored, Index.category?_eq_none_iff]
    · by_cases htakes : takes text c.pattern
      · simp [hstored, htakes, Index.category?_eq_none_iff, Category.hit]
      · simp [hstored, htakes]
  · simp [htopic]

theorem takesOver_firstHit?_iff :
    c.TakesOver index input topic defaultTopic (firstHit? index input topic defaultTopic) ↔
      (index.category? c.topic c.pattern = none ∧ takes (normalize input) c.pattern) ∧
        firstIn? index (normalize input) topic = none ∧
          (c.topic = topic ∨
            c.topic = defaultTopic ∧ firstIn? index (normalize input) defaultTopic = none) := by
  rw [Category.TakesOver, ← firstIn?_eq_none_iff_firstHit?, firstHit?_eq_or, Option.or_eq_none_iff]
  tauto

/-- The first hit after a rule was added. -/
theorem firstHit?_insert :
    let hit? := firstHit? index input topic defaultTopic
    firstHit? (index.insert c) input topic defaultTopic =
      if c.TakesOver index input topic defaultTopic hit? then some c.hit else hit? := by
  intro hit?
  simp only [hit?, takesOver_firstHit?_iff]
  rw [firstHit?_eq_or, firstHit?_eq_or, firstIn?_insert, firstIn?_insert]
  -- A new rule that takes the input is last in its topic, so that any hit before it stays.
  by_cases hnew : index.category? c.topic c.pattern = none ∧ takes (normalize input) c.pattern
  · simp only [hnew, and_true, true_and, eq_comm (a := c.topic)]
    cases firstIn? index (normalize input) topic with
    | some hit => simp
    | none =>
        by_cases htopic : topic = c.topic
        · simp [htopic]
        · cases firstIn? index (normalize input) defaultTopic with
          | some hit => simp [htopic]
          | none => simp [htopic]
  · simp [hnew]

/-- A rule does not take over what another pattern of its topic takes. -/
theorem not_takesOver_firstHit? {pattern : String} (hmem : pattern ∈ index.patterns c.topic)
    (htakes : takes (normalize input) pattern) :
    ¬c.TakesOver index input topic defaultTopic (firstHit? index input topic defaultTopic) := by
  have hfirst : (firstIn? index (normalize input) c.topic).isSome := isSome_firstIn? hmem htakes
  rw [takesOver_firstHit?_iff]
  rintro ⟨-, hnone, htopic | ⟨htopic, hnone'⟩⟩
  · rw [htopic, hnone] at hfirst
    cases hfirst
  · rw [htopic, hnone'] at hfirst
    cases hfirst

end RuleStore

/-! ## Matches before and after -/

theorem Explanation.hit?_eq {explanation : Explanation} {hit? : Option Hit}
    (htopic : explanation.topic? = hit?.map (·.topic)) (hpattern : explanation.pattern = patternOf hit?) :
    explanation.hit? = hit? := by
  rw [Explanation.hit?, htopic, hpattern]
  cases hit? <;> rfl

namespace Sessions

/-- Whatever was called before, the match that is reported and the one an answer is looked up by are the
first hit. -/
theorem hit?_eq_firstHit? {σ : Type} [RuleStore σ] (store : σ) (options : Options) (seed : UInt64)
    (memory : String → Predicates) (earlier : List Request) (input topic that : String) :
    let bot := ((start store options seed memory).run earlier).2.bot
    let hit? := RuleStore.firstHit? store input topic options.defaultTopic
    (bot.explain input topic that).1.hit? = hit? ∧ bot.hit? input topic = hit? := by
  intro bot hit?
  have hsound : bot.cache.Sound := run_sound .empty earlier
  obtain ⟨hindex, hoptions⟩ : bot.index = store ∧ bot.options = options := run_fixed _ earlier
  obtain ⟨htopic, hpattern⟩ := bot.explain_reports hsound input topic that
  have hfound := (hsound.findInStore bot.index input topic bot.options.defaultTopic).1
  rw [hindex, hoptions] at htopic hpattern hfound
  refine ⟨Explanation.hit?_eq htopic hpattern, ?_⟩
  rw [Interpreter.hit?, hindex, hoptions]
  exact hfound

/-- Whatever was called before, an index with one rule more gives the match of the index without it, unless
the rule takes the match over, which then is the rule's own. It never does so for an input that another
pattern of its topic takes. -/
theorem explain_insert (index : Index) (c : Category) (options : Options) (seed seed' : UInt64)
    (memory memory' : String → Predicates) (earlier earlier' : List Request)
    (input topic that that' : String) :
    let bot := ((start index options seed memory).run earlier).2.bot
    let bot' := ((start (index.insert c) options seed' memory').run earlier').2.bot
    let hit? := (bot.explain input topic that).1.hit?
    let hit'? := (bot'.explain input topic that').1.hit?
    (bot.hit? input topic = hit? ∧ bot'.hit? input topic = hit'?) ∧
      hit'? = (if c.TakesOver index input topic options.defaultTopic hit? then some c.hit else hit?) ∧
      ((∃ pattern ∈ index.patterns c.topic, takes (normalize input) pattern) → hit'? = hit?) := by
  intro bot bot' hit? hit'?
  let firstHit? (index : Index) := RuleStore.firstHit? index input topic options.defaultTopic
  obtain ⟨hhit, hfound⟩ : hit? = firstHit? index ∧ bot.hit? input topic = firstHit? index :=
    hit?_eq_firstHit? index options seed memory earlier input topic that
  obtain ⟨hhit', hfound'⟩ : hit'? = firstHit? (index.insert c) ∧
      bot'.hit? input topic = firstHit? (index.insert c) :=
    hit?_eq_firstHit? (index.insert c) options seed' memory' earlier' input topic that'
  have hinsert : hit'? =
      if c.TakesOver index input topic options.defaultTopic hit? then some c.hit else hit? := by
    rw [hhit', hhit]
    exact RuleStore.firstHit?_insert index c input topic options.defaultTopic
  refine ⟨⟨hfound.trans hhit.symm, hfound'.trans hhit'.symm⟩, hinsert, ?_⟩
  rintro ⟨pattern, hmem, htakes⟩
  have hnot : ¬c.TakesOver index input topic options.defaultTopic hit? := by
    rw [hhit]
    exact RuleStore.not_takesOver_firstHit? index c input topic options.defaultTopic hmem htakes
  rw [hinsert, if_neg hnot]

/-- A second pattern for any line does not take an input over from the first, but it does in another topic,
whose own patterns come before those of the default topic. -/
theorem explain_insert_lines :
    let template : Markup.Element := { name := "template", children := [.text "Tell me more."] }
    let index := Index.empty.insert (.ofTemplate "default" "*" template)
    let hit? (index : Index) :=
      (((start index {} 7 fun _ => .empty).run []).2.bot.explain "hello" "FOOD" "").1.hit?
    ("*" ∈ index.patterns "default" ∧ takes (normalize "hello") "*") ∧
      hit? (index.insert (.ofTemplate "default" "_" template)) = hit? index ∧
      hit? (index.insert (.ofTemplate "FOOD" "_" template)) = some ⟨"FOOD", "_"⟩ := by
  intro template index hit?
  have hinsert (topic : String) := explain_insert index (.ofTemplate topic "_" template) {} 7 7
    (fun _ => .empty) (fun _ => .empty) [] [] "hello" "FOOD" "" ""
  have hmem : "*" ∈ index.patterns "default" := by
    simp [index, Index.patterns_insert, Category.ofTemplate]
  have hinput : normalize "hello" = "HELLO" := by decide
  have htakes : ∀ pattern ∈ linePatterns, takes (normalize "hello") pattern := by
    intro pattern hpattern
    rw [hinput, takes_line_iff hpattern]
    decide
  have hover : (Category.ofTemplate "FOOD" "_" template).TakesOver index "hello" "FOOD" "default"
      (hit? index) := by
    refine ⟨?_, htakes "_" (by decide), .inl ⟨rfl, ?_⟩⟩
    · simp [index, Index.category?_insert, Category.ofTemplate, Category.key]
    · have hnone : RuleStore.firstIn? index (normalize "hello") "FOOD" = none := by
        show ((index.patterns "FOOD").find? _).map _ = none
        simp [index, Index.patterns_insert, Category.ofTemplate]
      have hhit : hit? index = RuleStore.firstHit? index "hello" "FOOD" "default" :=
        (hit?_eq_firstHit? index {} 7 (fun _ => .empty) [] "hello" "FOOD" "").1
      rw [hhit]
      exact (RuleStore.firstIn?_eq_none_iff_firstHit? index "hello" "FOOD" "default").mp hnone
  refine ⟨⟨hmem, htakes "*" (by decide)⟩, ?_, ?_⟩
  · exact (hinsert "default").2.2 ⟨"*", hmem, htakes "*" (by decide)⟩
  · exact (hinsert "FOOD").2.1.trans (if_pos hover)

end Sessions

end Dialogue
