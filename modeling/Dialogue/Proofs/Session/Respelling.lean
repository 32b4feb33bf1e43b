import Mathlib.Data.List.Forall2
import Dialogue.Proofs.Rules.History
import Dialogue.Proofs.Session.Growth

/-!
# Other spellings of wildcards

The replacements of a pattern's symbols are made one after another, but none of them changes what another put
in, and both spellings of a wildcard are replaced by the same text. So patterns that differ in nothing but
spellings have the same expression, and in a store with other spellings every match is at its old place.
-/

namespace Dialogue

/-- The expression text that stands for a character of a pattern. -/
def expressionFor : Char → List Char
  | '*' | '_' => ".+".toList
  | '^' | '#' => ".*".toList
  | ' ' => "\\s*".toList
  | c => [c]

/-- The same character, or the two spellings of a wildcard. -/
@[mk_iff]
inductive Interchangeable : Char → Char → Prop
  | same (c : Char) : Interchangeable c c
  | oneOrMore {c d : Char} : c = '*' ∨ c = '_' → d = '*' ∨ d = '_' → Interchangeable c d
  | zeroOrMore {c d : Char} : c = '^' ∨ c = '#' → d = '^' ∨ d = '#' → Interchangeable c d

instance (c d : Char) : Decidable (Interchangeable c d) :=
  decidable_of_iff _ (interchangeable_iff c d).symm

/-- Patterns that differ in nothing but the spellings of wildcards. -/
def Respelled (pattern pattern' : String) : Prop :=
  List.Forall₂ Interchangeable pattern.toList pattern'.toList

instance (pattern pattern' : String) : Decidable (Respelled pattern pattern') :=
  inferInstanceAs (Decidable (List.Forall₂ _ _ _))

/-- What a report shows apart from the pattern that it names. -/
def SearchReport.tally (search : SearchReport) : String × Nat × Nat × Bool :=
  (search.topic, search.tried, search.skipped, search.matched?.isSome)

namespace RuleStore

/-- The second store has the patterns of the first at their places, in whatever spellings. -/
def Respelled {σ σ' : Type} [RuleStore σ] [RuleStore σ'] (store : σ) (store' : σ') : Prop :=
  ∀ topic, List.Forall₂ Dialogue.Respelled (patterns store topic) (patterns store' topic)

/-- The place of a match: its topic, and how many patterns stand there before the one that matches. -/
def place {σ : Type} [RuleStore σ] (store : σ) (hit : Hit) : String × Nat :=
  (hit.topic, (patterns store hit.topic).idxOf hit.pattern)

end RuleStore

/-- The rule under the pattern as it is spelled in its topic. -/
def Category.respell (spell : String → String → String) (c : Category) : Category :=
  { c with pattern := spell c.topic c.pattern }

/-! ## The expression of a pattern -/

theorem substitute_eq_expressionFor (c : Char) : substitute c = expressionFor c := by
  unfold expressionFor
  split
  · rfl
  · rfl
  · rfl
  · rfl
  · rfl
  · next hstar hscore hcaret hhash hspace =>
      have hnone : Wildcard.all.find? (·.symbol = c) = none := by
        rw [List.find?_eq_none]
        intro w _ hsymbol
        cases w with
        | oneOrMore => exact hstar (of_decide_eq_true hsymbol).symm
        | oneOrMoreHighest => exact hscore (of_decide_eq_true hsymbol).symm
        | zeroOrMore => exact hcaret (of_decide_eq_true hsymbol).symm
        | zeroOrMoreHighest => exact hhash (of_decide_eq_true hsymbol).symm
      rw [substitute, hnone]
      exact if_neg hspace

theorem patternExpression_eq (pattern : String) :
    patternExpression pattern =
      "^(?:".toList ++ (Text.trimmed pattern.toList).flatMap expressionFor ++ ")$".toList := by
  have hfor : substitute = expressionFor := funext substitute_eq_expressionFor
  rw [patternExpression, replaceSymbols_eq_flatMap, hfor, anchored]

/-- What does not tell the two spellings of a wildcard apart is the same for interchangeable characters. -/
theorem Interchangeable.map_eq {α : Type} {f : Char → α} (hone : f '*' = f '_') (hzero : f '^' = f '#')
    {c d : Char} (h : Interchangeable c d) : f c = f d := by
  cases h with
  | same => rfl
  | oneOrMore hc hd => rcases hc with rfl | rfl <;> rcases hd with rfl | rfl <;> simp [hone]
  | zeroOrMore hc hd => rcases hc with rfl | rfl <;> rcases hd with rfl | rfl <;> simp [hzero]

theorem forall₂_dropWhile {α β : Type} {R : α → β → Prop} {p : α → Bool} {q : β → Bool}
    (hpq : ∀ a b, R a b → p a = q b) {as : List α} {bs : List β} (h : List.Forall₂ R as bs) :
    List.Forall₂ R (as.dropWhile p) (bs.dropWhile q) := by
  induction h with
  | nil => exact .nil
  | cons hab hrest ih =>
      rw [List.dropWhile_cons, List.dropWhile_cons, hpq _ _ hab]
      split
      · exact ih
      · exact .cons hab hrest

theorem forall₂_trimmed {cs ds : List Char} (h : List.Forall₂ Interchangeable cs ds) :
    List.Forall₂ Interchangeable (Text.trimmed cs) (Text.trimmed ds) := by
  have hblank (c d : Char) (hcd : Interchangeable c d) : Text.isBlank c = Text.isBlank d :=
    hcd.map_eq rfl rfl
  apply List.rel_reverse
  apply forall₂_dropWhile hblank
  apply List.rel_reverse
  exact forall₂_dropWhile hblank h

theorem flatMap_expressionFor_eq {cs ds : List Char} (h : List.Forall₂ Interchangeable cs ds) :
    cs.flatMap expressionFor = ds.flatMap expressionFor := by
  induction h with
  | nil => rfl
  | cons hcd _ ih =>
      have hfor : expressionFor _ = expressionFor _ := hcd.map_eq rfl rfl
      rw [List.flatMap_cons, List.flatMap_cons, hfor, ih]

/-! ## Tests of patterns in other spellings -/

namespace Respelled

variable {pattern pattern' : String}

theorem patternExpression_eq (h : Respelled pattern pattern') :
    patternExpression pattern = patternExpression pattern' := by
  rw [Dialogue.patternExpression_eq, Dialogue.patternExpression_eq,
    flatMap_expressionFor_eq (forall₂_trimmed h)]

/-- Either both patterns have a test, with the same text and expression, or both have the same fault. -/
theorem ofPatternWithin_cases (h : Respelled pattern pattern') (limit : Option Nat) :
    (∃ text e, MatchTest.ofPatternWithin limit pattern = .ok ⟨pattern, text, e⟩ ∧
        MatchTest.ofPatternWithin limit pattern' = .ok ⟨pattern', text, e⟩) ∨
      MatchTest.ofPatternWithin limit pattern = .error (.badPattern pattern) ∧
        MatchTest.ofPatternWithin limit pattern' = .error (.badPattern pattern') := by
  simp only [MatchTest.ofPatternWithin, h.patternExpression_eq]
  cases Expression.read (patternExpression pattern') with
  | none => exact .inr ⟨rfl, rfl⟩
  | some e =>
      by_cases hfits : limit.all e.fits
      · simp [hfits]
      · simp [hfits]

theorem expression_testOf (h : Respelled pattern pattern') :
    (testOf pattern).map (·.expression) = (testOf pattern').map (·.expression) := by
  rcases h.ofPatternWithin_cases (some MatchTest.sizeLimit) with ⟨text, e, hok, hok'⟩ | ⟨herror, herror'⟩
  · simp [testOf, MatchTest.ofPattern, hok, hok', Except.toOption]
  · simp [testOf, MatchTest.ofPattern, herror, herror', Except.toOption]

theorem isSome_testOf (h : Respelled pattern pattern') :
    (testOf pattern).isSome = (testOf pattern').isSome := by
  simpa using congrArg Option.isSome h.expression_testOf

theorem takes_eq (h : Respelled pattern pattern') (text : String) :
    takes text pattern = takes text pattern' := by
  have hany := congrArg (Option.any (·.occursIn text.toList)) h.expression_testOf
  rw [Option.any_map, Option.any_map] at hany
  exact hany

/-- The first pattern that takes a text is at the same place. -/
theorem findIdx?_takes {patterns patterns' : List String} (h : List.Forall₂ Respelled patterns patterns')
    (text : String) : patterns.findIdx? (takes text) = patterns'.findIdx? (takes text) := by
  induction h with
  | nil => rfl
  | cons hpattern _ ih => rw [List.findIdx?_cons, List.findIdx?_cons, hpattern.takes_eq, ih]

theorem tally_tryAll {patterns patterns' : List String} (h : List.Forall₂ Respelled patterns patterns')
    (text : String) {search search' : SearchReport} (hsearch : search.tally = search'.tally) :
    (search.tryAll text patterns).tally = (search'.tryAll text patterns').tally := by
  induction h generalizing search search' with
  | nil => exact hsearch
  | cons hpattern _ ih =>
      simp only [SearchReport.tally, Prod.mk.injEq] at hsearch
      rw [SearchReport.tryAll, SearchReport.tryAll, hpattern.takes_eq, hpattern.isSome_testOf]
      split
      · simp [SearchReport.tally, hsearch]
      · split
        · apply ih
          simp [SearchReport.tally, hsearch]
        · apply ih
          simp [SearchReport.tally, hsearch]

end Respelled

/-! ## Places of matches -/

theorem map_idxOf_find? {α : Type} [BEq α] [LawfulBEq α] (p : α → Bool) (as : List α) :
    (as.find? p).map as.idxOf = as.findIdx? p := by
  induction as with
  | nil => rfl
  | cons a as ih =>
      rw [List.findIdx?_cons]
      by_cases ha : p a
      · simp [ha]
      · rw [List.find?_cons_of_neg ha, if_neg ha, ← ih, Option.map_map]
        apply Option.map_congr
        intro b hb
        -- What is found in the rest is not the first, so its place is one further.
        have hne : a ≠ b := by
          rintro rfl
          exact ha (List.find?_some hb)
        exact List.idxOf_cons_ne as hne

namespace RuleStore

theorem place_firstIn? {σ : Type} [RuleStore σ] (store : σ) (text topic : String) :
    (firstIn? store text topic).map (place store) =
      ((patterns store topic).findIdx? (takes text)).map (topic, ·) := by
  rw [firstIn?, ← map_idxOf_find?, Option.map_map, Option.map_map]
  rfl

namespace Respelled

variable {σ σ' : Type} [RuleStore σ] [RuleStore σ'] {store : σ} {store' : σ'}

theorem place_firstHit? (h : Respelled store store') (input topic defaultTopic : String) :
    (firstHit? store input topic defaultTopic).map (place store) =
      (firstHit? store' input topic defaultTopic).map (place store') := by
  have hfirst (topic : String) : (firstIn? store (normalize input) topic).map (place store) =
      (firstIn? store' (normalize input) topic).map (place store') := by
    rw [place_firstIn?, place_firstIn?, Dialogue.Respelled.findIdx?_takes (h topic)]
  rw [firstHit?_eq_or, firstHit?_eq_or, Option.map_or, Option.map_or, hfirst, hfirst]

theorem tally_report (h : Respelled store store') (text topic : String) :
    (report store text topic).tally = (report store' text topic).tally :=
  Dialogue.Respelled.tally_tryAll (h topic) text rfl

theorem tally_reports (h : Respelled store store') (input topic defaultTopic : String) :
    (reports store input topic defaultTopic).map (·.tally) =
      (reports store' input topic defaultTopic).map (·.tally) := by
  have htally := h.tally_report (normalize input)
  have hmatched : (report store (normalize input) topic).matched?.isSome =
      (report store' (normalize input) topic).matched?.isSome := congrArg (·.2.2.2) (htally topic)
  simp only [reports, hmatched]
  split
  · simp [htally]
  · simp [htally]

end Respelled

end RuleStore

/-! ## Indexes in other spellings -/

/-- Rules whose patterns are spelled anew, but different ones of a topic differently, make an index in other
spellings. -/
theorem Index.respelled_ofHistory {history : List Category} {spell : String → String → String}
    (hspell : ∀ c ∈ history, Respelled c.pattern (spell c.topic c.pattern))
    (hdistinct : ∀ c ∈ history, ∀ d ∈ history, c.topic = d.topic →
      spell c.topic c.pattern = spell d.topic d.pattern → c.pattern = d.pattern) :
    RuleStore.Respelled (ofHistory history) (ofHistory (history.map (·.respell spell))) := by
  intro topic
  show List.Forall₂ _ ((ofHistory history).patterns topic) ((ofHistory _).patterns topic)
  let own := history.filter (·.topic = topic)
  have hown : ∀ c ∈ own, c ∈ history ∧ c.topic = topic := fun c hc => by simpa [own] using hc
  have hpatterns : ((history.map (·.respell spell)).filter (·.topic = topic)).map (·.pattern) =
      (own.map (·.pattern)).map (spell topic) := by
    rw [List.filter_map, List.map_map, List.map_map]
    apply List.map_congr_left
    intro c hc
    show spell c.topic c.pattern = spell topic c.pattern
    rw [(hown c hc).2]
  have hinjective : ∀ p ∈ own.map (·.pattern), ∀ q ∈ own.map (·.pattern),
      spell topic p = spell topic q → p = q := by
    simp only [List.forall_mem_map]
    intro c hc d hd hsame
    rcases hown c hc with ⟨hmem, rfl⟩
    rcases hown d hd with ⟨hmem', htopic⟩
    exact hdistinct c hmem d hmem' htopic.symm (htopic.symm ▸ hsame)
  rw [patterns_ofHistory, patterns_ofHistory, hpatterns, eraseDups_map hinjective,
    List.forall₂_map_right_iff, List.forall₂_same]
  intro pattern hpattern
  rcases List.mem_map.mp (List.mem_eraseDups.mp hpattern) with ⟨c, hc, rfl⟩
  rcases hown c hc with ⟨hmem, rfl⟩
  exact hspell c hmem

namespace Sessions

theorem searches_eq_reports {σ : Type} [RuleStore σ] (store : σ) (options : Options) (seed : UInt64)
    (memory : String → Predicates) (earlier : List Request) (input topic that : String) :
    let bot := ((start store options seed memory).run earlier).2.bot
    (bot.explain input topic that).1.searches =
      RuleStore.reports store input topic options.defaultTopic := by
  intro bot
  have hsound : bot.cache.Sound := run_sound .empty earlier
  have hfixed : bot.index = store ∧ bot.options = options := run_fixed _ earlier
  rw [Interpreter.explain_eq hsound, hfixed.1, hfixed.2]

/-- No replacement finds its symbol in what an earlier one put in, and the expression text of a pattern that
has a test is that of its characters, one by one. So patterns that differ in nothing but spellings have tests
with the same text that accept the same, or both have none. And in a store with other spellings, whatever was
called before, every input has its match at the same place, and reports count the same patterns. An index is
such a store if its rules are spelled anew and different patterns of a topic stay different. -/
theorem explain_respelled :
    ((Wildcard.all.Pairwise fun w w' => w'.symbol ∉ w.expression.toList) ∧
        ∀ w ∈ Wildcard.all, ' ' ∉ w.expression.toList) ∧
      (∀ limit pattern t, MatchTest.ofPatternWithin limit pattern = .ok t →
        t.text.toList =
            "^(?:".toList ++ (Text.trimmed pattern.toList).flatMap expressionFor ++ ")$".toList ∧
          Expression.read t.text.toList = some t.expression) ∧
      (∀ limit pattern pattern', Respelled pattern pattern' →
        (∃ t t', MatchTest.ofPatternWithin limit pattern = .ok t ∧
            MatchTest.ofPatternWithin limit pattern' = .ok t' ∧ t.text = t'.text ∧
            t.expression = t'.expression ∧ ∀ input, t.accepts input = t'.accepts input) ∨
          MatchTest.ofPatternWithin limit pattern = .error (.badPattern pattern) ∧
            MatchTest.ofPatternWithin limit pattern' = .error (.badPattern pattern')) ∧
      (∀ {σ σ' : Type} [RuleStore σ] [RuleStore σ'] (store : σ) (store' : σ'),
        RuleStore.Respelled store store' → ∀ (options : Options) (seed seed' : UInt64)
          (memory memory' : String → Predicates) (earlier earlier' : List Request)
          (input topic that that' : String),
        let bot := ((start store options seed memory).run earlier).2.bot
        let bot' := ((start store' options seed' memory').run earlier').2.bot
        let explanation := (bot.explain input topic that).1
        let explanation' := (bot'.explain input topic that').1
        (∀ hit ∈ explanation.hit?, hit.pattern ∈ RuleStore.patterns store hit.topic) ∧
          explanation.hit?.map (RuleStore.place store) =
            explanation'.hit?.map (RuleStore.place store') ∧
          explanation.searches.map (·.tally) = explanation'.searches.map (·.tally) ∧
          bot.hit? input topic = explanation.hit? ∧ bot'.hit? input topic = explanation'.hit?) ∧
      ∀ (history : List Category) (spell : String → String → String),
        (∀ c ∈ history, Respelled c.pattern (spell c.topic c.pattern)) →
        (∀ c ∈ history, ∀ d ∈ history, c.topic = d.topic →
          spell c.topic c.pattern = spell d.topic d.pattern → c.pattern = d.pattern) →
        RuleStore.Respelled (Index.ofHistory history)
          (Index.ofHistory (history.map (·.respell spell))) := by
  refine ⟨Wildcard.symbol_notMem_expression, ?_, ?_, ?_, fun _ _ => Index.respelled_ofHistory⟩
  · intro limit pattern t ht
    rcases MatchTest.ofPatternWithin_eq_ok_iff.mp ht with ⟨e, hread, -, rfl⟩
    rw [String.toList_ofList]
    exact ⟨patternExpression_eq pattern, hread⟩
  · intro limit pattern pattern' hpattern
    rcases hpattern.ofPatternWithin_cases limit with ⟨text, e, hok, hok'⟩ | herrors
    · exact .inl ⟨_, _, hok, hok', rfl, rfl, fun _ => rfl⟩
    · exact .inr herrors
  · intro σ σ' _ _ store store' hstore options seed seed' memory memory' earlier earlier' input topic that
      that' bot bot' explanation explanation'
    rcases hit?_eq_firstHit? store options seed memory earlier input topic that with ⟨hhit, hfound⟩
    rcases hit?_eq_firstHit? store' options seed' memory' earlier' input topic that' with
      ⟨hhit', hfound'⟩
    refine ⟨?_, ?_, ?_, hfound.trans hhit.symm, hfound'.trans hhit'.symm⟩
    · intro hit hmem
      rw [hhit] at hmem
      exact (RuleStore.mem_patterns_of_firstHit? hmem).2
    · rw [hhit, hhit']
      exact hstore.place_firstHit? input topic options.defaultTopic
    · rw [searches_eq_reports, searches_eq_reports]
      exact hstore.tally_reports input topic options.defaultTopic

/-- Here the second pattern takes the input, in either spelling; the first is no expression in either. -/
theorem explain_respelled_lines :
    let template : Markup.Element := { name := "template", children := [.text "Yes."] }
    let history : List Category :=
      [.ofTemplate "default" "SMILE (: *" template, .ofTemplate "default" "*" template]
    let spell (_ pattern : String) : String :=
      String.ofList (pattern.toList.map fun c => if c = '*' then '_' else c)
    let store := Index.ofHistory history
    let store' := Index.ofHistory (history.map (·.respell spell))
    let bot := ((start store {} 7 fun _ => .empty).run []).2.bot
    let bot' := ((start store' {} 7 fun _ => .empty).run []).2.bot
    (RuleStore.Respelled store store' ∧ store'.patterns "default" = ["SMILE (: _", "_"]) ∧
      (bot.explain "hello" "FOOD" "").1.hit? = some ⟨"default", "*"⟩ ∧
      (bot'.explain "hello" "FOOD" "").1.hit?.map (RuleStore.place store') = some ("default", 1) ∧
      Respelled "(A|B) ^" "(A|B) #" ∧
      ∃ t t', MatchTest.ofPatternWithin none "(A|B) ^" = .ok t ∧
        MatchTest.ofPatternWithin none "(A|B) #" = .ok t' ∧ t.text = t'.text ∧
        t.text.toList = "^(?:(A|B)\\s*.*)$".toList := by
  intro template history spell store store' bot bot'
  rcases explain_respelled with ⟨-, htext, htests, hplaces, hindexes⟩
  have hstore : RuleStore.Respelled store store' := hindexes history spell (by decide) (by decide)
  have hpatterns : store.patterns "default" = ["SMILE (: *", "*"] := by
    rw [Index.patterns_ofHistory]
    decide
  have hother : store.patterns "FOOD" = [] := by
    rw [Index.patterns_ofHistory]
    decide
  have hpatterns' : store'.patterns "default" = ["SMILE (: _", "_"] := by
    rw [Index.patterns_ofHistory]
    decide
  have hhit : (bot.explain "hello" "FOOD" "").1.hit? = some ⟨"default", "*"⟩ := by
    have hinput : normalize "hello" = "HELLO" := by decide
    have hnone : Expression.read (patternExpression "SMILE (: *") = none := by decide +kernel
    have hsmile : takes "HELLO" "SMILE (: *" = false := by
      simp [takes, testOf, MatchTest.ofPattern, MatchTest.ofPatternWithin, hnone, Except.toOption]
    have hline : takes "HELLO" "*" := (takes_line_iff (by decide) _).mpr (by decide)
    rw [(hit?_eq_firstHit? store {} 7 (fun _ => .empty) [] "hello" "FOOD" "").1,
      RuleStore.firstHit?_eq_or, hinput]
    simp [RuleStore.firstIn?, RuleStore.patterns, hpatterns, hother, hsmile, hline]
  have hplace := (hplaces store store' hstore {} 7 7 (fun _ => .empty) (fun _ => .empty) [] [] "hello"
    "FOOD" "" "").2.1
  have hrespelled : Respelled "(A|B) ^" "(A|B) #" := by decide
  refine ⟨⟨hstore, hpatterns'⟩, hhit, ?_, hrespelled, ?_⟩
  · rw [← hplace, hhit]
    simp [RuleStore.place, RuleStore.patterns, hpatterns]
  · have hsome : (Expression.read (patternExpression "(A|B) ^")).isSome := by decide +kernel
    rcases Option.isSome_iff_exists.mp hsome with ⟨e, hread⟩
    have hok := MatchTest.ofPatternWithin_eq_ok_iff.mpr ⟨e, hread, Option.all_none, rfl⟩
    rcases htests none _ _ hrespelled with ⟨t, t', ht, ht', hsame, -⟩ | ⟨herror, -⟩
    · exact ⟨t, t', ht, ht', hsame, (htext none _ t ht).1.trans (by decide)⟩
    · rw [hok] at herror
      cases herror

end Sessions

end Dialogue
