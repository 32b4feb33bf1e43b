import Dialogue.Proofs.Pattern.Wholeness
import Dialogue.Proofs.Session.Reports

/-!
# Patterns for any line

A wildcard alone takes the texts of one line, and of these all but the empty one. So every input of one line
has a match if a pattern for any line is in the default topic. An input of several lines may have none.
-/

namespace Dialogue

/-- The patterns that are nothing but a wildcard for one or more characters. -/
def linePatterns : List String :=
  ["*", "_"]

/-! ## Tests of patterns for any line -/

namespace Expression

theorem ofSet_inLine : Shape.ofSet inLine = .set [(0, 9), (11, 0xD7FF), (0xE000, CharSet.top)] := by
  have hranges : (inLine.diff Shape.surrogates).ranges =
      [(0, 9), (11, 0xD7FF), (0xE000, CharSet.top)] := by
    simp (disch := decide) only [CharSet.diff, CharSet.inter, CharSet.union, inLine, Shape.surrogates,
      CharSet.compl_of_pairwise]
    decide
  rw [Shape.ofSet, hranges]

theorem fits_line : (ofPattern ['*']).fits MatchTest.sizeLimit = true := by
  have hshape : Shape.ofExpression (ofPattern ['*']) =
      .row [.look .start, .row [.repeated (Shape.ofSet inLine) 1 none false, .look .stop]] := rfl
  rw [fits, hshape, ofSet_inLine]
  decide +kernel

end Expression

theorem read_line {pattern : String} (h : pattern ∈ linePatterns) :
    Expression.read (patternExpression pattern) = some (.ofPattern ['*']) := by
  simp only [linePatterns, List.mem_cons, List.not_mem_nil, or_false] at h
  obtain rfl | rfl := h
  · have hchars : ∀ c ∈ ['*'], isPlainOrSymbol c := List.forall_mem_singleton.mpr rfl
    exact Expression.read_anchored hchars
  · have hchars : ∀ c ∈ ['_'], isPlainOrSymbol c := List.forall_mem_singleton.mpr rfl
    exact Expression.read_anchored hchars

/-- A pattern for any line has a test, whose expression is that of a wildcard. -/
theorem testOf_line {pattern : String} (h : pattern ∈ linePatterns) :
    testOf pattern = some ⟨pattern, String.ofList (patternExpression pattern), .ofPattern ['*']⟩ := by
  have hok := MatchTest.ofPatternWithin_eq_ok_iff.mpr
    ⟨_, read_line h, (Option.all_some ..).trans Expression.fits_line, rfl⟩
  rw [testOf, MatchTest.ofPattern, hok]
  rfl

/-- It takes what has no line feed and is not empty. -/
theorem takes_line_iff {pattern : String} (h : pattern ∈ linePatterns) (text : String) :
    takes text pattern ↔ text ≠ "" ∧ '\n' ∉ text.toList := by
  have hchars : ∀ c ∈ ['*'], isPlainOrSymbol c := List.forall_mem_singleton.mpr rfl
  have hplain : ¬isPlain '*' := by decide
  rw [takes, testOf_line h, Option.any_some, MatchTest.accepts, Expression.occursIn_ofPattern hchars]
  constructor
  · rintro ⟨_, htext, _ | ⟨hpiece, ⟨⟩⟩⟩
    rw [List.flatten_singleton] at htext
    rw [htext, pieceOf_iff] at hpiece
    simpa [hplain] using hpiece
  · rintro ⟨hne, hline⟩
    have hpiece : PieceOf '*' text.toList := .oneOrMore (.inl rfl) (by simpa using hne) hline
    exact ⟨[text.toList], List.flatten_singleton, .cons hpiece .nil⟩

/-! ## Matches of one line -/

namespace RuleStore

variable {σ : Type} [RuleStore σ] {store : σ}

theorem isSome_firstIn? {text topic pattern : String} (hmem : pattern ∈ patterns store topic)
    (htakes : takes text pattern) : (firstIn? store text topic).isSome := by
  rw [firstIn?, Option.isSome_map, List.find?_isSome]
  exact ⟨pattern, hmem, htakes⟩

/-- Whatever a pattern of the default topic takes has a match in every topic. -/
theorem isSome_firstHit? {input defaultTopic pattern : String}
    (hmem : pattern ∈ patterns store defaultTopic) (htakes : takes (normalize input) pattern)
    (topic : String) : (firstHit? store input topic defaultTopic).isSome := by
  have hdefault := isSome_firstIn? hmem htakes
  rw [firstHit?, Option.orElse_apply, Option.orElse_eq_or, Option.isSome_or, Bool.or_eq_true]
  split
  · next htopic => exact .inl (htopic ▸ hdefault)
  · exact .inr hdefault

end RuleStore

namespace Sessions

variable {σ : Type} [RuleStore σ]

/-- With a pattern for any line in the default topic, every input of one line has a match, in whatever topic
it is looked for and whatever was called before, unless nothing but white space is in it. -/
theorem explain_finds_line (store : σ) (options : Options) (seed : UInt64)
    (memory : String → Predicates) (earlier : List Request) {pattern : String}
    (hpattern : pattern ∈ linePatterns)
    (hstored : pattern ∈ RuleStore.patterns store options.defaultTopic) {input : String}
    (hinput : normalize input ≠ "") (hline : '\n' ∉ (normalize input).toList) (topic that : String) :
    let bot := ((start store options seed memory).run earlier).2.bot
    (bot.explain input topic that).1.topic?.isSome := by
  intro bot
  have hsound : bot.cache.Sound := run_sound .empty earlier
  obtain ⟨hindex, hoptions⟩ : bot.index = store ∧ bot.options = options := run_fixed _ earlier
  have htopic := (Interpreter.explain_reports hsound input topic that).1
  have htakes : takes (normalize input) pattern := (takes_line_iff hpattern _).mpr ⟨hinput, hline⟩
  rw [htopic, hindex, hoptions, Option.isSome_map]
  exact RuleStore.isSome_firstHit? hstored htakes topic

theorem explain_finds_line_greeting :
    let template : Markup.Element := { name := "template", children := [.text "Tell me more."] }
    let store := Index.empty.insert (.ofTemplate "default" "_" template)
    let bot := ((start store {} 7 fun _ => .empty).run []).2.bot
    ("_" ∈ linePatterns ∧ "_" ∈ RuleStore.patterns store "default" ∧ normalize " straße\n" ≠ "" ∧
        '\n' ∉ (normalize " straße\n").toList) ∧
      (bot.explain " straße\n" "FOOD" "").1.topic?.isSome := by
  intro template store bot
  have hstored : "_" ∈ RuleStore.patterns store "default" := by
    show "_" ∈ Index.patterns store "default"
    simp [store, Index.patterns_insert, Category.ofTemplate]
  have hinput : normalize " straße\n" = "STRASSE" := by decide
  have hne : normalize " straße\n" ≠ "" := by rw [hinput]; decide
  have hline : '\n' ∉ (normalize " straße\n").toList := by rw [hinput]; decide
  exact ⟨⟨by decide, hstored, hne, hline⟩,
    explain_finds_line store {} 7 (fun _ => .empty) [] (by decide) hstored hne hline "FOOD" ""⟩

/-- A line feed inside an input is no character for a wildcard, and the input has no match. -/
theorem explain_misses_lines :
    let template : Markup.Element := { name := "template", children := [.text "Tell me more."] }
    let bot : Interpreter := { index := Index.empty.insert (.ofTemplate "default" "*" template) }
    "*" ∈ bot.index.patterns bot.options.defaultTopic ∧ normalize "A\nB" ≠ "" ∧
      (bot.explain "A\nB" "default" "").1.topic? = none := by
  intro template bot
  have hpatterns : bot.index.patterns "default" = ["*"] := by
    simp [bot, Index.patterns_insert, Category.ofTemplate]
  have hinput : normalize "A\nB" = "A\nB" := by decide
  have hmisses : ¬takes "A\nB" "*" := by
    rw [takes_line_iff (by decide)]
    decide
  refine ⟨?_, by rw [hinput]; decide, ?_⟩
  · rw [hpatterns]
    exact List.mem_singleton_self "*"
  · rw [(Interpreter.explain_reports .empty "A\nB" "default" "").1]
    have hfirst : RuleStore.firstIn? bot.index (normalize "A\nB") "default" = none := by
      rw [RuleStore.firstIn?, hinput]
      show ((bot.index.patterns "default").find? _).map _ = none
      rw [hpatterns, List.find?_singleton, if_neg hmisses]
      rfl
    have hhit : RuleStore.firstHit? bot.index "A\nB" "default" "default" = none := by
      rw [RuleStore.firstHit?, hfirst]
      rfl
    exact congrArg (Option.map Hit.topic) hhit

end Sessions

end Dialogue
