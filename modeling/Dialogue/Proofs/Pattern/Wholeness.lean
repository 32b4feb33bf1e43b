import Dialogue.Proofs.Expression.Enclosing
import Dialogue.Proofs.Pattern.Language

/-!
# Tests of whole inputs

The test of a pattern accepts the inputs that the expression of the pattern spans as a whole, provided that
the pattern's expression is one by itself. If it is not, it must close the group between the anchors.
-/

namespace Dialogue

/-- The expression text of a pattern without its anchors. -/
def bareExpression (pattern : String) : List Char :=
  replaceSymbols (Text.trimmed pattern.toList)

theorem patternExpression_eq_anchored (pattern : String) :
    patternExpression pattern = anchored (bareExpression pattern) :=
  rfl

/-- The one symbol that could begin a comment is replaced. -/
theorem hash_notMem_substitute (c : Char) : '#' ∉ substitute c := by
  unfold substitute
  split
  · next w _ => cases w <;> decide
  · next hfind =>
      split
      · decide
      · rw [List.mem_singleton]
        rintro rfl
        exact absurd hfind (by decide)

theorem hash_notMem_bareExpression (pattern : String) : '#' ∉ bareExpression pattern := by
  rw [bareExpression, replaceSymbols_eq_flatMap, List.mem_flatMap]
  rintro ⟨c, _, hc⟩
  exact hash_notMem_substitute c hc

namespace MatchTest

open Expression (readPart betweenAnchors maxDepth)

theorem ofPatternWithin_eq_ok_iff {limit : Option Nat} {pattern : String} {t : MatchTest} :
    ofPatternWithin limit pattern = .ok t ↔
      ∃ e, Expression.read (patternExpression pattern) = some e ∧ limit.all e.fits ∧
        t = ⟨pattern, String.ofList (patternExpression pattern), e⟩ := by
  constructor
  · intro h
    simp only [ofPatternWithin] at h
    split at h
    · next e hread =>
        split at h
        · next hfits =>
            cases h
            exact ⟨e, hread, hfits, rfl⟩
        · cases h
    · cases h
  · rintro ⟨e, hread, hfits, rfl⟩
    simp only [ofPatternWithin, hread, hfits, ↓reduceIte]

theorem read_patternExpression {pattern : String} {part : Expression.Part}
    (hpart : readPart (bareExpression pattern) = some part) :
    Expression.read (patternExpression pattern) =
      if part.depth + 2 ≤ maxDepth then some (betweenAnchors part.expression) else none := by
  rw [Expression.read_eq_readPart, patternExpression_eq_anchored,
    Expression.readPart_anchored (hash_notMem_bareExpression pattern) hpart]
  rfl

/-- Let the expression text of a pattern be read by itself. Then the pattern has a test unless its
expression, two levels deeper between the anchors, is too deep or too large there; and the test accepts an
input exactly when the expression spans all of it. A pattern that has a test although its expression
text is no expression by itself has a parenthesis in it that closes the group between the anchors. -/
theorem accepts_iff_spans (limit : Option Nat) (pattern : String) :
    (∀ part, readPart (bareExpression pattern) = some part →
      ((∃ t, ofPatternWithin limit pattern = .ok t) ↔
        part.depth + 2 ≤ maxDepth ∧ limit.all (betweenAnchors part.expression).fits) ∧
      ∀ t, ofPatternWithin limit pattern = .ok t → ∀ input : String,
        t.accepts input = true ↔ part.expression.Spans input.toList 0 input.toList.length) ∧
    ((∃ t, ofPatternWithin limit pattern = .ok t) →
      Expression.read (bareExpression pattern) = none →
        ∃ before after, bareExpression pattern = before ++ ')' :: after ∧
          (readPart before).isSome) := by
  constructor
  · intro part hpart
    have hread := read_patternExpression hpart
    constructor
    · simp only [ofPatternWithin_eq_ok_iff, hread]
      constructor
      · rintro ⟨t, e, he, hfits, _⟩
        obtain ⟨hdepth, he⟩ := Option.ite_none_right_eq_some.mp he
        cases he
        exact ⟨hdepth, hfits⟩
      · rintro ⟨hdepth, hfits⟩
        exact ⟨_, _, if_pos hdepth, hfits, rfl⟩
    · intro t ht input
      obtain ⟨e, he, _, rfl⟩ := ofPatternWithin_eq_ok_iff.mp ht
      rw [hread] at he
      obtain ⟨_, he⟩ := Option.ite_none_right_eq_some.mp he
      cases he
      rw [accepts, Expression.occursIn_iff]
      simp only [betweenAnchors, Expression.spans_anchored]
      constructor
      · rintro ⟨_, _, _, _, h⟩
        exact h
      · intro h
        exact ⟨0, input.toList.length, rfl, rfl, h⟩
  · rintro ⟨t, ht⟩ hnone
    obtain ⟨e, he, _, _⟩ := ofPatternWithin_eq_ok_iff.mp ht
    obtain ⟨whole, hwhole, _⟩ := Option.bind_eq_some_iff.mp ((Expression.read_eq_readPart _).symm.trans he)
    rcases Expression.readPart_of_anchored (hash_notMem_bareExpression pattern) hwhole with
      ⟨part, hpart⟩ | ⟨before, after, part, heq, hbefore⟩
    · -- Read by itself, and not too deep even between the anchors.
      rw [read_patternExpression hpart] at he
      have hdepth := (Option.ite_none_right_eq_some.mp he).1
      rw [Expression.read_eq_readPart, hpart, Option.bind_some, if_pos (by omega)] at hnone
      cases hnone
    · exact ⟨before, after, heq, Option.isSome_iff_exists.mpr ⟨part, hbefore⟩⟩

/-- The anchors hold for both alternatives, unless the pattern closes their group before the second. -/
theorem accepts_iff_spans_alternatives :
    (∃ t, ofPatternWithin none "A|B" = .ok t ∧ t.accepts "B" = true ∧ t.accepts "AB" = false) ∧
      ∃ before after, bareExpression "A)|(?:B" = before ++ ')' :: after ∧
        (readPart before).isSome := by
  constructor
  · have hpart : readPart (bareExpression "A|B") =
        some ⟨.alt (.one (.single 'A')) (.one (.single 'B')), 1, true⟩ := by decide +kernel
    obtain ⟨hok, haccepts⟩ := (accepts_iff_spans none "A|B").1 _ hpart
    obtain ⟨t, ht⟩ := hok.mpr ⟨by decide, rfl⟩
    refine ⟨t, ht, (haccepts t ht "B").mpr ?_, ?_⟩
    · exact .right (.one (c := 'B') rfl (by decide))
    · rw [Bool.eq_false_iff, ne_eq, haccepts t ht "AB"]
      exact fun h => nomatch h
  · have hsome : (Expression.read (patternExpression "A)|(?:B")).isSome := by decide +kernel
    obtain ⟨e, he⟩ := Option.isSome_iff_exists.mp hsome
    exact (accepts_iff_spans none "A)|(?:B").2
      ⟨_, ofPatternWithin_eq_ok_iff.mpr ⟨e, he, rfl, rfl⟩⟩ (by decide +kernel)

/-- This pattern's expression is none by itself. Between the anchors it is two alternatives with one anchor
each, and an input is accepted of which only a prefix matches. -/
theorem accepts_prefix :
    Expression.read (bareExpression "A)|(?:B") = none ∧
      ∃ t, ofPattern "A)|(?:B" = .ok t ∧ t.accepts "AXYZ" = true := by
  let e : Expression :=
    .alt (.seq (.look .start) (.group none (.one (.single 'A'))))
      (.seq (.group none (.one (.single 'B'))) (.look .stop))
  have hread : Expression.read (patternExpression "A)|(?:B") = some e := by decide +kernel
  have hfits : (some sizeLimit).all e.fits = true := by
    simp (disch := decide) only [e, Option.all_some, Expression.fits, Shape.ofExpression,
      Shape.branchesOf, Shape.ofSet, CharSet.diff, CharSet.inter, CharSet.compl_of_pairwise]
    decide +kernel
  refine ⟨by decide +kernel, _, ofPatternWithin_eq_ok_iff.mpr ⟨e, hread, hfits, rfl⟩, ?_⟩
  rw [accepts, Expression.occursIn_iff]
  exact ⟨0, 1, .left (.seq (.look (Nat.zero_le _) rfl) (.group (.one (c := 'A') rfl (by decide))))⟩

end MatchTest

end Dialogue
