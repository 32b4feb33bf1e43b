import Mathlib.Data.List.Forall2
import Dialogue.Proofs.Expression.Matching
import Dialogue.Proofs.Pattern.Reading

/-!
# The language of a pattern

An input is accepted exactly when it falls into pieces, one for each character of the trimmed pattern.
-/

namespace Dialogue

/-! ## The languages of expressions -/

namespace Expression

/-- Whatever stands around them, the stretches that the expression spans are those in the language. -/
def HasLanguage (e : Expression) (language : List Char → Prop) : Prop :=
  ∀ before after j, Spans (before ++ after) e before.length j ↔
    ∃ piece rest, after = piece ++ rest ∧ j = (before ++ piece).length ∧ language piece

variable {set : CharSet} {a b e : Expression}

theorem HasLanguage.congr {l l' : List Char → Prop} (h : HasLanguage e l)
    (hl : ∀ piece, l piece ↔ l' piece) : HasLanguage e l' := by
  intro before after j
  rw [h before after j]
  exact exists_congr fun piece => exists_congr fun _ => and_congr_right' (and_congr_right' (hl piece))

theorem hasLanguage_empty : HasLanguage .empty (· = []) := by
  intro before after j
  rw [spans_empty]
  constructor
  · rintro ⟨rfl, _⟩
    exact ⟨[], after, rfl, by simp, rfl⟩
  · rintro ⟨_, _, rfl, rfl, rfl⟩
    simp

theorem hasLanguage_one : HasLanguage (.one set) fun piece => ∃ c, piece = [c] ∧ set.contains c := by
  intro before after j
  rw [spans_one]
  constructor
  · rintro ⟨rfl, c, hc, hs⟩
    rw [List.getElem?_append_right (Nat.le_refl _), Nat.sub_self, ← List.head?_eq_getElem?] at hc
    obtain ⟨rest, rfl⟩ := List.head?_eq_some_iff.mp hc
    exact ⟨[c], rest, rfl, by simp, c, rfl, hs⟩
  · rintro ⟨_, rest, rfl, rfl, c, rfl, hs⟩
    exact ⟨by simp, c, by simp, hs⟩

theorem HasLanguage.seq {l l' : List Char → Prop} (ha : HasLanguage a l) (hb : HasLanguage b l') :
    HasLanguage (.seq a b) fun text => ∃ x y, text = x ++ y ∧ l x ∧ l' y := by
  intro before after k
  rw [spans_seq]
  constructor
  · rintro ⟨j, h, h'⟩
    obtain ⟨x, rest, rfl, rfl, hx⟩ := (ha before after j).mp h
    rw [← List.append_assoc] at h'
    obtain ⟨y, rest, rfl, rfl, hy⟩ := (hb (before ++ x) rest k).mp h'
    exact ⟨x ++ y, rest, (List.append_assoc ..).symm, by rw [List.append_assoc], x, y, rfl, hx, hy⟩
  · rintro ⟨_, rest, rfl, rfl, x, y, rfl, hx, hy⟩
    have h := (ha before (x ++ (y ++ rest)) _).mpr ⟨x, y ++ rest, rfl, rfl, hx⟩
    have h' := (hb (before ++ x) (y ++ rest) _).mpr ⟨y, rest, rfl, rfl, hy⟩
    simp only [List.append_assoc] at h h' ⊢
    exact ⟨_, h, h'⟩

theorem repeats_one {before after : List Char} {n j : Nat} :
    Repeats (before ++ after) (.one set) n before.length j ↔
      ∃ piece rest, after = piece ++ rest ∧ j = (before ++ piece).length ∧
        piece.length = n ∧ ∀ c ∈ piece, set.contains c := by
  induction n generalizing before after with
  | zero =>
      constructor
      · rintro rfl
        exact ⟨[], after, rfl, by simp, rfl, by simp⟩
      · rintro ⟨piece, rest, rfl, rfl, hn, _⟩
        rw [List.eq_nil_of_length_eq_zero hn, List.append_nil]
        rfl
  | succ n ih =>
      constructor
      · rintro ⟨k, h, hr⟩
        obtain ⟨_, rest, rfl, rfl, c, rfl, hc⟩ := (hasLanguage_one before after k).mp h
        rw [← List.append_assoc] at hr
        obtain ⟨piece, rest, rfl, rfl, hn, hs⟩ := ih.mp hr
        refine ⟨c :: piece, rest, rfl, by simp, by simp [hn], ?_⟩
        exact List.forall_mem_cons.mpr ⟨hc, hs⟩
      · rintro ⟨piece, rest, rfl, rfl, hn, hs⟩
        obtain ⟨c, piece, rfl⟩ := List.exists_cons_of_length_eq_add_one hn
        obtain ⟨hc, hs⟩ := List.forall_mem_cons.mp hs
        refine ⟨_, (hasLanguage_one before _ _).mpr ⟨[c], piece ++ rest, rfl, rfl, c, rfl, hc⟩, ?_⟩
        have h := (@ih (before ++ [c]) (piece ++ rest)).mpr
          ⟨piece, rest, rfl, by simp, Nat.succ.inj hn, hs⟩
        simpa using h

theorem hasLanguage_many_one {min : Nat} {lazy : Bool} :
    HasLanguage (.many (.one set) min none lazy)
      fun piece => min ≤ piece.length ∧ ∀ c ∈ piece, set.contains c := by
  intro before after j
  rw [spans_many]
  constructor
  · rintro ⟨_, n, hmin, _, h⟩
    obtain ⟨piece, rest, rfl, rfl, rfl, hs⟩ := repeats_one.mp h
    exact ⟨piece, rest, rfl, rfl, hmin, hs⟩
  · rintro ⟨piece, rest, rfl, rfl, hmin, hs⟩
    exact ⟨by simp, piece.length, hmin, nofun, repeats_one.mpr ⟨piece, rest, rfl, rfl, rfl, hs⟩⟩

/-- In a row, expressions span the texts that fall into a piece of each. -/
theorem hasLanguage_ofList {f : Char → Expression} {language : Char → List Char → Prop}
    {cs : List Char} (h : ∀ c ∈ cs, HasLanguage (f c) (language c)) :
    HasLanguage (ofList (cs.map f)) fun text =>
      ∃ pieces : List (List Char), pieces.flatten = text ∧ List.Forall₂ language cs pieces := by
  induction cs with
  | nil =>
      refine hasLanguage_empty.congr fun text => ?_
      constructor
      · rintro rfl
        exact ⟨[], rfl, .nil⟩
      · rintro ⟨_, rfl, ⟨⟩⟩
        rfl
  | cons c cs ih =>
      obtain ⟨hc, hcs⟩ := List.forall_mem_cons.mp h
      cases cs with
      | nil =>
          refine hc.congr fun text => ?_
          constructor
          · intro ht
            exact ⟨[text], by simp, .cons ht .nil⟩
          · rintro ⟨_, rfl, ht⟩
            cases ht with
            | cons ht hnil =>
                cases hnil
                simpa using ht
      | cons d cs =>
          refine (hc.seq (ih hcs)).congr fun text => ?_
          constructor
          · rintro ⟨x, _, rfl, hx, pieces, rfl, hps⟩
            exact ⟨x :: pieces, rfl, .cons hx hps⟩
          · rintro ⟨_, rfl, hps⟩
            cases hps with
            | cons hx hps => exact ⟨_, _, rfl, hx, _, rfl, hps⟩

end Expression

/-! ## The pieces of an input -/

/-- A character of a pattern stands for a piece of the input. -/
@[mk_iff]
inductive PieceOf : Char → List Char → Prop
  | oneOrMore {c : Char} {piece : List Char} :
    c = '*' ∨ c = '_' → piece ≠ [] → '\n' ∉ piece → PieceOf c piece
  | zeroOrMore {c : Char} {piece : List Char} : c = '^' ∨ c = '#' → '\n' ∉ piece → PieceOf c piece
  | space {piece : List Char} : (∀ x ∈ piece, Text.isBlank x) → PieceOf ' ' piece
  | plain {c : Char} : isPlain c → PieceOf c [c]

theorem contains_inLine {c : Char} : inLine.contains c = true ↔ c ≠ '\n' := by
  have htop : c.toNat ≤ CharSet.top := by
    have : c.toNat.isValidChar := c.valid
    simp only [Nat.isValidChar] at this
    simp only [CharSet.top]
    omega
  have hfeed : '\n'.toNat = 10 := rfl
  simp only [CharSet.contains, CharSet.hasCode, inLine, CharSet.holds, List.any_cons,
    List.any_nil, Bool.or_false, Bool.and_eq_true, Bool.or_eq_true, decide_eq_true_eq]
  rw [ne_eq, ← Char.toNat_inj]
  omega

theorem forall_contains_inLine {piece : List Char} :
    (∀ c ∈ piece, inLine.contains c) ↔ '\n' ∉ piece := by
  simp only [contains_inLine]
  exact ⟨fun h hn => h _ hn rfl, fun h c hc he => h (he ▸ hc)⟩

/-- The part of each character has the character's pieces for its language. -/
theorem hasLanguage_partOf {c : Char} (h : isPlainOrSymbol c) :
    (partOf c).expression.HasLanguage (PieceOf c) := by
  have hplus (piece : List Char) :
      1 ≤ piece.length ∧ (∀ x ∈ piece, inLine.contains x) ↔ piece ≠ [] ∧ '\n' ∉ piece := by
    rw [forall_contains_inLine, ← List.length_pos_iff]
    rfl
  have hstar (piece : List Char) :
      0 ≤ piece.length ∧ (∀ x ∈ piece, inLine.contains x) ↔ '\n' ∉ piece := by
    rw [forall_contains_inLine]
    exact and_iff_right (Nat.zero_le _)
  rcases isPlainOrSymbol_cases h with h | rfl | rfl | rfl | rfl | rfl
  · rw [partOf_of_isPlain h]
    refine Expression.hasLanguage_one.congr fun piece => ?_
    have hne : ∀ d, ¬ isPlain d → c ≠ d := fun d hd he => hd (he ▸ h)
    simp [pieceOf_iff, CharSet.contains_single, h, hne ' ' (by decide), hne '*' (by decide),
      hne '_' (by decide), hne '^' (by decide), hne '#' (by decide)]
  · refine Expression.hasLanguage_many_one.congr fun piece => ?_
    simp [pieceOf_iff, isPlain, Text.isBlank]
  · refine Expression.hasLanguage_many_one.congr fun piece => (hplus piece).trans ?_
    simp [pieceOf_iff, isPlain]
  · refine Expression.hasLanguage_many_one.congr fun piece => (hplus piece).trans ?_
    simp [pieceOf_iff, isPlain]
  · refine Expression.hasLanguage_many_one.congr fun piece => (hstar piece).trans ?_
    simp [pieceOf_iff, isPlain]
  · refine Expression.hasLanguage_many_one.congr fun piece => (hstar piece).trans ?_
    simp [pieceOf_iff, isPlain]

/-! ## Inputs that are accepted -/

theorem Look.holdsAt_start {text : List Char} {i : Nat} (hi : i ≤ text.length) :
    Look.start.holdsAt text i = true ↔ i = 0 := by
  cases i with
  | zero => simp [Look.holdsAt, Look.holds]
  | succ i =>
      have hlt : i < text.length := hi
      simp [Look.holdsAt, Look.holds, hlt]

theorem Look.holdsAt_stop {text : List Char} {i : Nat} (hi : i ≤ text.length) :
    Look.stop.holdsAt text i = true ↔ i = text.length := by
  simp only [Look.holdsAt, Look.holds, Option.isNone_iff_eq_none, List.getElem?_eq_none_iff]
  omega

namespace Expression

/-- Between anchors, an expression spans nothing but whole texts. -/
theorem spans_anchored {e : Expression} {text : List Char} {i j : Nat} :
    Spans text (.seq (.look .start) (.seq (.group none e) (.look .stop))) i j ↔
      i = 0 ∧ j = text.length ∧ Spans text e 0 text.length := by
  simp only [spans_seq, spans_look, spans_group]
  constructor
  · rintro ⟨_, ⟨rfl, hi, hstart⟩, _, h, rfl, hj, hstop⟩
    obtain rfl := (Look.holdsAt_start hi).mp hstart
    obtain rfl := (Look.holdsAt_stop hj).mp hstop
    exact ⟨rfl, rfl, h⟩
  · rintro ⟨rfl, rfl, h⟩
    exact ⟨0, ⟨rfl, Nat.zero_le _, (Look.holdsAt_start (Nat.zero_le _)).mpr rfl⟩, _, h, rfl,
      Nat.le_refl _, (Look.holdsAt_stop (Nat.le_refl _)).mpr rfl⟩

theorem HasLanguage.spans_all {e : Expression} {language : List Char → Prop}
    (h : HasLanguage e language) (text : List Char) :
    Spans text e 0 text.length ↔ language text := by
  refine (h [] text text.length).trans ?_
  constructor
  · rintro ⟨piece, rest, rfl, hlen, hp⟩
    have hrest : rest = [] := by
      simp only [List.nil_append, List.length_append] at hlen
      exact List.eq_nil_of_length_eq_zero (by omega)
    simpa [hrest] using hp
  · exact fun hp => ⟨text, [], (List.append_nil text).symm, rfl, hp⟩

theorem occursIn_ofPattern {cs : List Char} (hcs : ∀ c ∈ cs, isPlainOrSymbol c) (text : List Char) :
    (ofPattern cs).occursIn text = true ↔
      ∃ pieces : List (List Char), pieces.flatten = text ∧ List.Forall₂ PieceOf cs pieces := by
  have hlanguage := hasLanguage_ofList fun c hc => hasLanguage_partOf (hcs c hc)
  rw [occursIn_iff, ← hlanguage.spans_all]
  simp only [ofPattern, spans_anchored]
  constructor
  · rintro ⟨_, _, _, _, h⟩
    exact h
  · intro h
    exact ⟨0, text.length, rfl, rfl, h⟩

end Expression

namespace MatchTest

/-- A pattern of plain characters, spaces and wildcards has a test, and the test accepts the inputs that
fall into pieces, one for each character of the trimmed pattern. A limit on the size of expressions
changes no test that there is. -/
theorem accepts_iff_pieces (pattern : String) (h : ∀ c ∈ pattern.toList, isPlainOrSymbol c) :
    ∃ t, ofPatternWithin none pattern = .ok t ∧
      (∀ limit t', ofPatternWithin limit pattern = .ok t' → t' = t) ∧
      ∀ input : String, t.accepts input = true ↔
        ∃ pieces : List (List Char), pieces.flatten = input.toList ∧
          List.Forall₂ PieceOf (Text.trimmed pattern.toList) pieces := by
  have hcs : ∀ c ∈ Text.trimmed pattern.toList, isPlainOrSymbol c :=
    fun c hc => h c (Text.mem_of_mem_trimmed hc)
  have hread : Expression.read (patternExpression pattern) =
      some (.ofPattern (Text.trimmed pattern.toList)) := by
    rw [patternExpression, replaceSymbols_eq_flatMap, Expression.read_anchored hcs]
  refine ⟨⟨pattern, String.ofList (patternExpression pattern),
    .ofPattern (Text.trimmed pattern.toList)⟩, ?_, ?_, fun input => ?_⟩
  · simp [ofPatternWithin, hread]
  · intro limit t' ht
    simp only [ofPatternWithin, hread] at ht
    split at ht
    · cases ht
      rfl
    · cases ht
  · exact Expression.occursIn_ofPattern hcs input.toList

/-- The space may stand for nothing, but the wildcard needs a character. -/
theorem accepts_iff_pieces_greeting :
    ∃ t, ofPatternWithin none "HI *" = .ok t ∧ t.accepts "HI BOB" = true ∧
      t.accepts "HI" = false := by
  have hchars : "HI *".toList.all isPlainOrSymbol = true := by decide
  obtain ⟨t, ht, _, h⟩ := accepts_iff_pieces "HI *" (List.all_eq_true.mp hchars)
  have hpattern : Text.trimmed "HI *".toList = ['H', 'I', ' ', '*'] := by decide
  rw [hpattern] at h
  refine ⟨t, ht, (h "HI BOB").mpr ?_, ?_⟩
  · refine ⟨[['H'], ['I'], [' '], ['B', 'O', 'B']], by decide, ?_⟩
    exact .cons (.plain rfl) (.cons (.plain rfl) (.cons (.space (List.forall_mem_singleton.mpr rfl))
      (.cons (.oneOrMore (.inl rfl) (by decide) (by decide)) .nil)))
  · rw [Bool.eq_false_iff, ne_eq, h]
    rintro ⟨pieces, hflat, hps⟩
    rcases hps with _ | ⟨hH, _ | ⟨hI, _ | ⟨_, _ | ⟨hstar, ⟨⟩⟩⟩⟩⟩
    simp only [pieceOf_iff, isPlain] at hH hI hstar
    simp_all

end MatchTest

end Dialogue
