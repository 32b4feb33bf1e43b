import Mathlib.Data.List.Find
import Mathlib.Data.List.Forall2
import Dialogue.Proofs.Rules.History
import Dialogue.Proofs.Session.Growth
import Dialogue.Proofs.Text.Trimming

/-!
# Patterns with lowercase letters

Inputs are in uppercase when they are tested, and every character that stands for itself in a pattern is
asked for in the input. So a pattern of such characters and wildcards that has a lowercase ASCII letter is
never the match of an input, and matches are the same without its rules.
-/

namespace Dialogue

/-- A pattern of plain characters, spaces and wildcards, with a lowercase ASCII letter among them. -/
def hasLowercase (pattern : String) : Bool :=
  pattern.toList.all isPlainOrSymbol && pattern.toList.any Char.isLower

/-- The second store has the patterns of the first that are not marked, in the same order. -/
def RuleStore.LeavesOut {σ σ' : Type} [RuleStore σ] [RuleStore σ'] (marked : String → Bool) (store : σ)
    (store' : σ') : Prop :=
  ∀ topic, patterns store' topic = (patterns store topic).filter (!marked ·)

/-! ## Letters of a normalized input -/

namespace Text

theorem isLower_iff {c : Char} : c.isLower ↔ 0x61 ≤ c.toNat ∧ c.toNat ≤ 0x7A := by
  have hbounds : c.isLower = (decide ('a'.val ≤ c.val) && decide (c.val ≤ 'z'.val)) := rfl
  rw [hbounds, Bool.and_eq_true, decide_eq_true_eq, decide_eq_true_eq, UInt32.le_iff_toNat_le,
    UInt32.le_iff_toNat_le]
  rfl

theorem not_isLower_ofNat {n : Nat} (h : n < 0x61 ∨ 0x7A < n) : ¬(Char.ofNat n).isLower := by
  rw [isLower_iff]
  by_cases hvalid : n.isValidChar
  · have hn : (Char.ofNat n).toNat = n := by
      rw [Char.ofNat, dif_pos hvalid]
      rfl
    omega
  · have hn : (Char.ofNat n).toNat = 0 := by
      rw [Char.ofNat, dif_neg hvalid]
      rfl
    omega

/-- No run of the case tables ends in the lowercase letters. -/
theorem not_isLower_of_image? {n m : Nat} (h : CaseRun.image? upperRuns n = some m) :
    ¬(Char.ofNat m).isLower := by
  have hruns : ∀ r ∈ upperRuns, r.image + (r.last - r.first) < 0x61 ∨ 0x7A < r.image := by
    decide +kernel
  obtain ⟨r, hr, rfl⟩ := Option.map_eq_some_iff.mp h
  have hcovers := List.find?_some hr
  simp only [CaseRun.covers, Bool.and_eq_true, decide_eq_true_eq] at hcovers
  have hrange := hruns r (List.mem_of_find?_eq_some hr)
  refine not_isLower_ofNat ?_
  rw [CaseRun.move]
  omega

theorem not_isLower_of_mem_upper {c d : Char} (h : d ∈ upper c) : ¬d.isLower := by
  have hascii : ∀ n < 0x80, ¬(Char.ofNat n).toUpper.isLower := by decide
  have hsequences : ∀ entry ∈ upperSequences, ∀ n ∈ entry.2, n < 0x61 ∨ 0x7A < n := by decide +kernel
  rw [upper] at h
  split at h
  · next hc =>
      have hupper := hascii c.toNat hc
      rw [Char.ofNat_toNat] at hupper
      rwa [List.mem_singleton.mp h]
  · next hc =>
      split at h
      · next ns hns =>
          obtain ⟨before, after, htable, _⟩ := List.lookup_eq_some_iff.mp hns
          obtain ⟨n, hn, rfl⟩ := List.mem_map.mp h
          exact not_isLower_ofNat (hsequences (c.toNat, ns) (by simp [htable]) n hn)
      · rw [List.mem_singleton] at h
        subst h
        cases himage : CaseRun.image? upperRuns c.toNat with
        | some m => exact not_isLower_of_image? himage
        | none =>
            rw [Option.map_none, Option.getD_none, isLower_iff]
            omega

theorem not_isBlank_of_isLower {c : Char} (h : c.isLower) : ¬isBlank c := by
  have hcodes : ∀ n ∈ blankCodes, n < 0x61 ∨ 0x7A < n := by decide +kernel
  intro hblank
  have hc := hcodes c.toNat (toNat_mem_blankCodes hblank)
  rw [isLower_iff] at h
  omega

end Text

theorem not_isLower_of_mem_normalize {c : Char} {input : String} (h : c ∈ (normalize input).toList) :
    ¬c.isLower := by
  rw [normalize, String.toList_ofList] at h
  obtain ⟨_, _, hc⟩ := List.mem_flatMap.mp (Text.mem_of_mem_trimmed h)
  exact Text.not_isLower_of_mem_upper hc

/-! ## Texts that a pattern takes -/

theorem isPlain_of_isLower {c : Char} (h : c.isLower) : isPlain c := by
  have hspecial : " \\.+*?()|[]{}^$#_".toList.all (!·.isLower) = true := by decide
  rw [isPlain_iff]
  intro hmem
  have hupper := List.all_eq_true.mp hspecial c hmem
  rw [h] at hupper
  cases hupper

theorem PieceOf.eq_of_isPlain {c : Char} {piece : List Char} (h : PieceOf c piece) (hc : isPlain c) :
    piece = [c] := by
  cases h with
  | oneOrMore hsymbol => obtain rfl | rfl := hsymbol <;> exact absurd hc (by decide)
  | zeroOrMore hsymbol => obtain rfl | rfl := hsymbol <;> exact absurd hc (by decide)
  | space => exact absurd hc (by decide)
  | plain => rfl

/-- A plain character is in every text that falls into pieces of it and of others. -/
theorem mem_flatten_of_pieces {cs : List Char} {pieces : List (List Char)}
    (h : List.Forall₂ PieceOf cs pieces) {c : Char} (hmem : c ∈ cs) (hc : isPlain c) :
    c ∈ pieces.flatten := by
  induction h with
  | nil => cases hmem
  | cons hpiece _ ih =>
      rw [List.flatten_cons, List.mem_append]
      obtain rfl | hmem := List.mem_cons.mp hmem
      · rw [hpiece.eq_of_isPlain hc]
        exact .inl (List.mem_singleton_self c)
      · exact .inr (ih hmem)

theorem exists_pieces_of_takes {text pattern : String} (hpattern : ∀ c ∈ pattern.toList, isPlainOrSymbol c)
    (h : takes text pattern) :
    ∃ pieces : List (List Char), pieces.flatten = text.toList ∧
      List.Forall₂ PieceOf (Text.trimmed pattern.toList) pieces := by
  have hcs : ∀ c ∈ Text.trimmed pattern.toList, isPlainOrSymbol c :=
    fun c hc => hpattern c (Text.mem_of_mem_trimmed hc)
  have hread : Expression.read (patternExpression pattern) =
      some (.ofPattern (Text.trimmed pattern.toList)) := by
    rw [patternExpression, replaceSymbols_eq_flatMap, Expression.read_anchored hcs]
  cases htest : MatchTest.ofPattern pattern with
  | error fault =>
      rw [takes, testOf, htest] at h
      cases h
  | ok t =>
      obtain ⟨e, he, -, rfl⟩ := MatchTest.ofPatternWithin_eq_ok_iff.mp htest
      cases hread.symm.trans he
      rw [takes, testOf, htest] at h
      exact (Expression.occursIn_ofPattern hcs text.toList).mp h

/-- No input has a lowercase letter when it is tested, and the pattern asks for one. -/
theorem not_takes_of_hasLowercase {pattern : String} (h : hasLowercase pattern) (input : String) :
    takes (normalize input) pattern = false := by
  obtain ⟨hall, hany⟩ := Bool.and_eq_true_iff.mp h
  obtain ⟨c, hmem, hlower⟩ := List.any_eq_true.mp hany
  rw [Bool.eq_false_iff]
  intro htakes
  obtain ⟨pieces, htext, hpieces⟩ := exists_pieces_of_takes (List.all_eq_true.mp hall) htakes
  have hkept : c ∈ Text.trimmed pattern.toList := Text.mem_trimmed hmem (Text.not_isBlank_of_isLower hlower)
  have hinput : c ∈ (normalize input).toList := by
    rw [← htext]
    exact mem_flatten_of_pieces hpieces hkept (isPlain_of_isLower hlower)
  exact not_isLower_of_mem_normalize hinput hlower

/-! ## Stores without such patterns -/

namespace RuleStore

section
variable {σ σ' : Type} [RuleStore σ] [RuleStore σ'] {store : σ} {store' : σ'} {marked : String → Bool}

/-- Patterns that do not take a text can be left out of a topic. -/
theorem LeavesOut.firstIn? (h : LeavesOut marked store store') {text : String}
    (hmarked : ∀ pattern, marked pattern → takes text pattern = false) (topic : String) :
    firstIn? store' text topic = firstIn? store text topic := by
  have hboth (pattern : String) :
      decide ((!marked pattern) = true ∧ takes text pattern = true) = takes text pattern := by
    cases hm : marked pattern with
    | false => simp
    | true => simp [hmarked pattern hm]
  rw [RuleStore.firstIn?, h topic, List.find?_filter]
  simp only [hboth]
  rfl

theorem LeavesOut.firstHit? (h : LeavesOut marked store store') {input : String}
    (hmarked : ∀ pattern, marked pattern → takes (normalize input) pattern = false)
    (topic defaultTopic : String) :
    firstHit? store' input topic defaultTopic = firstHit? store input topic defaultTopic := by
  rw [firstHit?_eq_or, firstHit?_eq_or, h.firstIn? hmarked, h.firstIn? hmarked]

end

section
variable {σ : Type} [RuleStore σ] {store : σ} {input text topic defaultTopic : String} {hit : Hit}

theorem takes_of_firstIn? (h : firstIn? store text topic = some hit) : takes text hit.pattern := by
  obtain ⟨pattern, hfound, rfl⟩ := Option.map_eq_some_iff.mp h
  exact List.find?_some hfound

theorem takes_of_firstHit? (h : firstHit? store input topic defaultTopic = some hit) :
    takes (normalize input) hit.pattern := by
  rw [firstHit?_eq_or, Option.or_eq_some_iff] at h
  obtain h | ⟨-, h⟩ := h
  · exact takes_of_firstIn? h
  · exact takes_of_firstIn? h

theorem takes_of_report {pattern : String} (h : (report store text topic).matched? = some pattern) :
    takes text pattern := by
  rw [report_matched?] at h
  obtain ⟨hit, hhit, rfl⟩ := Option.map_eq_some_iff.mp h
  exact takes_of_firstIn? hhit

/-- Every pattern that a report names takes the input. -/
theorem takes_of_mem_reports {search : SearchReport} {pattern : String}
    (h : search ∈ reports store input topic defaultTopic) (hmatched : search.matched? = some pattern) :
    takes (normalize input) pattern := by
  rw [reports_eq] at h
  have hsearch : search ∈ [report store (normalize input) topic,
      report store (normalize input) defaultTopic] := by
    dsimp only at h
    split at h
    · exact h
    · exact List.mem_cons.mpr (.inl (List.mem_singleton.mp h))
  rw [List.mem_pair] at hsearch
  obtain rfl | rfl := hsearch
  · exact takes_of_report hmatched
  · exact takes_of_report hmatched

end

end RuleStore

/-- The rules of a history that have no marked patterns make an index without these patterns. -/
theorem Index.leavesOut_ofHistory (marked : String → Bool) (history : List Category) :
    RuleStore.LeavesOut marked (ofHistory history) (ofHistory (history.filter (!marked ·.pattern))) := by
  intro topic
  show (ofHistory _).patterns topic = ((ofHistory history).patterns topic).filter _
  rw [patterns_ofHistory, patterns_ofHistory, filter_eraseDups, List.filter_map, List.filter_filter,
    List.filter_filter]
  simp only [Function.comp_apply, Bool.and_comm]

/-! ## Matches -/

theorem RuleStore.patternOf_firstHit?_ne {σ : Type} [RuleStore σ] {store : σ}
    {input topic defaultTopic pattern : String} (h : hasLowercase pattern) :
    patternOf (firstHit? store input topic defaultTopic) ≠ pattern := by
  cases hhit : firstHit? store input topic defaultTopic with
  | none =>
      rintro rfl
      exact absurd h (by decide)
  | some hit =>
      rintro rfl
      have htakes : takes (normalize input) hit.pattern := takes_of_firstHit? hhit
      have hnot : takes (normalize input) hit.pattern = false := not_takes_of_hasLowercase h input
      rw [hnot] at htakes
      cases htakes

namespace Interpreter

variable {σ : Type} [RuleStore σ] {bot : Interpreter σ}

theorem patternFor_eq (h : bot.cache.Sound) (input topic that : String) :
    (bot.patternFor input topic that).1 =
      patternOf (RuleStore.firstHit? bot.index input topic bot.options.defaultTopic) := by
  have hanswer : _ = Except.ok _ := bot.perform_findsFirst h .empty (.matchPattern input topic that)
  exact Answer.pattern.inj (Except.ok.inj hanswer)

theorem pattern_of_respond (h : bot.cache.Sound) {input topic that : String} {predicates : Predicates}
    {reply : Reply} (hreply : (bot.respond input topic that predicates).result = .ok reply) :
    reply.pattern = patternOf (RuleStore.firstHit? bot.index input topic bot.options.defaultTopic) := by
  have hanswer := bot.perform_findsFirst h predicates (.respond input topic that)
  have hresult : (bot.perform predicates (.respond input topic that)).result = .ok (.reply reply) :=
    congrArg (Except.map Answer.reply) hreply
  rw [hresult] at hanswer
  obtain ⟨e, herror⟩ | ⟨text, hok⟩ := hanswer
  · cases herror
  · rw [Answer.reply.inj (Except.ok.inj hok)]

end Interpreter

namespace Sessions

/-- A pattern with a lowercase letter is never reported as a match, in whatever store and topic it is and
whatever was called before: not by a match with a report or without, and not with an answer. And whatever
input is matched in a store that leaves such patterns out, the match is that of the store with them. -/
theorem explain_passes_over_lowercase {σ σ' : Type} [RuleStore σ] [RuleStore σ'] (store : σ) (store' : σ')
    (hstore : RuleStore.LeavesOut hasLowercase store store') (options : Options) (seed seed' : UInt64)
    (memory memory' : String → Predicates) (earlier earlier' : List Request)
    (input topic that that' : String) :
    let bot := ((start store options seed memory).run earlier).2.bot
    let bot' := ((start store' options seed' memory').run earlier').2.bot
    let explanation := (bot.explain input topic that).1
    let explanation' := (bot'.explain input topic that').1
    (∀ pattern, hasLowercase pattern →
        (bot.patternFor input topic that).1 ≠ pattern ∧ explanation.pattern ≠ pattern ∧
          (∀ search ∈ explanation.searches, search.matched? ≠ some pattern) ∧
          ∀ predicates reply, (bot.respond input topic that predicates).result = .ok reply →
            reply.pattern ≠ pattern) ∧
      (explanation'.topic? = explanation.topic? ∧ explanation'.pattern = explanation.pattern) ∧
      (bot'.patternFor input topic that').1 = (bot.patternFor input topic that).1 ∧
      bot'.hit? input topic = bot.hit? input topic := by
  intro bot bot' explanation explanation'
  have hsound : bot.cache.Sound := run_sound .empty earlier
  obtain ⟨hindex, hoptions⟩ : bot.index = store ∧ bot.options = options := run_fixed _ earlier
  have hsound' : bot'.cache.Sound := run_sound .empty earlier'
  obtain ⟨hindex', hoptions'⟩ : bot'.index = store' ∧ bot'.options = options := run_fixed _ earlier'
  have hsame := hstore.firstHit? (fun _ h => not_takes_of_hasLowercase h input) topic options.defaultTopic
  have hexplanation := Interpreter.explain_eq hsound input topic that
  have hexplanation' := Interpreter.explain_eq hsound' input topic that'
  have hpattern := Interpreter.patternFor_eq hsound input topic that
  have hpattern' := Interpreter.patternFor_eq hsound' input topic that'
  have hfind := (hsound.findInStore bot.index input topic bot.options.defaultTopic).1
  have hfind' := (hsound'.findInStore bot'.index input topic bot'.options.defaultTopic).1
  rw [hindex, hoptions] at hexplanation hpattern
  rw [hindex', hoptions', hsame] at hexplanation' hpattern'
  simp only [explanation, explanation', hexplanation, hexplanation', hpattern, hpattern', and_true, true_and]
  refine ⟨fun pattern h => ?_, ?_⟩
  · have hne : patternOf (RuleStore.firstHit? store input topic options.defaultTopic) ≠ pattern :=
      RuleStore.patternOf_firstHit?_ne h
    refine ⟨hne, hne, fun search hsearch hmatched => ?_, fun predicates reply hreply => ?_⟩
    · have htakes := RuleStore.takes_of_mem_reports hsearch hmatched
      rw [not_takes_of_hasLowercase h input] at htakes
      cases htakes
    · have hfirst := Interpreter.pattern_of_respond hsound hreply
      rw [hindex, hoptions] at hfirst
      rwa [hfirst]
  · rw [Interpreter.hit?, Interpreter.hit?, hfind, hfind', hindex, hoptions, hindex', hoptions', hsame]

/-- The rule for `hello` is there before the one for `HELLO`, and still no input finds it. -/
theorem explain_passes_over_lowercase_greeting :
    let template (text : String) : Markup.Element := { name := "template", children := [.text text] }
    let history : List Category := [.ofTemplate "default" "hello" (template "Never."),
      .ofTemplate "default" "HELLO" (template "Hi.")]
    let store := Index.ofHistory history
    let store' := Index.ofHistory (history.filter (!hasLowercase ·.pattern))
    let bot := ((start store {} 7 fun _ => .empty).run []).2.bot
    let bot' := ((start store' {} 7 fun _ => .empty).run []).2.bot
    (RuleStore.LeavesOut hasLowercase store store' ∧ hasLowercase "hello" ∧
        "hello" ∈ store.patterns "default") ∧
      (bot.explain "hello" "FOOD" "").1.pattern ≠ "hello" ∧
      (bot'.explain "hello" "FOOD" "").1.pattern = (bot.explain "hello" "FOOD" "").1.pattern := by
  intro template history store store' bot bot'
  have hstore : RuleStore.LeavesOut hasLowercase store store' := Index.leavesOut_ofHistory _ history
  have hlowercase : hasLowercase "hello" := by decide
  have hmem : "hello" ∈ store.patterns "default" :=
    (Index.mem_patterns_foldl_insert .empty history).mpr (.inl ⟨_, List.mem_cons_self, rfl⟩)
  obtain ⟨hnever, hsame, -⟩ := explain_passes_over_lowercase store store' hstore {} 7 7 (fun _ => .empty)
    (fun _ => .empty) [] [] "hello" "FOOD" "" ""
  dsimp only [bot, bot']
  exact ⟨⟨hstore, hlowercase, hmem⟩, (hnever "hello" hlowercase).2.1, hsame.2⟩

end Sessions

end Dialogue
