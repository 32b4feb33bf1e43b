import Mathlib.Control.Monad.Basic
import Dialogue.Proofs.Console.Transcript
import Dialogue.Proofs.Session.Tidying

/-!
# Replies and lines of the output

A reply is put together from texts without line breaks, from responses that the options name, and from
what `<random>` elements choose. A choice alone is written as markup and keeps its line breaks. So the
output has as many lines as there are replies, unless a line break is in what is chosen.
-/

namespace Dialogue

open Markup (Node Element)

/-- No choice in the task writes the character. -/
def Task.ChoosesWithout (c : Char) (task : Task) : Prop :=
  ∀ e ∈ task.elements, e.name = "random" →
    ∀ item ∈ e.elementsNamed "li", c ∉ item.contentMarkup.toList

/-- No choice in the response of any rule writes the character. -/
def RuleStore.ChoosesWithout {σ : Type} [RuleStore σ] (store : σ) (c : Char) : Prop :=
  ∀ topic pattern rule, category? store topic pattern = some rule →
    (Task.rule (some rule.node)).ChoosesWithout c

/-- The character is in no text that is the result. -/
def Lacks (c : Char) (r : Except Error String) : Prop :=
  ∀ text, r = .ok text → c ∉ text.toList

/-! ## Choices -/

/-- A choice gives the content of one of the items, if there is any. -/
theorem renderChoice_result (items : List Element) (d : Draws) :
    items = [] ∧ (renderChoice (m := Rendering) items d).result = .error .emptyChoice ∨
      ∃ item ∈ items, (renderChoice (m := Rendering) items d).result = .ok item.contentMarkup := by
  cases items with
  | nil => exact .inl ⟨rfl, rfl⟩
  | cons item items =>
      refine .inr ⟨(item :: items)[(d.below (items.length + 1)).1]?.getD item, ?_, rfl⟩
      cases h : (item :: items)[(d.below (items.length + 1)).1]? with
      | none => exact List.mem_cons_self
      | some chosen => exact List.mem_of_getElem? h

/-! ## Replies -/

theorem Lacks.map {c : Char} {r : Except Error String} {f : String → String} (h : Lacks c r)
    (hf : ∀ text, c ∉ text.toList → c ∉ (f text).toList) : Lacks c (r.map f) := by
  cases r with
  | error e => exact nofun
  | ok text =>
      rintro _ ⟨⟩
      exact hf text (h text rfl)

theorem Lacks.ok {c : Char} {text : String} (h : c ∉ text.toList) : Lacks c (.ok text) := by
  rintro _ ⟨⟩
  exact h

theorem Task.ChoosesWithout.part {c : Char} {task part : Task} (h : task.ChoosesWithout c)
    (hpart : part.elements ⊆ task.elements) : part.ChoosesWithout c :=
  fun e he => h e (hpart he)

section
variable {σ : Type} [RuleStore σ] {store : σ} {options : Options} {depth : Nat} {task : Task}
  {s s' : Scene} {r : Except Error String} {w : List (String × String)} {c : Char}

/-- What is rendered has no line break unless a choice or a response that the options name has one. -/
theorem Course.lacks (hc : c ∈ lineBreaks) (hdefault : c ∉ options.defaultResponse.toList)
    (herror : c ∉ options.errorResponse.toList) (hstore : RuleStore.ChoosesWithout store c)
    (h : Course store options depth task s r s' w) (htask : task.ChoosesWithout c) : Lacks c r := by
  have hempty : Lacks c (.ok "") := .ok List.not_mem_nil
  induction h with
  | nil => exact hempty
  | cons hfirst _ ih ih' =>
      have hhead := ih (htask.part Task.head_subset) _ rfl
      refine (ih' (htask.part Task.tail_subset)).map fun text htext => ?_
      rw [String.toList_append, List.mem_append]
      exact not_or_intro hhead htext
  | consFault _ ih => exact nofun
  | text => exact .ok (not_mem_tidyText hc _)
  | template _ ih => exact ih (htask.part Task.children_subset)
  | @random depth attributes children items s hitems =>
      obtain ⟨_, hfault⟩ | ⟨item, hitem, hchosen⟩ := renderChoice_result items s.draws
      · rw [hfault]
        exact nofun
      · rw [hchosen]
        exact .ok (htask _ List.mem_cons_self rfl item (hitems ▸ hitem))
  | think _ ih => exact (ih (htask.part Task.children_subset)).map fun _ _ => List.not_mem_nil
  | set => exact hempty
  | setFault => exact nofun
  | setUnnamed => exact hempty
  | sraiTooDeep => exact nofun
  | sraiUnknown => exact .ok herror
  | srai _ hrule _ ih => exact ih (hstore _ _ _ hrule)
  | unknown => exact hempty
  | noRule => exact .ok hdefault
  | noTemplate => exact .ok hdefault
  | rule ht _ ih =>
      refine (ih (htask.part (Task.response_subset ht))).map fun text htext => ?_
      split
      · exact hdefault
      · exact htext

theorem RuleStore.ChoosesWithout.ruleFor? (h : RuleStore.ChoosesWithout store c) (input topic : String) :
    (Task.rule (RuleStore.ruleFor? store options input topic)).ChoosesWithout c := by
  rw [RuleStore.ruleFor?]
  generalize (firstHit? store input topic options.defaultTopic).getD _ = hit
  cases hrule : category? store hit.topic hit.pattern with
  | some rule => exact h _ _ rule hrule
  | none =>
      cases hcatchAll : category? store options.defaultTopic catchAll with
      | some rule => exact h _ _ rule hcatchAll
      | none => exact List.forall_mem_nil _

end

namespace Console

/-- The texts of the replies, without the turns that ended in a fault. -/
def replies (turns : List Exchange) : List String :=
  turns.filterMap (·.result.toOption)

/-- Texts, each on a line of its own. -/
def linesOf (texts : List String) : String :=
  String.join (texts.map (· ++ "\n"))

theorem linesOf_replies (turns : List Exchange) :
    linesOf (replies turns) = String.join (turns.map (·.output)) := by
  induction turns with
  | nil => rfl
  | cons turn turns ih =>
      rw [linesOf, replies, List.map_cons, String.join_cons, ← ih, Exchange.output, List.filterMap_cons]
      cases turn.result with
      | ok text => exact String.join_cons
      | error e => exact String.empty_append.symm

theorem toList_linesOf_cons (text : String) (texts : List String) :
    (linesOf (text :: texts)).toList = text.toList ++ '\n' :: (linesOf texts).toList := by
  rw [linesOf, List.map_cons, String.join_cons, String.toList_append, String.toList_append,
    List.append_assoc]
  rfl

/-- The lines end in one line feed each, and there are those inside the texts. -/
theorem count_linesOf (texts : List String) :
    (linesOf texts).toList.count '\n' = texts.length + (String.join texts).toList.count '\n' := by
  induction texts with
  | nil => rfl
  | cons text texts ih =>
      rw [toList_linesOf_cons, List.count_append, List.count_cons_self, ih, String.join_cons,
        String.toList_append, List.count_append, List.length_cons]
      omega

theorem count_linesOf_eq_length_iff (texts : List String) :
    (linesOf texts).toList.count '\n' = texts.length ↔ ∀ text ∈ texts, '\n' ∉ text.toList := by
  rw [count_linesOf, Nat.add_eq_left, List.count_eq_zero, String.toList_join, List.mem_flatMap]
  exact not_exists.trans (forall_congr' fun _ => not_and)

theorem splitOn_linesOf {texts : List String} (h : ∀ text ∈ texts, '\n' ∉ text.toList) :
    (linesOf texts).toList.splitOn '\n' = texts.map (·.toList) ++ [[]] := by
  induction texts with
  | nil => rfl
  | cons text texts ih =>
      obtain ⟨htext, htexts⟩ := List.forall_mem_cons.mp h
      rw [toList_linesOf_cons, List.splitOn_append_cons_self_of_not_mem htext, ih htexts,
        List.map_cons, List.cons_append]

/-! ## Runs -/

theorem Conversation.Over.replies_lack {c : Conversation} {index : Index} {firstTopic : String}
    {timing : List SearchReport → Timing} (h : c.Over index {} firstTopic) {lineBreak : Char}
    (hbreak : lineBreak ∈ lineBreaks) (hindex : RuleStore.ChoosesWithout index lineBreak)
    (lines : List String) :
    ∀ reply ∈ replies (c.exchanges timing lines), lineBreak ∉ reply.toList := by
  intro reply hreply
  obtain ⟨turn, hturn, hresult⟩ := List.mem_filterMap.mp hreply
  replace hresult : turn.result = .ok reply := by
    cases hr : turn.result with
    | ok text => rw [hr] at hresult; exact congrArg Except.ok (Option.some.inj hresult)
    | error e => rw [hr] at hresult; cases hresult
  obtain ⟨earlier, later, hsplit⟩ := List.append_of_mem hturn
  obtain ⟨_, _, _, _, hhappens⟩ := h.exchanges hsplit
  have hresponses : ∀ b ∈ lineBreaks, b ∉ ({} : Options).defaultResponse.toList ∧
      b ∉ ({} : Options).errorResponse.toList :=
    List.forall_mem_cons.mpr ⟨by decide, List.forall_mem_singleton.mpr (by decide)⟩
  obtain ⟨hdefault, herror⟩ := hresponses lineBreak hbreak
  exact hhappens.lacks hbreak hdefault herror hindex (hindex.ruleFor? _ _) reply hresult

/-- What is written are the replies to the lines that are not blank and whose turn has no fault, in their
order and each ended by a line feed. There are as many lines as replies just if no reply has a line feed
in it, and then they are the replies. This is so if no choice of any rule writes one. -/
theorem run_answers_by_line (timing : List SearchReport → Timing) (color : Bool)
    (arguments : List String) (readFile : String → Except FileFault (List UInt8)) (entropy : UInt64)
    {input : List UInt8} {settings : Settings} {index : Index}
    (hsettings : Request.read color arguments = .ok (.talk settings))
    (hindex : loadFile settings.file (readFile settings.file) = .ok index)
    (htext : (textOf? input).isSome) :
    ∃ lines : List String, (splitLines input).map textOf? = lines.map some ∧
      let turns := (begin settings index entropy).1.exchanges timing lines
      let ending := run timing color arguments readFile entropy input
      turns.map (·.line) = lines.filter (!Text.isBlankLine ·) ∧
        ending.shown = (0, linesOf (replies turns)) ∧
        (ending.output.out.toList.count '\n' = (replies turns).length ↔
          ∀ reply ∈ replies turns, '\n' ∉ reply.toList) ∧
        ((∀ reply ∈ replies turns, '\n' ∉ reply.toList) →
          ending.output.out.toList.splitOn '\n' = (replies turns).map (·.toList) ++ [[]]) ∧
        ∀ lineBreak ∈ lineBreaks, RuleStore.ChoosesWithout index lineBreak →
          ∀ reply ∈ replies turns, lineBreak ∉ reply.toList := by
  obtain ⟨lines, hlines, hshown⟩ :=
    exists_run_exchanges timing color arguments readFile entropy hsettings hindex htext
  refine ⟨lines, hlines, ?_⟩
  intro turns ending
  rw [← linesOf_replies] at hshown
  have hout : ending.output.out = linesOf (replies turns) := congrArg (·.2) hshown
  rw [hout]
  exact ⟨Conversation.exchanges_lines timing _ lines, hshown, count_linesOf_eq_length_iff _,
    splitOn_linesOf, fun _ hbreak hchoices =>
      (begin_over settings index entropy).replies_lack hbreak hchoices lines⟩

theorem run_answers_by_line_choice :
    let source := "<aiml><category><pattern>*</pattern><template>" ++
      "You say: <random><li>yes</li><li>no</li></random></template></category></aiml>"
    let input := "hi\nho\n".toList.flatMap String.utf8EncodeChar
    let rule : Category := ⟨"default", "*", "", { name := "category", children :=
      [.element "pattern" [] [.text "*"],
        .element "template" [] [.text "You say: ", .element "random" []
          [.element "li" [] [.text "yes"], .element "li" [] [.text "no"]]]] }⟩
    let index := Index.empty.insert rule
    let readFile : String → Except FileFault (List UInt8) :=
      fun _ => .ok (source.toList.flatMap String.utf8EncodeChar)
    let timing : List SearchReport → Timing := fun _ => ⟨[], ""⟩
    (Request.read false ["rules.aiml"] = .ok (.talk ⟨"rules.aiml", none, none, false, false⟩) ∧
        loadFile "rules.aiml" (readFile "rules.aiml") = .ok index ∧ (textOf? input).isSome ∧
        RuleStore.ChoosesWithout index '\n') ∧
      ∃ texts : List String,
        (run timing false ["rules.aiml"] readFile 7 input).shown = (0, linesOf texts) ∧
          (run timing false ["rules.aiml"] readFile 7 input).output.out.toList.splitOn '\n' =
            texts.map (·.toList) ++ [[]] := by
  intro source input rule index readFile timing
  have hsettings : Request.read false ["rules.aiml"] =
      .ok (.talk ⟨"rules.aiml", none, none, false, false⟩) := rfl
  have hentries : entries "default" source = .ok ([rule].map .ok) := by decide +kernel
  have hindex : loadFile "rules.aiml" (readFile "rules.aiml") = .ok index :=
    loadFile_of_entries "rules.aiml" hentries
  have htext : (textOf? input).isSome := Option.isSome_of_mem (textOf?_eq_some_iff.mpr rfl)
  have hchoices : RuleStore.ChoosesWithout index '\n' := by
    have hrule : ∀ e ∈ (Task.rule (some rule.node)).elements, e.name = "random" →
        ∀ item ∈ e.elementsNamed "li", '\n' ∉ item.contentMarkup.toList := by decide
    intro topic pattern stored hstored
    replace hstored : index.category? topic pattern = some stored := hstored
    rw [Index.category?_insert, Index.category?_empty] at hstored
    split at hstored
    · cases hstored
      exact hrule
    · cases hstored
  obtain ⟨lines, _, _, hshown, _, hsplit, hlacks⟩ :=
    run_answers_by_line timing false ["rules.aiml"] readFile 7 hsettings hindex htext
  have hclean := hlacks '\n' (by decide) hchoices
  exact ⟨⟨hsettings, hindex, htext, hchoices⟩, _, hshown, hsplit hclean⟩

/-- A choice keeps the line feed in its text, and the reply to one line is written on two. -/
theorem run_breaks_reply :
    let source := "<aiml><category><pattern>*</pattern><template>" ++
      "<random><li>a\nb</li></random></template></category></aiml>"
    let input := "hi\n".toList.flatMap String.utf8EncodeChar
    let rule : Category := ⟨"default", "*", "", { name := "category", children :=
      [.element "pattern" [] [.text "*"],
        .element "template" [] [.element "random" [] [.element "li" [] [.text "a\nb"]]]] }⟩
    let index := Index.empty.insert rule
    let readFile : String → Except FileFault (List UInt8) :=
      fun _ => .ok (source.toList.flatMap String.utf8EncodeChar)
    let timing : List SearchReport → Timing := fun _ => ⟨[], ""⟩
    let arguments := ["--seed", "1", "rules.aiml"]
    (Request.read false arguments = .ok (.talk ⟨"rules.aiml", some 1, none, false, false⟩) ∧
        loadFile "rules.aiml" (readFile "rules.aiml") = .ok index ∧
        (splitLines input).map textOf? = [some "hi"] ∧ ¬Text.isBlankLine "hi") ∧
      (run timing false arguments readFile 7 input).shown = (0, "a\nb\n") := by
  intro source input rule index readFile timing arguments
  have hsettings : Request.read false arguments =
      .ok (.talk ⟨"rules.aiml", some 1, none, false, false⟩) := rfl
  have hentries : entries "default" source = .ok ([rule].map .ok) := by decide +kernel
  have hindex : loadFile "rules.aiml" (readFile "rules.aiml") = .ok index :=
    loadFile_of_entries "rules.aiml" hentries
  have htext : (textOf? input).isSome := Option.isSome_of_mem (textOf?_eq_some_iff.mpr rfl)
  have hinput : (splitLines input).map textOf? = [some "hi"] := by
    have hbytes : splitLines input = ["hi"].map (·.toList.flatMap String.utf8EncodeChar) := by
      decide +kernel
    rw [hbytes]
    simp only [List.map_cons, List.map_nil, textOf?_eq_some_iff.mpr rfl]
  obtain ⟨lines, hlines, hshown⟩ :=
    exists_run_exchanges timing false arguments readFile 7 hsettings hindex htext
  obtain rfl : lines = ["hi"] :=
    (List.map_inj_right fun _ _ => Option.some.inj).mp (hlines.symm.trans hinput)
  have hover := begin_over ⟨"rules.aiml", some 1, none, false, false⟩ index 7
  generalize (begin ⟨"rules.aiml", some 1, none, false, false⟩ index 7).1 = c at hover hshown
  have hblank : ¬Text.isBlankLine "hi" := by decide
  have hturns : c.exchanges timing ["hi"] = [] ++ (c.report timing "hi").1.exchange "hi" :: [] := by
    rw [Conversation.exchanges, if_neg hblank]
    rfl
  obtain ⟨s, s', _, _, hhappens⟩ := hover.exchanges hturns
  rw [hturns] at hshown
  generalize (c.report timing "hi").1.exchange "hi" = turn at hhappens hshown
  have hresult : turn.result = .ok "a\nb" := by
    let item : Element := { name := "li", children := [.text "a\nb"] }
    have hchosen : (renderChoice (m := Rendering) [item] s.draws).result = .ok "a\nb" := by
      obtain ⟨⟨⟩, _⟩ | ⟨chosen, hmem, hresult⟩ := renderChoice_result [item] s.draws
      rw [hresult, List.mem_singleton.mp hmem]
      rfl
    have hrandom : Course index {} 0 (.node (.element "random" [] [item.toNode])) s (.ok "a\nb")
        { s with draws := (renderChoice (m := Rendering) [item] s.draws).draws } [] :=
      hchosen ▸ .random rfl
    have hrule : Course index {} 0 (.rule (some rule.node)) s (Except.map _ _) _ _ :=
      .rule rfl (.cons hrandom .nil)
    rw [Exchange.Happens, RuleStore.ruleFor?_onlyRule rfl] at hhappens
    have houtcome := (hhappens.sound (Nat.zero_le _)).1.symm.trans (hrule.sound (Nat.zero_le _)).1
    exact (Outcome.mk.inj houtcome).1
  refine ⟨⟨hsettings, hindex, hinput, hblank⟩, ?_⟩
  rw [hshown, List.nil_append, List.map_singleton, Exchange.output, hresult]
  rfl

end Console

end Dialogue
