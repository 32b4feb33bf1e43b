import Mathlib.Control.Monad.Basic
import Dialogue.Proofs.Console.Lines
import Dialogue.Proofs.Console.Reporting
import Dialogue.Proofs.Rules.Loading
import Dialogue.Proofs.Session.Answering
import Dialogue.Proofs.Session.Cutoff

/-!
# What is said in a conversation

A transcript tells of each line that is not blank where it was looked up, what came of it, and what was
assigned on the way. Every turn begins with the predicates that the turn before left behind, also after a
fault. So the topic of a line is the last value assigned to the predicate `topic` in any turn before it.
-/

namespace Dialogue

open Markup (Element)

section
variable {σ : Type} [RuleStore σ]

/-- The rule that answers an input: the one that is found for it, or else the one for any input. -/
def RuleStore.ruleFor? (store : σ) (options : Options) (input topic : String) : Option Element :=
  let hit := (firstHit? store input topic options.defaultTopic).getD ⟨options.defaultTopic, catchAll⟩
  (category? store hit.topic hit.pattern <|>
    category? store options.defaultTopic catchAll).map (·.node)

/-- A rule for any input, if it is the only one, answers every input. -/
theorem RuleStore.ruleFor?_onlyRule {rule : Category} {options : Options}
    (hkey : rule.key = (options.defaultTopic, catchAll)) (input topic : String) :
    ruleFor? (Index.empty.insert rule) options input topic = some rule.node := by
  have hrule : category? (Index.empty.insert rule) options.defaultTopic catchAll = some rule :=
    (Index.category?_insert ..).trans (if_pos hkey.symm)
  have hhit : (firstHit? (Index.empty.insert rule) input topic options.defaultTopic).getD
      ⟨options.defaultTopic, catchAll⟩ = ⟨options.defaultTopic, catchAll⟩ := by
    cases hfirst : firstHit? (Index.empty.insert rule) input topic options.defaultTopic with
    | none => rfl
    | some hit =>
        obtain ⟨c, hc, _⟩ := (Index.mem_patterns_iff ..).mp (mem_patterns_of_firstHit? hfirst).2
        rw [Index.category?_insert, Index.category?_empty, hkey] at hc
        split at hc
        · next h =>
            obtain ⟨htopic, hpattern⟩ := Prod.mk.inj h
            rw [Option.getD_some, ← htopic, ← hpattern]
        · cases hc
  rw [ruleFor?, hhit, hrule]
  rfl

namespace Interpreter

theorem task_respond {bot : Interpreter σ} (h : bot.cache.Sound) (input topic that : String) :
    bot.task (.respond input topic that) =
      .rule (RuleStore.ruleFor? bot.index bot.options input topic) := by
  have hfind := (h.findInStore bot.index input topic bot.options.defaultTopic).1
  simp only [task, ruleAt, hitFor, hfind, RuleStore.ruleFor?]

theorem respond_outcome (bot : Interpreter σ) (input topic that : String) (predicates : Predicates) :
    (bot.respond input topic that predicates).result.map (·.text) =
      (bot.outcome (.respond input topic that)).result := by
  show Except.map _ (Except.map _ (bot.outcome (.respond input topic that)).result) = _
  cases (bot.outcome (.respond input topic that)).result with
  | error e => rfl
  | ok text => rfl

end Interpreter

end

namespace Console

/-- A line that is not blank, and what comes of it. -/
structure Exchange where
  line : String
  /-- Where a rule for the line is looked for. -/
  topic : String
  /-- The reply, or the fault. -/
  result : Except Error String
  /-- What the `<set>` elements that are completed assign, in the order in which they end. -/
  assignments : List (String × String)

namespace Exchange

/-- The rule for the line takes its course, in the topic of the exchange. -/
def Happens (index : Index) (options : Options) (e : Exchange) (s s' : Scene) : Prop :=
  Course index options 0 (.rule (RuleStore.ruleFor? index options e.line e.topic)) s e.result s'
    e.assignments

/-- What is written to the output: the reply, on a line of its own. -/
def output (e : Exchange) : String :=
  match e.result with
  | .ok text => text ++ "\n"
  | .error _ => ""

end Exchange

/-- Exchanges one after the other, each on the scene that the one before it left behind. -/
inductive Transcript (index : Index) (options : Options) : Scene → List Exchange → Scene → Prop
  | nil {s : Scene} : Transcript index options s [] s
  | cons {e : Exchange} {es : List Exchange} {s s' s'' : Scene} :
    e.Happens index options s s' → Transcript index options s' es s'' →
      Transcript index options s (e :: es) s''

/-- The value that exchanges assign to a name last. -/
def lastAssigned (name : String) (es : List Exchange) : Option String :=
  (es.flatMap (·.assignments)).reverse.lookup name

namespace Conversation

/-- Where a conversation is in its stream of words, and what it remembers. -/
def scene (c : Conversation) : Scene :=
  ⟨c.bot.draws, c.predicates⟩

/-- What comes of a line. -/
def exchange (c : Conversation) (line : String) : Exchange where
  line := line
  topic := c.topic
  result := (c.bot.respond line c.topic c.that c.predicates).result.map (·.text)
  assignments := (c.bot.outcome (.respond line c.topic c.that)).assignments

/-- What comes of lines, one turn after the other. -/
def exchanges (timing : List SearchReport → Timing) (c : Conversation) : List String → List Exchange
  | [] => []
  | line :: rest =>
    if Text.isBlankLine line then c.exchanges timing rest
    else (c.report timing line).1.exchange line :: (c.turn timing line).1.exchanges timing rest

/-- A conversation over some rules, which keeps no test but those that its patterns have. -/
structure Over (c : Conversation) (index : Index) (options : Options) (firstTopic : String) : Prop where
  index : c.bot.index = index
  options : c.bot.options = options
  firstTopic : c.firstTopic = firstTopic
  sound : c.bot.cache.Sound

variable {c : Conversation} {index : Index} {options : Options} {firstTopic : String}
  {timing : List SearchReport → Timing}

/-! ## One turn -/

theorem Over.report (h : c.Over index options firstTopic) (timing : List SearchReport → Timing)
    (line : String) :
    (c.report timing line).1.Over index options firstTopic ∧ (c.report timing line).1.scene = c.scene := by
  rw [Conversation.report]
  split
  · have hsound := c.bot.perform_sound h.sound c.predicates (.explain line c.topic c.that)
    exact ⟨⟨h.index, h.options, h.firstTopic, hsound⟩, rfl⟩
  · exact ⟨h, rfl⟩

theorem Over.reply (h : c.Over index options firstTopic) (line : String) :
    (c.reply line).1.Over index options firstTopic := by
  have hsound := c.bot.perform_sound h.sound c.predicates (.respond line c.topic c.that)
  have hafter (that : String) :
      Over { c with
        bot := (c.bot.respond line c.topic c.that c.predicates).interpreter
        predicates := (c.bot.respond line c.topic c.that c.predicates).predicates
        that } index options firstTopic :=
    ⟨h.index, h.options, h.firstTopic, hsound⟩
  rw [Conversation.reply]
  dsimp only
  split
  · exact hafter _
  · exact hafter c.that

theorem scene_reply (c : Conversation) (line : String) :
    (c.reply line).1.scene =
      ⟨(c.bot.respond line c.topic c.that c.predicates).interpreter.draws,
        (c.bot.respond line c.topic c.that c.predicates).predicates⟩ := by
  rw [Conversation.reply]
  dsimp only
  split
  · rfl
  · rfl

theorem out_reply (c : Conversation) (line : String) :
    (c.reply line).2.out = (c.exchange line).output := by
  rw [Conversation.reply, Exchange.output, exchange]
  dsimp only
  cases (c.bot.respond line c.topic c.that c.predicates).result with
  | ok reply => rfl
  | error e => rfl

/-- Where the line is looked up and what is assigned then is told by its exchange. -/
theorem Over.happens (h : c.Over index options firstTopic) (line : String) :
    (c.exchange line).topic = (c.scene.predicates.get? "topic").getD firstTopic ∧
      (c.exchange line).Happens index options c.scene (c.reply line).1.scene := by
  have hcourse := c.bot.course_of_perform c.predicates
    (show (Call.respond line c.topic c.that).onlyMatches = false from rfl)
  rw [Interpreter.task_respond h.sound, ← c.bot.respond_outcome _ _ _ c.predicates, h.index,
    h.options] at hcourse
  refine ⟨by rw [← h.firstTopic]; rfl, ?_⟩
  rw [scene_reply]
  exact hcourse

theorem turn_of_not_blank {line : String} (hline : ¬Text.isBlankLine line) :
    c.turn timing line =
      (((c.report timing line).1.reply line).1,
        (c.report timing line).2 ++ ((c.report timing line).1.reply line).2) :=
  if_neg hline

/-! ## All turns -/

/-- Every exchange takes place on the scene left behind by those before it, and its line is looked up in
the topic that this scene tells. -/
theorem Over.exchanges (h : c.Over index options firstTopic) {lines : List String}
    {earlier later : List Exchange} {e : Exchange}
    (hsplit : c.exchanges timing lines = earlier ++ e :: later) :
    ∃ s s', Transcript index options c.scene earlier s ∧
      e.topic = (s.predicates.get? "topic").getD firstTopic ∧ e.Happens index options s s' := by
  induction lines generalizing c earlier with
  | nil => cases (List.append_eq_nil_iff.mp hsplit.symm).2
  | cons line rest ih =>
      rw [Conversation.exchanges] at hsplit
      split at hsplit
      · exact ih h hsplit
      · next hline =>
          obtain ⟨hreport, hscene⟩ := h.report timing line
          obtain ⟨htopic, hhappens⟩ := hreport.happens line
          rw [hscene] at htopic hhappens
          rw [turn_of_not_blank hline] at hsplit
          cases earlier with
          | nil =>
              obtain ⟨rfl, _⟩ := List.cons.inj hsplit
              exact ⟨_, _, .nil, htopic, hhappens⟩
          | cons first earlier =>
              obtain ⟨rfl, hrest⟩ := List.cons.inj hsplit
              obtain ⟨s, s', htranscript, hlast⟩ := ih (hreport.reply line) hrest
              exact ⟨s, s', .cons hhappens htranscript, hlast⟩

theorem exchanges_lines (timing : List SearchReport → Timing) (c : Conversation) (lines : List String) :
    (c.exchanges timing lines).map (·.line) = lines.filter (!Text.isBlankLine ·) := by
  induction lines generalizing c with
  | nil => rfl
  | cons line rest ih =>
      rw [Conversation.exchanges]
      split
      · next hline => rw [ih, List.filter_cons_of_neg (by simp [hline])]
      · next hline =>
          rw [List.map_cons, ih, List.filter_cons_of_pos (by simp [hline])]
          rfl

/-- Lines of text are answered to the end, and all that is written are the replies. -/
theorem converse_shown (timing : List SearchReport → Timing) (c : Conversation)
    {byteLines : List (List UInt8)} {lines : List String}
    (hlines : byteLines.map textOf? = lines.map some) :
    (c.converse timing byteLines).shown =
      (0, String.join ((c.exchanges timing lines).map (·.output))) := by
  induction byteLines generalizing c lines with
  | nil =>
      obtain rfl : lines = [] := List.map_eq_nil_iff.mp hlines.symm
      rfl
  | cons bytes rest ih =>
      cases lines with
      | nil => cases hlines
      | cons line lines =>
          obtain ⟨htext, hrest⟩ := List.cons.inj hlines
          rw [Conversation.converse, htext, exchanges]
          by_cases hline : Text.isBlankLine line
          · have hturn : c.turn timing line = (c, {}) := if_pos hline
            simp only [hturn, if_pos hline, ← ih c hrest]
            exact Prod.ext rfl String.empty_append
          · have hout : (c.turn timing line).2.out =
                ((c.report timing line).1.exchange line).output := by
              rw [turn_of_not_blank hline]
              show (c.report timing line).2.out ++ ((c.report timing line).1.reply line).2.out = _
              rw [out_report, out_reply, String.empty_append]
            rw [if_neg hline, List.map_cons, String.join_cons, ← hout]
            have hrest := ih (c.turn timing line).1 hrest
            exact Prod.ext (congrArg (·.1) hrest)
              (congrArg (fun shown : Nat × String => (c.turn timing line).2.out ++ shown.2) hrest)

end Conversation

/-! ## The predicates of a transcript -/

theorem Transcript.get? {index : Index} {options : Options} {s s' : Scene} {es : List Exchange}
    (h : Transcript index options s es s') (name : String) :
    s'.predicates.get? name = (lastAssigned name es).or (s.predicates.get? name) := by
  induction h with
  | nil => rfl
  | cons hhappens _ ih =>
      rw [ih, (hhappens.sound (Nat.zero_le _)).2, Predicates.get?_setAll, lastAssigned, lastAssigned,
        List.flatMap_cons, List.reverse_append, List.lookup_append, Option.or_assoc]

theorem Transcript.concat {index : Index} {options : Options} {s s' s'' : Scene} {es : List Exchange}
    {e : Exchange} (h : Transcript index options s es s') (he : e.Happens index options s' s'') :
    Transcript index options s (es ++ [e]) s'' := by
  induction h with
  | nil => exact .cons he .nil
  | cons hfirst _ ih => exact .cons hfirst (ih he)

/-! ## Whole runs -/

theorem loadFile_of_entries (file : String) {source : String} {rules : List Category}
    (hentries : entries ({} : Options).defaultTopic source = .ok (rules.map .ok)) :
    loadFile file (.ok (source.toList.flatMap String.utf8EncodeChar)) =
      .ok (rules.foldl Index.insert .empty) := by
  have htext := textOf?_eq_some_iff.mpr (Eq.refl (source.toList.flatMap String.utf8EncodeChar))
  simp only [loadFile, sourceText, htext, Index.ofSource, Index.empty.load_of_entries hentries]
  rfl

theorem begin_over (settings : Settings) (index : Index) (entropy : UInt64) :
    (begin settings index entropy).1.Over index {} (settings.topic?.getD "default") :=
  ⟨rfl, rfl, rfl, .empty⟩

/-- A run on rules that can be loaded answers all lines of a text. -/
theorem exists_run_exchanges (timing : List SearchReport → Timing) (color : Bool) (arguments : List String)
    (readFile : String → Except FileFault (List UInt8)) (entropy : UInt64) {input : List UInt8}
    {settings : Settings} {index : Index}
    (hsettings : Request.read color arguments = .ok (.talk settings))
    (hindex : loadFile settings.file (readFile settings.file) = .ok index)
    (htext : (textOf? input).isSome) :
    ∃ lines : List String, (splitLines input).map textOf? = lines.map some ∧
      (run timing color arguments readFile entropy input).shown =
        (0, String.join (((begin settings index entropy).1.exchanges timing lines).map (·.output))) := by
  obtain ⟨lines, hlines⟩ := exists_lines htext
  refine ⟨lines, hlines, ?_⟩
  rw [run, start, hsettings]
  simp only [hindex]
  rw [← Conversation.converse_shown timing _ hlines]
  refine Prod.ext rfl ?_
  show (begin settings index entropy).2.out ++ _ = _
  rw [begin_out, String.empty_append]
  rfl

/-- Every line that is not blank is one turn, and every turn ends in a reply or in a fault, which is no
output and ends nothing. Where a line is looked up is the last value that any turn before it assigned
to `topic`, or else the topic that the arguments name; and no turn, not even one with a fault, loses
what was assigned before or in it. -/
theorem run_follows_topics (timing : List SearchReport → Timing) (color : Bool) (arguments : List String)
    (readFile : String → Except FileFault (List UInt8)) (entropy : UInt64) {input : List UInt8}
    {settings : Settings} {index : Index}
    (hsettings : Request.read color arguments = .ok (.talk settings))
    (hindex : loadFile settings.file (readFile settings.file) = .ok index)
    (htext : (textOf? input).isSome) :
    ∃ (lines : List String) (turns : List Exchange),
      (splitLines input).map textOf? = lines.map some ∧
        turns.map (·.line) = lines.filter (!Text.isBlankLine ·) ∧
        (∀ earlier turn later, turns = earlier ++ turn :: later →
          turn.topic = (lastAssigned "topic" earlier).getD (settings.topic?.getD "default") ∧
            ∃ s s', Transcript index {} (begin settings index entropy).1.scene earlier s ∧
              turn.Happens index {} s s' ∧
              ∀ name, s'.predicates.get? name = lastAssigned name (earlier ++ [turn])) ∧
        (run timing color arguments readFile entropy input).shown =
          (0, String.join (turns.map (·.output))) := by
  obtain ⟨lines, hlines, hshown⟩ :=
    exists_run_exchanges timing color arguments readFile entropy hsettings hindex htext
  refine ⟨lines, (begin settings index entropy).1.exchanges timing lines, hlines,
    Conversation.exchanges_lines timing _ lines, ?_, hshown⟩
  intro earlier turn later hsplit
  obtain ⟨s, s', htranscript, htopic, hhappens⟩ :=
    (begin_over settings index entropy).exchanges hsplit
  -- No predicate is set before the first turn.
  have hempty (name : String) : (begin settings index entropy).1.scene.predicates.get? name = none := rfl
  refine ⟨?_, s, s', htranscript, hhappens, fun name => ?_⟩
  · rw [htopic, htranscript.get?, hempty, Option.or_none]
  · rw [(htranscript.concat hhappens).get?, hempty, Option.or_none]

theorem run_follows_topics_fault :
    let source := "<aiml><category><pattern>*</pattern><template>" ++
      "<set name=\"topic\">FOOD</set><random/></template></category></aiml>"
    let input := "hi\n\nho".toList.flatMap String.utf8EncodeChar
    let rule : Category := ⟨"default", "*", "", { name := "category", children :=
      [.element "pattern" [] [.text "*"],
        .element "template" [] [.element "set" [("name", "topic")] [.text "FOOD"],
          .element "random" [] []]] }⟩
    let index := Index.empty.insert rule
    let readFile : String → Except FileFault (List UInt8) :=
      fun _ => .ok (source.toList.flatMap String.utf8EncodeChar)
    let timing : List SearchReport → Timing := fun _ => ⟨[], ""⟩
    (Request.read false ["rules.aiml"] = .ok (.talk ⟨"rules.aiml", none, none, false, false⟩) ∧
        loadFile "rules.aiml" (readFile "rules.aiml") = .ok index ∧ (textOf? input).isSome) ∧
      ∃ first second : Exchange,
        (first.line, first.topic, first.result) = ("hi", "default", .error .emptyChoice) ∧
          (second.line, second.topic, second.result) = ("ho", "FOOD", .error .emptyChoice) ∧
          (run timing false ["rules.aiml"] readFile 7 input).shown = (0, "") := by
  intro source input rule index readFile timing
  have hsettings : Request.read false ["rules.aiml"] =
      .ok (.talk ⟨"rules.aiml", none, none, false, false⟩) := rfl
  have hentries : entries "default" source = .ok ([rule].map .ok) := by decide +kernel
  have hindex : loadFile "rules.aiml" (readFile "rules.aiml") = .ok index :=
    loadFile_of_entries "rules.aiml" hentries
  have htext : (textOf? input).isSome := Option.isSome_of_mem (textOf?_eq_some_iff.mpr rfl)
  obtain ⟨lines, turns, hlines, hturns, htopics, hshown⟩ :=
    run_follows_topics timing false ["rules.aiml"] readFile 7 hsettings hindex htext
  have hsplit : (splitLines input).map textOf? = [some "hi", some "", some "ho"] := by
    have hbytes : splitLines input = ["hi", "", "ho"].map (·.toList.flatMap String.utf8EncodeChar) := by
      decide +kernel
    rw [hbytes]
    simp only [List.map_cons, List.map_nil, textOf?_eq_some_iff.mpr rfl]
  obtain rfl : lines = ["hi", "", "ho"] :=
    (List.map_inj_right fun _ _ => Option.some.inj).mp (hlines.symm.trans hsplit)
  replace hturns : turns.map (·.line) = ["hi", "ho"] := hturns.trans (by decide)
  obtain ⟨first, rest, rfl, hfirst, hrest⟩ := List.map_eq_cons_iff.mp hturns
  obtain ⟨second, rest, rfl, hsecond, hrest⟩ := List.map_eq_cons_iff.mp hrest
  obtain rfl := List.map_eq_nil_iff.mp hrest
  -- The rule assigns the topic and has nothing to choose from then.
  have hrule {e : Exchange} {s s' : Scene} (h : e.Happens index {} s s') :
      e.result = .error .emptyChoice ∧ e.assignments = [("topic", "FOOD")] := by
    have hrender := (h.sound (Nat.zero_le _)).1
    rw [RuleStore.ruleFor?_onlyRule rfl] at hrender
    obtain ⟨hresult, _, hassigned⟩ := Outcome.mk.inj hrender
    exact ⟨hresult.symm, hassigned.symm⟩
  obtain ⟨htopic, s, s', _, hhappens, _⟩ := htopics [] first [second] rfl
  obtain ⟨htopic', t, t', _, hhappens', _⟩ := htopics [first] second [] rfl
  obtain ⟨hresult, hassigned⟩ := hrule hhappens
  obtain ⟨hresult', _⟩ := hrule hhappens'
  rw [lastAssigned, List.flatMap_singleton, hassigned] at htopic'
  refine ⟨⟨hsettings, hindex, htext⟩, first, second, ?_, ?_, ?_⟩
  · rw [hfirst, htopic, hresult]
    rfl
  · rw [hsecond, htopic', hresult']
    rfl
  · rw [hshown, List.map_cons, List.map_singleton, Exchange.output, Exchange.output, hresult, hresult']
    rfl

end Console

end Dialogue
