import Dialogue.Console.Conversation
import Dialogue.Proofs.Session.Cache
import Dialogue.Proofs.Text.Trimming

/-!
# Conversations with and without reports

Reports go to the error output, and what they search leaves nothing behind but tests of patterns. So the
switches for reports and colours change neither the replies nor the exit code, and blank lines do not either.
-/

namespace Dialogue.Console

/-! ## Switches -/

/-- The arguments that change what is reported and in which colors, and nothing else. -/
def switches : List String := ["--trace", "--color", "--no-color"]

/-- The arguments without switches; what stands after an option that takes a value is its value. -/
def withoutSwitches : List String → List String
  | [] => []
  | argument :: rest =>
    match ValueOption.ofArgument? argument, rest with
    | some _, value :: rest => argument :: value :: withoutSwitches rest
    | _, rest => if argument ∈ switches then withoutSwitches rest else argument :: withoutSwitches rest

/-- The settings without what switches decide. -/
def Settings.plain (s : Settings) : Settings :=
  { s with trace := false, color := false }

/-- What is requested, without what switches decide. -/
def Request.plain : Request → Request
  | .help => .help
  | .version => .version
  | .talk settings => .talk settings.plain

/-- The settings read so far, without what switches decide. -/
def Draft.plain (d : Draft) : Draft :=
  { d with trace := false, color := false }

namespace Draft

theorem plain_set {d d' : Draft} (h : d.plain = d'.plain) (o : ValueOption) (value : String) :
    (d.set o value).map plain = (d'.set o value).map plain := by
  obtain ⟨file?, seed?, topic?, _, _⟩ := d
  obtain ⟨_, _, _, _, _⟩ := d'
  cases h
  cases o with
  | aiml => rfl
  | topic => rfl
  | seed =>
      simp only [set]
      cases parseSeed? value with
      | none => rfl
      | some n => rfl

theorem plain_single {d d' : Draft} (h : d.plain = d'.plain) (argument : String) :
    (d.single argument).map plain = (d'.single argument).map plain := by
  have hfile : d.file? = d'.file? := by
    have hplain := congrArg Draft.file? h
    exact hplain
  unfold single
  split
  · exact congrArg Except.ok h
  split
  · exact congrArg Except.ok h
  split
  · exact congrArg Except.ok h
  cases ValueOption.ofJoined? argument with
  | some joined => exact plain_set h joined.1 joined.2
  | none =>
      simp only [hfile]
      split
      · rfl
      split
      · rfl
      obtain ⟨_, _, _, _, _⟩ := d
      obtain ⟨_, _, _, _, _⟩ := d'
      cases h
      rfl

theorem read_switch (d : Draft) {argument : String} (h : argument ∈ switches) (rest : List String) :
    ∃ d' : Draft, d'.plain = d.plain ∧ d.read (argument :: rest) = d'.read rest := by
  simp only [switches, List.mem_cons, List.not_mem_nil, or_false] at h
  rcases h with rfl | rfl | rfl
  · exact ⟨{ d with trace := true }, rfl, read.eq_4 d _ rest (by decide)⟩
  · exact ⟨{ d with color := true }, rfl, read.eq_4 d _ rest (by decide)⟩
  · exact ⟨{ d with color := false }, rfl, read.eq_4 d _ rest (by decide)⟩

theorem plain_bind {r r' : Except ArgumentFault Draft} {f f' : Draft → Except ArgumentFault Request}
    (hr : r.map plain = r'.map plain)
    (hf : ∀ d d', d.plain = d'.plain → (f d).map Request.plain = (f' d').map Request.plain) :
    (r >>= f).map Request.plain = (r' >>= f').map Request.plain := by
  cases r with
  | error fault =>
      cases r' with
      | error fault' =>
          cases hr
          rfl
      | ok d' => cases hr
  | ok d =>
      cases r' with
      | error fault' => cases hr
      | ok d' => exact hf d d' (Except.ok.inj hr)

/-- The switches of a command line decide nothing but what they are for. -/
theorem plain_read {d d' : Draft} (h : d.plain = d'.plain) (arguments : List String) :
    (d.read arguments).map Request.plain = (d'.read (withoutSwitches arguments)).map Request.plain := by
  induction arguments using withoutSwitches.induct generalizing d d' with
  | case1 =>
      obtain ⟨file?, seed?, topic?, _, _⟩ := d
      obtain ⟨_, _, _, _, _⟩ := d'
      cases h
      cases file? with
      | none => rfl
      | some file => rfl
  | case2 argument o value rest ho ih =>
      rw [withoutSwitches.eq_2 _ _ _ _ ho, read.eq_3 _ _ _ _ _ ho, read.eq_3 _ _ _ _ _ ho]
      split
      · rfl
      split
      · rfl
      exact plain_bind (plain_set h o value) fun _ _ hd => ih hd
  | case3 argument rest hs hvalue ih =>
      obtain ⟨next, hnext, hread⟩ := read_switch d hs rest
      rw [withoutSwitches.eq_3 _ _ hvalue, if_pos hs, hread]
      exact ih (hnext.trans h)
  | case4 argument rest hs hvalue ih =>
      rw [withoutSwitches.eq_3 _ _ hvalue, if_neg hs]
      cases ho : ValueOption.ofArgument? argument with
      | some o =>
          cases rest with
          | cons value rest => exact (hvalue o value rest ho rfl).elim
          | nil => rw [withoutSwitches, read.eq_2 _ _ _ ho, read.eq_2 _ _ _ ho]
      | none =>
          rw [read.eq_4 _ _ _ ho, read.eq_4 _ _ _ ho]
          split
          · rfl
          split
          · rfl
          exact plain_bind (plain_single h argument) fun _ _ hd => ih hd

end Draft

/-- Command lines that differ in switches alone are read alike, up to what the switches are for. -/
theorem plain_read_of_withoutSwitches {arguments arguments' : List String}
    (h : withoutSwitches arguments = withoutSwitches arguments') (color color' : Bool) :
    (Request.read color arguments).map Request.plain =
      (Request.read color' arguments').map Request.plain := by
  have hcolor (color : Bool) : Draft.plain { color } = Draft.plain {} := rfl
  have hread := Draft.plain_read (hcolor color) arguments
  have hread' := Draft.plain_read (hcolor color') arguments'
  rw [← h] at hread'
  exact hread.trans hread'.symm

/-! ## What is said and answered -/

/-- What lines say: those that are not blank, without the white space around them. A line that is no text
stands as `none`. -/
def said (lines : List (List UInt8)) : List (Option String) :=
  (lines.map fun line => (textOf? line).map Text.trim).filter (· ≠ some "")

namespace Conversation

/-- The exit code and the replies to what is said, without reports. -/
def answers (c : Conversation) : List (Option String) → Nat × String
  | [] => (0, "")
  | none :: _ => (1, "")
  | some line :: rest =>
    let (c, output) := c.reply line
    let (code, out) := c.answers rest
    (code, output.out ++ out)

theorem answers_some (c : Conversation) (line : String) (rest : List (Option String)) :
    c.answers (some line :: rest) =
      (((c.reply line).1.answers rest).1,
        (c.reply line).2.out ++ ((c.reply line).1.answers rest).2) :=
  rfl

/-- The same up to the tests that are kept, and to what switches decide. -/
structure Alike (c d : Conversation) : Prop where
  bot : c.bot.Alike d.bot
  firstTopic : c.firstTopic = d.firstTopic
  predicates : c.predicates = d.predicates
  that : c.that = d.that

variable {c d : Conversation}

theorem Alike.topic (h : c.Alike d) : c.topic = d.topic := by
  rw [Conversation.topic, h.predicates, h.firstTopic, Conversation.topic]

theorem out_report (timing : List SearchReport → Timing) (c : Conversation) (line : String) :
    (c.report timing line).2.out = "" := by
  rw [Conversation.report]
  split
  · rfl
  · rfl

/-- A report changes only the tests that are kept. -/
theorem Alike.report (h : c.Alike d) (timing : List SearchReport → Timing) (line : String) :
    (c.report timing line).1.Alike d := by
  rw [Conversation.report]
  split
  · have honly : (Call.explain line c.topic c.that).onlyMatches := rfl
    have hbot := (c.bot.perform_onlyMatches honly h.bot.left c.predicates).2
    exact ⟨hbot.trans h.bot, h.firstTopic, h.predicates, h.that⟩
  · exact h

theorem respond_of_normalize {line line' : String} (hline : normalize line = normalize line')
    (bot : Interpreter) (topic that : String) (predicates : Predicates) :
    bot.respond line topic that predicates = bot.respond line' topic that predicates := by
  simp only [Interpreter.respond, RuleStore.find?, hline]

theorem Alike.reply (h : c.Alike d) {line line' : String} (hline : normalize line = normalize line') :
    (c.reply line).1.Alike (d.reply line').1 ∧ (c.reply line).2 = (d.reply line').2 := by
  have hturn := h.bot.respond line' d.topic d.that d.predicates
  have hrespond : c.bot.respond line c.topic c.that c.predicates =
      c.bot.respond line' d.topic d.that d.predicates := by
    rw [respond_of_normalize hline, h.topic, h.that, h.predicates]
  rw [Conversation.reply, Conversation.reply, hrespond]
  simp only [hturn.result]
  split
  · exact ⟨⟨hturn.interpreter, h.firstTopic, hturn.predicates, rfl⟩, rfl⟩
  · exact ⟨⟨hturn.interpreter, h.firstTopic, hturn.predicates, h.that⟩, rfl⟩

/-- A line that is not blank is a report, which is no output, and a reply to what it says. -/
theorem Alike.turn (h : c.Alike d) (timing : List SearchReport → Timing) {line : String}
    (hline : Text.trim line ≠ "") :
    (c.turn timing line).1.Alike (d.reply (Text.trim line)).1 ∧
      (c.turn timing line).2.out = (d.reply (Text.trim line)).2.out := by
  obtain ⟨hreply, houtput⟩ := (h.report timing line).reply (normalize_trim line).symm
  rw [Conversation.turn, if_neg (mt (Text.isBlankLine_iff line).mp hline)]
  refine ⟨hreply, ?_⟩
  show (c.report timing line).2.out ++ ((c.report timing line).1.reply line).2.out = _
  rw [out_report, houtput, String.empty_append]

end Conversation

/-- What is seen of a run apart from the error output. -/
def Ending.shown (e : Ending) : Nat × String :=
  (e.code, e.output.out)

theorem Conversation.Alike.converse {c d : Conversation} (h : c.Alike d)
    (timing : List SearchReport → Timing) (lines : List (List UInt8)) :
    (c.converse timing lines).shown = d.answers (said lines) := by
  induction lines generalizing c d with
  | nil => rfl
  | cons line rest ih =>
      cases htext : textOf? line with
      | none =>
          have hsaid : said (line :: rest) = none :: said rest := by
            simp [said, htext]
          rw [Conversation.converse, htext, hsaid]
          rfl
      | some text =>
          rw [Conversation.converse, htext]
          by_cases hblank : Text.trim text = ""
          · have hsaid : said (line :: rest) = said rest := by
              simp [said, htext, hblank]
            have hturn : c.turn timing text = (c, {}) :=
              if_pos ((Text.isBlankLine_iff text).mpr hblank)
            simp only [hturn, hsaid, ← ih h]
            refine Prod.ext rfl ?_
            exact String.empty_append
          · have hsaid : said (line :: rest) = some (Text.trim text) :: said rest := by
              simp [said, htext, hblank]
            obtain ⟨hc, hout⟩ := h.turn timing hblank
            rw [hsaid, Conversation.answers_some, ← ih hc, ← hout]
            rfl

/-! ## Whole runs -/

theorem begin_out (settings : Settings) (index : Index) (entropy : UInt64) :
    (begin settings index entropy).2.out = "" := by
  simp only [begin]
  split
  · rfl
  · rfl

theorem begin_alike {settings settings' : Settings} (h : settings.plain = settings'.plain) (index : Index)
    {entropy entropy' : UInt64} (hseed : entropy = entropy' ∨ settings.seed?.isSome) :
    (begin settings index entropy).1.Alike (begin settings' index entropy').1 := by
  have hseed? : settings.seed? = settings'.seed? := by
    have hplain := congrArg Settings.seed? h
    exact hplain
  have htopic? : settings.topic? = settings'.topic? := by
    have hplain := congrArg Settings.topic? h
    exact hplain
  have hdraws : (settings.seed?.map Nat.toUInt64).getD entropy =
      (settings'.seed?.map Nat.toUInt64).getD entropy' := by
    rw [← hseed?]
    obtain rfl | hsome := hseed
    · rfl
    · obtain ⟨seed, hsome⟩ := Option.isSome_iff_exists.mp hsome
      simp only [hsome, Option.map_some, Option.getD_some]
  simp only [begin, hdraws, htopic?]
  exact ⟨.refl .empty, rfl, rfl, rfl⟩

theorem shown_of_alike {b : Conversation × Output} {d : Conversation} (h : b.1.Alike d)
    (hout : b.2.out = "") (timing : List SearchReport → Timing) (lines : List (List UInt8)) :
    let ending := b.1.converse timing lines
    Ending.shown { ending with output := b.2 ++ ending.output } = d.answers (said lines) := by
  intro ending
  rw [← h.converse timing lines]
  show (ending.code, b.2.out ++ ending.output.out) = (ending.code, ending.output.out)
  rw [hout, String.empty_append]

/-- Conversations on the same file, whose settings differ only in what switches decide. -/
theorem run_shown_of_talk (readFile : String → Except FileFault (List UInt8))
    (timing timing' : List SearchReport → Timing) {color color' : Bool}
    {arguments arguments' : List String} {entropy entropy' : UInt64} {input input' : List UInt8}
    {settings settings' : Settings} (hr : Request.read color arguments = .ok (.talk settings))
    (hr' : Request.read color' arguments' = .ok (.talk settings'))
    (hsettings : settings.plain = settings'.plain)
    (hseed : entropy = entropy' ∨ settings.seed?.isSome)
    (hinput : said (splitLines input) = said (splitLines input')) :
    (run timing color arguments readFile entropy input).shown =
      (run timing' color' arguments' readFile entropy' input').shown := by
  have hfile : settings.file = settings'.file := by
    have hplain := congrArg Settings.file hsettings
    exact hplain
  rw [run, run, start, start, hr, hr']
  simp only [← hfile]
  cases loadFile settings.file (readFile settings.file) with
  | error message => rfl
  | ok index =>
      have hleft := begin_alike hsettings index hseed
      have hright : (begin settings' index entropy').1.Alike (begin settings' index entropy').1 :=
        begin_alike rfl index (.inl rfl)
      have hout := begin_out settings index entropy
      have hout' := begin_out settings' index entropy'
      dsimp only
      generalize begin settings index entropy = b at hleft hout ⊢
      generalize begin settings' index entropy' = b' at hleft hright hout' ⊢
      refine (shown_of_alike hleft hout timing _).trans ?_
      rw [hinput]
      exact (shown_of_alike hright hout' timing' _).symm

/-- Runs on the same file whose arguments differ in switches alone, and whose inputs say the same apart
from blank lines, write the same replies and end with the same code. Where no seed is given, this is so
for the same entropy. -/
theorem run_hides_reports (readFile : String → Except FileFault (List UInt8))
    (timing timing' : List SearchReport → Timing) (color color' : Bool)
    {arguments arguments' : List String} {entropy entropy' : UInt64} {input input' : List UInt8}
    (harguments : withoutSwitches arguments = withoutSwitches arguments')
    (hseed : entropy = entropy' ∨ ∀ settings,
      Request.read color arguments = .ok (.talk settings) → settings.seed?.isSome)
    (hinput : said (splitLines input) = said (splitLines input')) :
    (run timing color arguments readFile entropy input).shown =
      (run timing' color' arguments' readFile entropy' input').shown := by
  have hread := plain_read_of_withoutSwitches harguments color color'
  cases hr : Request.read color arguments with
  | error fault =>
      rw [hr] at hread
      cases hr' : Request.read color' arguments' with
      | error fault' =>
          rw [hr'] at hread
          obtain rfl := Except.error.inj hread
          rw [run, run, start, start, hr, hr']
      | ok request' => rw [hr'] at hread; cases hread
  | ok request =>
      rw [hr] at hread
      cases hr' : Request.read color' arguments' with
      | error fault' => rw [hr'] at hread; cases hread
      | ok request' =>
          rw [hr'] at hread
          have hplain : request.plain = request'.plain := Except.ok.inj hread
          cases request with
          | help =>
              cases request' <;> cases hplain
              rw [run, run, start, start, hr, hr']
          | version =>
              cases request' <;> cases hplain
              rw [run, run, start, start, hr, hr']
          | talk settings =>
              cases request' with
              | help => cases hplain
              | version => cases hplain
              | talk settings' =>
                  -- A seed takes the place of the entropy.
                  have hseeded : entropy = entropy' ∨ settings.seed?.isSome :=
                    hseed.imp_right fun h => h settings hr
                  exact run_shown_of_talk readFile timing timing' hr hr' (Request.talk.inj hplain) hseeded
                    hinput

theorem run_hides_reports_greeting :
    let source := "<aiml><category><pattern>HI</pattern><template>Hello</template></category></aiml>"
    let readFile : String → Except FileFault (List UInt8) := fun _ => .ok source.toUTF8.toList
    let timing : List SearchReport → Timing := fun _ => ⟨[], ""⟩
    let arguments := ["--trace", "--seed", "7", "rules.aiml"]
    let arguments' := ["--seed", "7", "--no-color", "rules.aiml", "--color"]
    let input := "hi\n \t\nho".toUTF8.toList
    let input' := "\nhi\r\nho\n".toUTF8.toList
    (withoutSwitches arguments = withoutSwitches arguments' ∧
        (∀ settings, Request.read false arguments = .ok (.talk settings) → settings.seed?.isSome) ∧
        said (splitLines input) = said (splitLines input')) ∧
      (run timing false arguments readFile 1 input).shown =
        (run timing true arguments' readFile 2 input').shown := by
  intro source readFile timing arguments arguments' input input'
  have harguments : withoutSwitches arguments = withoutSwitches arguments' := by decide
  have hseed : ∀ settings, Request.read false arguments = .ok (.talk settings) →
      settings.seed?.isSome := by
    have hread : Request.read false ["--trace", "--seed", "7", "rules.aiml"] =
        .ok (.talk ⟨"rules.aiml", some 7, none, true, false⟩) := rfl
    intro settings h
    obtain rfl := Request.talk.inj (Except.ok.inj (hread.symm.trans h))
    rfl
  have hlines : splitLines "hi\n \t\nho".toUTF8.toList = [[104, 105], [32, 9], [104, 111]] := by decide +kernel
  have hlines' : splitLines "\nhi\r\nho\n".toUTF8.toList = [[], [104, 105], [104, 111]] := by decide +kernel
  have hinput : said (splitLines input) = said (splitLines input') := by
    rw [hlines, hlines']
    decide
  exact ⟨⟨harguments, hseed, hinput⟩,
    run_hides_reports readFile timing timing false true harguments (.inr hseed) hinput⟩

end Dialogue.Console
