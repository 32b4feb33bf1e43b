import Dialogue.Proofs.Session.Cache
import Dialogue.Proofs.Session.Rendering

/-!
# Users of one interpreter

As long as no choice among items can be rendered, nothing is drawn, and users who share an interpreter
notice nothing of each other: what a call shows to its user is what it shows if only this user's
calls are made, with an interpreter of its own.
-/

namespace Dialogue

open Markup (Node Element)

/-! ## Trees without choices -/

mutual
/-- No `<random>` element in the tree has an `<li>` child. -/
def Markup.Node.hasNoChoice : Node → Bool
  | .text _ => true
  | .element name attributes children =>
    (name != "random" || (Element.elementsNamed ⟨name, attributes, children⟩ "li").isEmpty) &&
      Markup.Node.haveNoChoice children

/-- No `<random>` element in the trees has an `<li>` child. -/
def Markup.Node.haveNoChoice : List Node → Bool
  | [] => true
  | n :: ns => n.hasNoChoice && Markup.Node.haveNoChoice ns
end

theorem Markup.Node.haveNoChoice_iff (ns : List Node) :
    Node.haveNoChoice ns ↔ ∀ n ∈ ns, n.hasNoChoice := by
  induction ns with
  | nil => simp [Node.haveNoChoice]
  | cons n ns ih => simp [Node.haveNoChoice, ih]

theorem Markup.Element.haveNoChoice_children {e : Element} (h : e.toNode.hasNoChoice) :
    Node.haveNoChoice e.children := by
  rw [Element.toNode, Node.hasNoChoice, Bool.and_eq_true] at h
  exact h.2

theorem Category.haveNoChoice_template {node t : Element} (h : node.toNode.hasNoChoice)
    (ht : Category.template? node = some t) : Node.haveNoChoice t.children := by
  have hmem : t ∈ node.elementsNamed "template" := List.mem_of_getLast? ht
  have hchild := Element.toNode_mem_of_mem_elements (List.mem_filter.mp hmem).1
  have hnode := (Node.haveNoChoice_iff _).mp (Element.haveNoChoice_children h)
  exact Element.haveNoChoice_children (hnode _ hchild)

/-- No rule in the store has a choice among items. -/
def RuleStore.HasNoChoice {σ : Type} [RuleStore σ] (store : σ) : Prop :=
  ∀ topic pattern c, RuleStore.category? store topic pattern = some c → c.node.toNode.hasNoChoice

/-- No choice among items is given to the call to render. -/
def Call.hasNoChoice : Call → Bool
  | .renderRule node? => node?.all (·.toNode.hasNoChoice)
  | .renderTemplate template => template.toNode.hasNoChoice
  | _ => true

/-! ## Renderings that draw nothing -/

namespace Rendering

variable {α β : Type}

/-- Wherever it starts in the stream, the rendering ends there, and always alike. -/
def DrawsNothing (m : Rendering α) : Prop :=
  ∃ r w, ∀ d, m d = ⟨r, d, w⟩

theorem DrawsNothing.pure (a : α) : (Pure.pure a : Rendering α).DrawsNothing :=
  ⟨.ok a, [], fun _ => rfl⟩

theorem DrawsNothing.fail (e : Error) : (Rendering.fail e : Rendering α).DrawsNothing :=
  ⟨.error e, [], fun _ => rfl⟩

theorem DrawsNothing.assign (name value : String) : (Rendering.assign name value).DrawsNothing :=
  ⟨.ok (), [(name, value)], fun _ => rfl⟩

theorem DrawsNothing.bind {m : Rendering α} {f : α → Rendering β} (h : m.DrawsNothing)
    (hf : ∀ a, (f a).DrawsNothing) : (m >>= f).DrawsNothing := by
  obtain ⟨r, w, hm⟩ := h
  cases r with
  | error e => exact ⟨.error e, w, fun d => bind_error (hm d)⟩
  | ok a =>
      obtain ⟨r', w', hr⟩ := hf a
      exact ⟨r', w ++ w', fun d => bind_ok (hm d) (hr d)⟩

end Rendering

open Rendering (DrawsNothing)

section
variable {consult : String → Rendering String}

mutual
theorem renderNode_drawsNothing (hc : ∀ target, (consult target).DrawsNothing) :
    (n : Node) → n.hasNoChoice → (renderNode consult n).DrawsNothing
  | .text value, _ => .pure (tidyText value)
  | .element name attributes children, h => by
      rw [Node.hasNoChoice, Bool.and_eq_true, Bool.or_eq_true] at h
      have hn := renderNodes_drawsNothing hc children h.2
      cases ElementKind.of name attributes with
      | template =>
          rw [renderNode_template]
          exact hn
      | random =>
          have hitems := List.isEmpty_iff.mp (h.1.resolve_left (by decide))
          rw [renderNode_random, hitems]
          exact .fail .emptyChoice
      | srai =>
          rw [renderNode_srai]
          exact hc (sraiTarget children)
      | set =>
          rw [renderNode_set]
          exact hn.bind fun value => (DrawsNothing.assign _ value).bind fun _ => .pure ""
      | setUnnamed =>
          rw [renderNode_setUnnamed]
          exact .pure ""
      | think =>
          rw [renderNode_think]
          exact hn.bind fun _ => .pure ""
      | unknown ht =>
          rw [renderNode_unknown _ _ _ ht]
          exact .pure ""

theorem renderNodes_drawsNothing (hc : ∀ target, (consult target).DrawsNothing) :
    (ns : List Node) → Node.haveNoChoice ns → (renderNodes consult ns).DrawsNothing
  | [], _ => .pure ""
  | n :: ns, h => by
      rw [Node.haveNoChoice, Bool.and_eq_true] at h
      have hn := renderNode_drawsNothing hc n h.1
      have hns := renderNodes_drawsNothing hc ns h.2
      exact hn.bind fun first => hns.bind fun rest => .pure (first ++ rest)
end

theorem renderRule_drawsNothing (options : Options) (hc : ∀ target, (consult target).DrawsNothing)
    {node? : Option Element} (h : node?.all (·.toNode.hasNoChoice)) :
    (renderRule options consult node?).DrawsNothing := by
  cases node? with
  | none => exact .pure options.defaultResponse
  | some e =>
      rw [renderRule]
      cases ht : Category.template? e with
      | none => exact .pure options.defaultResponse
      | some t =>
          have hn := renderNodes_drawsNothing hc t.children (Category.haveNoChoice_template h ht)
          exact hn.bind fun _ => .pure _

end

/-! ## Interpreters over the same rules -/

variable {σ : Type}

/-- The interpreter at another place in its stream of words. -/
def Interpreter.withDraws (bot : Interpreter σ) (draws : Draws) : Interpreter σ :=
  { bot with draws }

/-- The turn, with the interpreter that it leaves at another place in the stream. -/
def Turn.withDraws {α : Type} (turn : Turn α σ) (draws : Draws) : Turn α σ :=
  { turn with interpreter := turn.interpreter.withDraws draws }

namespace Interpreter

theorem run_withDraws (bot : Interpreter σ) (predicates : Predicates) (draws : Draws)
    {rendering : Rendering String} (h : rendering.DrawsNothing) :
    (bot.withDraws draws).run predicates rendering =
      (bot.run predicates rendering).withDraws draws := by
  obtain ⟨r, w, h⟩ := h
  simp only [Interpreter.run, Turn.withDraws, withDraws, h]

/-- The same rules and options, and sound caches. -/
structure Akin (a b : Interpreter σ) : Prop where
  index : a.index = b.index
  options : a.options = b.options
  left : a.cache.Sound
  right : b.cache.Sound

theorem Akin.alike {a b : Interpreter σ} (h : a.Akin b) : a.Alike (b.withDraws a.draws) := by
  obtain ⟨store, options, draws, cache⟩ := a
  obtain ⟨store', options', draws', cache'⟩ := b
  obtain ⟨rfl, rfl, hl, hr⟩ := h
  exact .mk hl hr

end Interpreter

/-! ## Calls that draw nothing -/

variable [RuleStore σ]

theorem consult_drawsNothing {store : σ} (hs : RuleStore.HasNoChoice store) (options : Options)
    (remaining : Nat) (target : String) : (consult store options remaining target).DrawsNothing := by
  induction remaining generalizing target with
  | zero => exact .fail _
  | succ remaining ih =>
      rw [consult_succ]
      cases hc : RuleStore.category? store options.defaultTopic target with
      | none => exact .pure options.errorResponse
      | some c => exact renderRule_drawsNothing options ih (hs _ _ c hc)

namespace Interpreter

variable {bot : Interpreter σ} (predicates : Predicates) (draws : Draws)

theorem renderRule_withDraws (hs : RuleStore.HasNoChoice bot.index) {node? : Option Element}
    (h : node?.all (·.toNode.hasNoChoice)) :
    (bot.withDraws draws).renderRule node? predicates =
      (bot.renderRule node? predicates).withDraws draws :=
  run_withDraws bot predicates draws
    (renderRule_drawsNothing bot.options (consult_drawsNothing hs bot.options _) h)

theorem renderTemplate_withDraws (hs : RuleStore.HasNoChoice bot.index) {template : Element}
    (h : template.toNode.hasNoChoice) :
    (bot.withDraws draws).renderTemplate template predicates =
      (bot.renderTemplate template predicates).withDraws draws :=
  run_withDraws bot predicates draws
    (renderNodes_drawsNothing (consult_drawsNothing hs bot.options _) template.children
      (Element.haveNoChoice_children h))

theorem renderPattern_withDraws (hs : RuleStore.HasNoChoice bot.index) (pattern topic that : String) :
    (bot.withDraws draws).renderPattern pattern topic that predicates =
      (bot.renderPattern pattern topic that predicates).withDraws draws := by
  refine renderRule_withDraws predicates draws hs ?_
  rw [Option.all_map, Option.all_eq_true]
  intro c hc
  rw [Option.orElse_eq_orElse, Option.orElse_eq_or, Option.or_eq_some_iff] at hc
  rcases hc with hc | ⟨-, hc⟩ <;> exact hs _ _ c hc

theorem respond_withDraws (hs : RuleStore.HasNoChoice bot.index) (input topic that : String) :
    (bot.withDraws draws).respond input topic that predicates =
      (bot.respond input topic that predicates).withDraws draws := by
  let found := RuleStore.find? bot.index bot.cache input topic bot.options.defaultTopic
  let hit := found.1.getD ⟨bot.options.defaultTopic, catchAll⟩
  let cached : Interpreter σ := { bot with cache := found.2 }
  have hcached : RuleStore.HasNoChoice cached.index := hs
  exact congrArg (Turn.map (Reply.mk hit.pattern))
    (renderPattern_withDraws predicates draws hcached hit.pattern hit.topic that)

/-- Where no choice can come up, a call shows the same from every place in the stream, and leaves it
there. -/
theorem perform_withDraws (hs : RuleStore.HasNoChoice bot.index) {call : Call} (hc : call.hasNoChoice) :
    (bot.withDraws draws).perform predicates call =
      (bot.perform predicates call).withDraws draws := by
  cases call with
  | matchPattern input topic that => rfl
  | explain input topic that => rfl
  | respond input topic that =>
      exact congrArg (Turn.map Answer.reply) (respond_withDraws predicates draws hs input topic that)
  | renderPattern pattern topic that =>
      exact congrArg (Turn.map Answer.text)
        (renderPattern_withDraws predicates draws hs pattern topic that)
  | renderRule node? =>
      exact congrArg (Turn.map Answer.text) (renderRule_withDraws predicates draws hs hc)
  | renderTemplate template =>
      exact congrArg (Turn.map Answer.text) (renderTemplate_withDraws predicates draws hs hc)

theorem perform_draws (hs : RuleStore.HasNoChoice bot.index) {call : Call} (hc : call.hasNoChoice) :
    (bot.perform predicates call).interpreter.draws = bot.draws :=
  congrArg (·.interpreter.draws) (perform_withDraws predicates bot.draws hs hc)

variable {a b : Interpreter σ} {predicates}

/-- A call leaves interpreters over the same rules as they are to each other, though it is made to one
of them only. -/
theorem Akin.perform_left (h : a.Akin b) (predicates : Predicates) (call : Call) :
    (a.perform predicates call).interpreter.Akin b := by
  obtain ⟨hi, ho⟩ := perform_fixed a predicates call
  exact ⟨hi.trans h.index, ho.trans h.options, perform_sound h.left predicates call, h.right⟩

theorem Akin.perform (h : a.Akin b) (hs : RuleStore.HasNoChoice a.index) {call : Call}
    (hc : call.hasNoChoice) (predicates : Predicates) :
    let t := a.perform predicates call
    let u := b.perform predicates call
    t.result = u.result ∧ t.predicates = u.predicates ∧ t.interpreter.Akin u.interpreter := by
  intro t u
  have hp := h.alike.perform predicates call
  rw [perform_withDraws predicates a.draws (h.index ▸ hs) hc] at hp
  obtain ⟨hi, ho, hl, hr⟩ := h.perform_left predicates call
  obtain ⟨hi', ho'⟩ := perform_fixed b predicates call
  exact ⟨hp.result, hp.predicates, hi.trans hi'.symm, ho.trans ho'.symm, hl,
    perform_sound hr predicates call⟩

end Interpreter

/-! ## Runs -/

/-- What a user sees of a call: the result and the predicates after it. -/
def Record.shown (record : Record) : Except Error Answer × Predicates :=
  (record.result, record.predicates)

/-- What a run shows to one of its users. -/
def shownTo (user : String) (requests : List Request) (records : List Record) :
    List (Except Error Answer × Predicates) :=
  ((requests.zip records).filter fun p => p.1.user = user).map fun p => p.2.shown

namespace Sessions

variable {s t : Sessions σ} {user : String}

/-- The same rules and options, and the same predicates of a user. -/
structure Agree (user : String) (s t : Sessions σ) : Prop where
  bot : s.bot.Akin t.bot
  memory : s.memory user = t.memory user

/-- A call made for another user changes nothing for a user. -/
theorem Agree.step_other (h : s.Agree user t) {r : Request} (hr : r.user ≠ user) :
    (s.step r).2.Agree user t :=
  ⟨h.bot.perform_left _ r.call, (if_neg hr.symm).trans h.memory⟩

theorem Agree.step_own (h : s.Agree user t) (hs : RuleStore.HasNoChoice s.bot.index) {r : Request}
    (hc : r.call.hasNoChoice) (hr : r.user = user) :
    (s.step r).1.shown = (t.step r).1.shown ∧ (s.step r).2.Agree user (t.step r).2 := by
  subst hr
  obtain ⟨hres, hpred, hbot⟩ := h.bot.perform hs hc (s.memory r.user)
  simp only [Sessions.step, Record.shown, ← h.memory]
  refine ⟨Prod.ext hres hpred, hbot, ?_⟩
  simp only [if_true, hpred]

theorem step_index (s : Sessions σ) (r : Request) : (s.step r).2.bot.index = s.bot.index :=
  (s.bot.perform_fixed (s.memory r.user) r.call).1

theorem Agree.run (h : s.Agree user t) (hs : RuleStore.HasNoChoice s.bot.index)
    {requests : List Request} (hc : ∀ r ∈ requests, r.call.hasNoChoice) :
    shownTo user requests (s.run requests).1 =
      (t.run (requests.filter fun r => r.user = user)).1.map Record.shown := by
  induction requests generalizing s t with
  | nil => rfl
  | cons r rs ih =>
      obtain ⟨hr, hrs⟩ := List.forall_mem_cons.mp hc
      have hs' : RuleStore.HasNoChoice (s.step r).2.bot.index := s.step_index r ▸ hs
      by_cases hu : r.user = user
      · obtain ⟨hshown, hagree⟩ := h.step_own hs hr hu
        have hrest := ih hagree hs' hrs
        simp only [shownTo] at hrest
        simp only [shownTo, Sessions.run, List.zip_cons_cons, List.filter_cons, hu, decide_true,
          if_true, List.map_cons, hshown, hrest]
      · have hrest := ih (h.step_other hu) hs' hrs
        simp only [shownTo] at hrest
        simp only [shownTo, Sessions.run, List.zip_cons_cons, List.filter_cons, hu, decide_false,
          Bool.false_eq_true, if_false, hrest]

theorem run_draws (hs : RuleStore.HasNoChoice s.bot.index) {requests : List Request}
    (hc : ∀ r ∈ requests, r.call.hasNoChoice) :
    (∀ record ∈ (s.run requests).1, record.draws = s.bot.draws) ∧
      (s.run requests).2.bot.draws = s.bot.draws := by
  induction requests generalizing s with
  | nil => exact ⟨by simp [Sessions.run], rfl⟩
  | cons r rs ih =>
      obtain ⟨hr, hrs⟩ := List.forall_mem_cons.mp hc
      have hd : (s.step r).2.bot.draws = s.bot.draws :=
        Interpreter.perform_draws (s.memory r.user) hs hr
      obtain ⟨hrecords, hend⟩ := ih (s := (s.step r).2) (s.step_index r ▸ hs) hrs
      rw [hd] at hrecords hend
      exact ⟨List.forall_mem_cons.mpr ⟨hd, hrecords⟩, hend⟩

/-- Where no choice can come up, every user sees of a run what an interpreter of its own would show,
asked only by this user, and no random word is ever drawn. -/
theorem run_isolates_users (store : σ) (options : Options) (seed : UInt64)
    (memory : String → Predicates) (requests : List Request) (hs : RuleStore.HasNoChoice store)
    (hc : ∀ r ∈ requests, r.call.hasNoChoice) :
    let s := start store options seed memory
    (∀ user seed',
        let alone := start store options seed' fun _ => memory user
        shownTo user requests (s.run requests).1 =
          (alone.run (requests.filter fun r => r.user = user)).1.map Record.shown) ∧
      (∀ record ∈ (s.run requests).1, record.draws = .ofSeed seed) ∧
      (s.run requests).2.bot.draws = .ofSeed seed := by
  intro s
  have hstart : s.bot.draws = .ofSeed seed := rfl
  obtain ⟨hrecords, hend⟩ := run_draws (s := s) hs hc
  rw [hstart] at hrecords hend
  refine ⟨?_, hrecords, hend⟩
  intro user seed' alone
  have h : s.Agree user alone := ⟨⟨rfl, rfl, .empty, .empty⟩, rfl⟩
  exact h.run hs hc

theorem run_isolates_users_mood :
    let mood : Markup.Element := { name := "template", children :=
      [.element "set" [("name", "mood")] [.text "fine"], .text "Hi there"] }
    let noItems : Markup.Element := { name := "template", children := [.element "random" [] []] }
    let store := Index.empty.insert (.ofTemplate "default" "HELLO *" mood)
    let requests : List Request :=
      [⟨"Ann", .respond "hello you" "default" ""⟩, ⟨"Bob", .renderTemplate noItems⟩,
        ⟨"Bob", .matchPattern "hello you" "default" ""⟩]
    let s := start store {} 7 fun _ => .empty
    (RuleStore.HasNoChoice store ∧ ∀ r ∈ requests, r.call.hasNoChoice) ∧
      shownTo "Bob" requests (s.run requests).1 =
        ((start store {} 8 fun _ => .empty).run (requests.drop 1)).1.map Record.shown := by
  intro mood noItems store requests s
  have hs : RuleStore.HasNoChoice store := by
    intro topic pattern c h
    change store.category? topic pattern = some c at h
    rw [Index.category?_insert] at h
    split at h
    · obtain rfl := Option.some.inj h
      decide
    · simp [Index.category?, Index.shelf, Index.empty] at h
  have hc : ∀ r ∈ requests, r.call.hasNoChoice := by decide
  exact ⟨⟨hs, hc⟩,
    (run_isolates_users store {} 7 (fun _ => .empty) requests hs hc).1 "Bob" 8⟩

end Sessions

end Dialogue
