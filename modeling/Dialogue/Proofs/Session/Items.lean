import Mathlib.Data.List.Forall2
import Dialogue.Proofs.Session.Account

/-!
# Items of a choice are not executed

What is in the `<li>` items of `<random>` elements gets into texts and into the values of predicates, but it
decides nothing. If two collections of rules differ in it alone, a call ends with both or faults with both in
the same way, and does the same on the way: the same choices by the same words, the same lookups, and
assignments to the same names.
-/

namespace Dialogue

open Markup (Node Element)

/-! ## Trees that differ in items -/

mutual
/-- Nodes that differ at most in the contents of the items of choices; whether a node is a child of a
`<random>` element decides about items. What an `<srai>` element asks for has none. -/
inductive Markup.Node.ItemsVary : (inRandom : Bool) → Node → Node → Prop
  | text {inRandom value} : ItemsVary inRandom (.text value) (.text value)
  | srai {inRandom attributes children} :
    ItemsVary inRandom (.element "srai" attributes children) (.element "srai" attributes children)
  | item {attributes children children'} :
    ItemsVary true (.element "li" attributes children) (.element "li" attributes children')
  | inside {inRandom name attributes children children'} :
    name ≠ "srai" → Markup.Node.AllItemsVary (name = "random") children children' →
      ItemsVary inRandom (.element name attributes children) (.element name attributes children')

/-- Nodes one after another that differ at most in the contents of items. -/
inductive Markup.Node.AllItemsVary : (inRandom : Bool) → List Node → List Node → Prop
  | nil {inRandom} : AllItemsVary inRandom [] []
  | cons {inRandom n n' ns ns'} :
    Markup.Node.ItemsVary inRandom n n' → AllItemsVary inRandom ns ns' →
      AllItemsVary inRandom (n :: ns) (n' :: ns')
end

/-- Elements that differ at most in the contents of items. -/
def Markup.Element.ItemsVary (e e' : Element) : Prop :=
  e.toNode.ItemsVary false e'.toNode

namespace Markup.Node

mutual
theorem ItemsVary.refl (inRandom : Bool) : (n : Node) → n.ItemsVary inRandom n
  | .text _ => .text
  | .element name _ children => by
      by_cases h : name = "srai"
      · subst h
        exact .srai
      · exact .inside h (AllItemsVary.refl _ children)

theorem AllItemsVary.refl (inRandom : Bool) : (ns : List Node) → AllItemsVary inRandom ns ns
  | [] => .nil
  | n :: ns => .cons (ItemsVary.refl inRandom n) (AllItemsVary.refl inRandom ns)
end

section
variable {inRandom : Bool} {e e' : Element}

theorem ItemsVary.name_eq (h : e.toNode.ItemsVary inRandom e'.toNode) : e.name = e'.name := by
  obtain ⟨name, attributes, children⟩ := e
  obtain ⟨name', attributes', children'⟩ := e'
  cases h with
  | srai | item | inside => rfl

/-- The children of an element that is no item differ in items only. -/
theorem ItemsVary.children (h : e.toNode.ItemsVary inRandom e'.toNode)
    (hitem : inRandom = true → e.name ≠ "li") :
    AllItemsVary (e.name = "random") e.children e'.children := by
  obtain ⟨name, attributes, children⟩ := e
  obtain ⟨name', attributes', children'⟩ := e'
  cases h with
  | srai => exact .refl _ _
  | item => exact absurd rfl (hitem rfl)
  | inside _ hchildren => exact hchildren

theorem ItemsVary.element? {n n' : Node} (h : n.ItemsVary inRandom n') :
    Option.Rel (fun e e' : Element => e.toNode.ItemsVary inRandom e'.toNode) n.element? n'.element? := by
  cases h with
  | text => exact .none
  | srai => exact .some .srai
  | item => exact .some .item
  | inside hname hchildren => exact .some (.inside hname hchildren)

theorem AllItemsVary.forall₂ : {ns ns' : List Node} → AllItemsVary inRandom ns ns' →
    List.Forall₂ (·.ItemsVary inRandom ·) ns ns'
  | _, _, .nil => .nil
  | _, _, .cons hn hns => .cons hn hns.forall₂

/-- The child elements of a name differ one by one. -/
theorem AllItemsVary.elementsNamed (h : AllItemsVary inRandom e.children e'.children) (name : String) :
    List.Forall₂ (fun child child' => child.name = name ∧ child.toNode.ItemsVary inRandom child'.toNode)
      (e.elementsNamed name) (e'.elementsNamed name) := by
  refine (List.forall₂_and_left _ _).mpr ⟨fun child hchild => ?_, ?_⟩
  · exact eq_of_beq (List.mem_filter.mp hchild).2
  · have helements := List.rel_filterMap (fun _ _ hn => ItemsVary.element? hn) h.forall₂
    refine List.rel_filter (fun child child' hchild => ?_) helements
    show child.name == name ↔ child'.name == name
    rw [hchild.name_eq]

end

end Markup.Node

theorem rel_getLast? {α β : Type} {R : α → β → Prop} {as : List α} {bs : List β}
    (h : List.Forall₂ R as bs) : Option.Rel R as.getLast? bs.getLast? := by
  have hreverse := List.rel_reverse h
  rw [← List.head?_reverse, ← List.head?_reverse]
  generalize as.reverse = as at hreverse
  generalize bs.reverse = bs at hreverse
  cases hreverse with
  | nil => exact .none
  | cons hab => exact .some hab

/-- The responses of rules that differ in items do so, too. -/
theorem Markup.Element.ItemsVary.template? {e e' : Element} (h : e.ItemsVary e') :
    Option.Rel (fun t t' => Node.AllItemsVary false t.children t'.children) (Category.template? e)
      (Category.template? e') := by
  have hchildren := Node.ItemsVary.children h nofun
  refine rel_getLast? ((hchildren.elementsNamed "template").imp ?_)
  rintro t t' ⟨hname, ht⟩
  have hinside := ht.children fun _ => by rw [hname]; decide
  rw [hname] at hinside
  exact hinside

/-! ## Accounts that differ in values -/

/-- A deed, whatever value is assigned. -/
def Deed.withoutValue : Deed → Deed
  | .assignment name _ => .assignment name ""
  | deed => deed

/-- Both accounts end with something or with the same fault, at the same place in the stream, and have
the same deeds except for the values. -/
structure Account.Alike {α : Type} (a a' : Account α) : Prop where
  result : a.result.map (fun _ => ()) = a'.result.map (fun _ => ())
  draws : a.draws = a'.draws
  deeds : a.deeds.map Deed.withoutValue = a'.deeds.map Deed.withoutValue

namespace Accounting

variable {α β : Type}

/-- From every place in the stream the accounts are alike. -/
def Alike (m m' : Accounting α) : Prop :=
  ∀ d, (m d).Alike (m' d)

theorem Alike.refl (m : Accounting α) : m.Alike m :=
  fun _ => ⟨rfl, rfl, rfl⟩

theorem Alike.pure (a a' : α) : (Pure.pure a : Accounting α).Alike (Pure.pure a') :=
  fun _ => ⟨rfl, rfl, rfl⟩

theorem Alike.assignment (name value value' : String) :
    (note (.assignment name value)).Alike (note (.assignment name value')) :=
  fun _ => ⟨rfl, rfl, rfl⟩

/-- What comes second may not depend on the value of what comes first. -/
theorem Alike.bind {m m' : Accounting α} {f f' : α → Accounting β} (h : m.Alike m')
    (hf : ∀ a a', (f a).Alike (f' a')) : (m >>= f).Alike (m' >>= f') := by
  intro d
  show (Accounting.bind m f d).Alike (Accounting.bind m' f' d)
  have hd := h d
  rcases hm : m d with ⟨r, d₁, deeds⟩
  rcases hm' : m' d with ⟨r', d₁', deeds'⟩
  rw [hm, hm'] at hd
  obtain ⟨hr, rfl, hdeeds⟩ := hd
  simp only [Accounting.bind, hm, hm']
  cases r with
  | error e =>
      cases r' with
      | error e' => exact ⟨congrArg Except.error (Except.error.inj hr), rfl, hdeeds⟩
      | ok a' => cases hr
  | ok a =>
      cases r' with
      | error e' => cases hr
      | ok a' =>
          obtain ⟨hr, hdraws, hdeeds₂⟩ := hf a a' d₁
          refine ⟨hr, hdraws, ?_⟩
          simp only [List.map_append] at hdeeds ⊢
          rw [hdeeds, hdeeds₂]

end Accounting

open Accounting (Alike)

/-! ## Renderings -/

/-- Only how many items there are decides what a choice does. -/
theorem renderChoice_alike {candidates candidates' : List Element}
    (h : candidates.length = candidates'.length) :
    (renderChoice (m := Accounting) candidates).Alike (renderChoice candidates') := by
  cases candidates with
  | nil =>
      obtain rfl := List.eq_nil_of_length_eq_zero h.symm
      exact .refl _
  | cons c cs =>
      cases candidates' with
      | nil => cases h
      | cons c' cs' =>
          rw [List.length_cons, List.length_cons] at h
          simp only [renderChoice, h]
          exact (Alike.refl _).bind fun _ _ => .pure _ _

section
variable {consult consult' : String → Accounting String}

mutual
theorem renderNode_alike (hc : ∀ target, (consult target).Alike (consult' target))
    {inRandom : Bool} {n n' : Node} (h : n.ItemsVary inRandom n') :
    (renderNode consult n).Alike (renderNode consult' n') := by
  match h with
  | .text => exact .refl _
  | .srai =>
      rw [renderNode_srai, renderNode_srai]
      exact hc _
  | .item =>
      -- Only the choice around an item looks inside; by itself it is an element of an unknown name.
      rw [renderNode_unknown _ _ _ (by decide), renderNode_unknown _ _ _ (by decide)]
      exact .refl _
  | @Node.ItemsVary.inside _ name attributes _ _ hname hchildren =>
      have hn := renderNodes_alike hc hchildren
      cases ElementKind.of name attributes with
      | template =>
          rw [renderNode_template, renderNode_template]
          exact hn
      | random =>
          rw [renderNode_random, renderNode_random]
          exact renderChoice_alike (hchildren.elementsNamed "li").length_eq
      | srai => exact absurd rfl hname
      | set =>
          -- The values may differ from here on, but nothing is decided by them.
          rw [renderNode_set, renderNode_set]
          exact hn.bind fun value value' => (Alike.assignment _ value value').bind fun _ _ => .refl _
      | setUnnamed =>
          rw [renderNode_setUnnamed, renderNode_setUnnamed]
          exact .refl _
      | think =>
          rw [renderNode_think, renderNode_think]
          exact hn.bind fun _ _ => .refl _
      | unknown ht =>
          rw [renderNode_unknown _ _ _ ht, renderNode_unknown _ _ _ ht]
          exact .refl _

theorem renderNodes_alike (hc : ∀ target, (consult target).Alike (consult' target))
    {inRandom : Bool} {ns ns' : List Node} (h : Node.AllItemsVary inRandom ns ns') :
    (renderNodes consult ns).Alike (renderNodes consult' ns') := by
  match h with
  | .nil => exact .refl _
  | .cons hn hns =>
      have hfirst := renderNode_alike hc hn
      have hrest := renderNodes_alike hc hns
      rw [renderNodes, renderNodes]
      exact hfirst.bind fun _ _ => hrest.bind fun _ _ => .pure _ _
end

/-- Whether a text is empty decides which text is given, and nothing else. -/
theorem renderRule_alike (hc : ∀ target, (consult target).Alike (consult' target))
    (options : Options) {node? node?' : Option Element}
    (h : Option.Rel Element.ItemsVary node? node?') :
    (renderRule options consult node?).Alike (renderRule options consult' node?') := by
  cases h with
  | none => exact .refl _
  | @some e e' he =>
      have ht := he.template?
      rw [renderRule, renderRule]
      generalize Category.template? e = t? at ht
      generalize Category.template? e' = t?' at ht
      cases ht with
      | none => exact .refl _
      | some ht => exact (renderNodes_alike hc ht).bind fun _ _ => .pure _ _

end

/-! ## Worlds -/

section
variable {σ τ : Type} [RuleStore σ] [RuleStore τ]

/-- Collections with rules under the same topics and patterns, which differ in items at most. -/
def RuleStore.ItemsVary (store : σ) (store' : τ) : Prop :=
  ∀ topic pattern, Option.Rel (fun c c' => c.node.ItemsVary c'.node)
    (RuleStore.category? store topic pattern) (RuleStore.category? store' topic pattern)

theorem consult_alike {store : σ} {store' : τ} (h : RuleStore.ItemsVary store store')
    (options : Options) (remaining : Nat) (target : String) :
    (Renderer.consult Accounting store options remaining target).Alike
      (Renderer.consult Accounting store' options remaining target) := by
  induction remaining generalizing target with
  | zero => exact .refl _
  | succ remaining ih =>
      rw [Renderer.consult, Renderer.consult, Accounting.lookup_bind, Accounting.lookup_bind]
      refine (Alike.refl _).bind fun _ _ => ?_
      have hrule := h options.defaultTopic target
      generalize RuleStore.category? store options.defaultTopic target = c? at hrule
      generalize RuleStore.category? store' options.defaultTopic target = c?' at hrule
      cases hrule with
      | none => exact .refl _
      | some hrule => exact renderRule_alike ih options (.some hrule)

end

/-- The same pattern to render, or templates that differ in items. -/
inductive Call.ItemsVary : Call → Call → Prop
  | renderPattern {pattern topic that} :
    ItemsVary (.renderPattern pattern topic that) (.renderPattern pattern topic that)
  | renderTemplate {template template'} :
    template.ItemsVary template' → ItemsVary (.renderTemplate template) (.renderTemplate template')

/-- The account tells how a turn ends and what it assigns over the predicates before it. -/
structure Account.TellsOf {σ : Type} (account : Account String) (answer : String → Answer)
    (predicates : Predicates) (turn : Turn Answer σ) : Prop where
  result : turn.result = account.result.map answer
  draws : turn.interpreter.draws = account.draws
  predicates : turn.predicates = predicates.setAll (account.deeds.filterMap Deed.assignment?)

namespace Interpreter

variable {σ τ : Type} [RuleStore σ] [RuleStore τ]

theorem account_tellsOf (bot : Interpreter σ) (predicates : Predicates) {call : Call}
    (h : call.onlyMatches = false) :
    (bot.account call).TellsOf (bot.answerOf call) predicates (bot.perform predicates call) := by
  obtain ⟨hr, hd, hp⟩ := bot.perform_outcome predicates h
  rw [← bot.account_outcome call] at hr hd hp
  exact ⟨hr, hd, hp⟩

variable {bot : Interpreter σ} {bot' : Interpreter τ}

theorem ruleAt_itemsVary (hrules : RuleStore.ItemsVary bot.index bot'.index)
    (hoptions : bot.options = bot'.options) (pattern topic : String) :
    Option.Rel Element.ItemsVary (bot.ruleAt pattern topic) (bot'.ruleAt pattern topic) := by
  have hrule := hrules topic pattern
  have hany := hrules bot'.options.defaultTopic catchAll
  rw [ruleAt, ruleAt, hoptions]
  generalize RuleStore.category? bot.index topic pattern = c? at hrule
  generalize RuleStore.category? bot'.index topic pattern = c?' at hrule
  generalize RuleStore.category? bot.index bot'.options.defaultTopic catchAll = any? at hany
  generalize RuleStore.category? bot'.index bot'.options.defaultTopic catchAll = any?' at hany
  cases hrule with
  | some hrule => exact .some hrule
  | none =>
      cases hany with
      | some hany => exact .some hany
      | none => exact .none

theorem account_alike (hrules : RuleStore.ItemsVary bot.index bot'.index)
    (hoptions : bot.options = bot'.options) (hdraws : bot.draws = bot'.draws) {call call' : Call}
    (hcall : call.ItemsVary call') : (bot.account call).Alike (bot'.account call') := by
  have hc := consult_alike hrules bot'.options bot'.options.maxSraiDepth
  rw [account, account, hoptions, hdraws]
  cases hcall with
  | renderPattern =>
      exact renderRule_alike hc bot'.options (ruleAt_itemsVary hrules hoptions _ _) bot'.draws
  | renderTemplate htemplate => exact renderNodes_alike hc (htemplate.children nofun) bot'.draws

/-- Two calls, in worlds that differ in nothing but the contents of items, both end with something or
with the same fault, and at the same place in the stream of words; and their accounts show the same
choices, the same lookups and assignments to the same names, in the same order. -/
theorem perform_ignores_items (hrules : RuleStore.ItemsVary bot.index bot'.index)
    (hoptions : bot.options = bot'.options) (hdraws : bot.draws = bot'.draws) {call call' : Call}
    (hcall : call.ItemsVary call') (predicates predicates' : Predicates) :
    let turn := bot.perform predicates call
    let turn' := bot'.perform predicates' call'
    let account := bot.account call
    let account' := bot'.account call'
    (account.TellsOf (bot.answerOf call) predicates turn ∧
        account'.TellsOf (bot'.answerOf call') predicates' turn') ∧
      turn.result.map (fun _ => ()) = turn'.result.map (fun _ => ()) ∧
      turn.interpreter.draws = turn'.interpreter.draws ∧
      account.deeds.map Deed.withoutValue = account'.deeds.map Deed.withoutValue := by
  intro turn turn' account account'
  have hrenders : call.onlyMatches = false ∧ call'.onlyMatches = false := by
    cases hcall with
    | renderPattern | renderTemplate => exact ⟨rfl, rfl⟩
  have htells := bot.account_tellsOf predicates hrenders.1
  have htells' := bot'.account_tellsOf predicates' hrenders.2
  obtain ⟨hresult, hend, hdeeds⟩ := account_alike hrules hoptions hdraws hcall
  refine ⟨⟨htells, htells'⟩, ?_, ?_, hdeeds⟩
  · have hforget (answer : String → Answer) (r : Except Error String) :
        (r.map answer).map (fun _ => ()) = r.map (fun _ => ()) := by
      cases r <;> rfl
    rw [htells.result, htells'.result, hforget, hforget]
    exact hresult
  · rw [htells.draws, htells'.draws]
    exact hend

/-- An item that sets a name is chosen as any other would be, and the name is not set. -/
theorem perform_ignores_items_mood :
    let rule (items : List Node) : Category := .ofTemplate "default" "HI" {
      name := "template"
      children := [.element "set" [("name", "mood")] [.element "random" [] items],
        .element "srai" [] [.text "BYE"]] }
    let items : List Node := [.element "li" [] [.text "fine"], .element "li" [] [.text "bad"]]
    let items' : List Node := [.element "li" [] [.element "set" [("name", "x")] [.text "1"]],
      .element "li" [] [.element "random" [] []]]
    let bot : Interpreter := { index := Index.empty.insert (rule items) }
    let bot' : Interpreter := { index := Index.empty.insert (rule items') }
    let call : Call := .renderPattern "HI" "default" ""
    (RuleStore.ItemsVary bot.index bot'.index ∧ bot.options = bot'.options ∧
        bot.draws = bot'.draws ∧ call.ItemsVary call) ∧
      (bot.account call).deeds.map Deed.withoutValue =
        (bot'.account call).deeds.map Deed.withoutValue := by
  intro rule items items' bot bot' call
  have hitems : Node.AllItemsVary true items items' := .cons .item (.cons .item .nil)
  have hnode : (rule items).node.ItemsVary (rule items').node := by
    have hrandom : (Node.element "random" [] items).ItemsVary false (.element "random" [] items') :=
      .inside (by decide) hitems
    have hset : (Node.element "set" [("name", "mood")] [.element "random" [] items]).ItemsVary false
        (.element "set" [("name", "mood")] [.element "random" [] items']) :=
      .inside (by decide) (.cons hrandom .nil)
    exact .inside (by decide) (.cons (.inside (by decide) (.cons hset (.cons .srai .nil))) .nil)
  have hrules : RuleStore.ItemsVary bot.index bot'.index := by
    intro topic pattern
    show Option.Rel _ (Index.category? _ topic pattern) (Index.category? _ topic pattern)
    have hkey : (rule items).key = (rule items').key := rfl
    simp only [bot, bot', Index.category?_insert, Index.category?_empty, hkey]
    split
    · exact .some hnode
    · exact .none
  exact ⟨⟨hrules, rfl, rfl, .renderPattern⟩,
    (perform_ignores_items hrules rfl rfl .renderPattern .empty .empty).2.2.2⟩

end Interpreter

end Dialogue
