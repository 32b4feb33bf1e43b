import Dialogue.Session.Rendering

/-!
# Renderings, step by step

How the end of a rendering follows from the ends of its parts, what a node renders to by its tag, and what
nodes one after another render to. The last two are the same for every renderer, and a relation between two
renderers that every step keeps holds between all that they render.
-/

namespace Dialogue

open Markup (Node Element)

namespace Rendering

variable {α β γ : Type} {m : Rendering α} {d d' d'' : Draws} {a : α} {e : Error}
  {w w' : List (String × String)}

theorem bind_ok {f : α → Rendering β} {r : Except Error β} (h : m d = ⟨.ok a, d', w⟩)
    (hf : f a d' = ⟨r, d'', w'⟩) : (m >>= f) d = ⟨r, d'', w ++ w'⟩ := by
  show Rendering.bind m f d = _
  simp only [Rendering.bind, h, hf]

theorem bind_error {f : α → Rendering β} (h : m d = ⟨.error e, d', w⟩) :
    (m >>= f) d = ⟨.error e, d', w⟩ := by
  show Rendering.bind m f d = _
  simp only [Rendering.bind, h]

/-- A step that only changes the value keeps the stream and the assignments. -/
theorem bind_pure {r : Except Error α} (f : α → β) (h : m d = ⟨r, d', w⟩) :
    (m >>= fun a => Pure.pure (f a)) d = ⟨r.map f, d', w⟩ := by
  cases r with
  | error e => exact bind_error h
  | ok a =>
      have hb : (m >>= fun a => Pure.pure (f a)) d = ⟨.ok (f a), d', w ++ []⟩ := bind_ok h rfl
      rw [List.append_nil] at hb
      exact hb

theorem bind_return (m : Rendering α) : (m >>= Pure.pure) = m := by
  funext d
  rcases h : m d with ⟨r, d', w⟩
  cases r with
  | error e => exact bind_error h
  | ok a => exact (bind_ok h rfl).trans (by rw [List.append_nil])

theorem bind_bind (m : Rendering α) (f : α → Rendering β) (g : β → Rendering γ) :
    (m >>= f >>= g) = m >>= fun a => f a >>= g := by
  funext d
  rcases h : m d with ⟨r, d₁, w⟩
  cases r with
  | error e => rw [bind_error h, bind_error (bind_error h)]
  | ok a =>
      rcases hf : f a d₁ with ⟨r, d₂, w₂⟩
      cases r with
      | error e => rw [bind_error (bind_ok h hf), bind_ok h (bind_error hf)]
      | ok b =>
          rcases hg : g b d₂ with ⟨r, d₃, w₃⟩
          rw [bind_ok (bind_ok h hf) hg, bind_ok h (bind_ok hf hg), List.append_assoc]

instance : LawfulMonad Rendering :=
  LawfulMonad.mk' Rendering bind_return (fun _ _ => rfl) bind_bind

end Rendering

/-- A choice assigns nothing. -/
theorem renderChoice_eq (candidates : List Element) (d : Draws) :
    renderChoice (m := Rendering) candidates d =
      ⟨(renderChoice (m := Rendering) candidates d).result,
        (renderChoice (m := Rendering) candidates d).draws, []⟩ := by
  cases candidates <;> rfl

/-! ## Nodes by their tags -/

/-- The tags that mean something in a template. -/
def templateTags : List String :=
  ["template", "random", "srai", "set", "think"]

/-- The kinds of elements that a template renders differently, by name and attributes. -/
inductive ElementKind : String → List (String × String) → Prop
  | template {attributes} : ElementKind "template" attributes
  | random {attributes} : ElementKind "random" attributes
  | srai {attributes} : ElementKind "srai" attributes
  | set {key name attributes} : ElementKind "set" ((key, name) :: attributes)
  | setUnnamed : ElementKind "set" []
  | think {attributes} : ElementKind "think" attributes
  | unknown {name attributes} : name ∉ templateTags → ElementKind name attributes

/-- Every element is of one of the kinds. -/
theorem ElementKind.of (name : String) (attributes : List (String × String)) :
    ElementKind name attributes := by
  by_cases ht : name ∈ templateTags
  · simp only [templateTags, List.mem_cons, List.not_mem_nil, or_false] at ht
    rcases ht with rfl | rfl | rfl | rfl | rfl
    · exact .template
    · exact .random
    · exact .srai
    · cases attributes with
      | nil => exact .setUnnamed
      | cons a attributes => exact .set
    · exact .think
  · exact .unknown ht

section
variable {m : Type → Type} [Monad m] [Renderer m] (consult : String → m String)
  (attributes : List (String × String)) (children : List Node)

theorem renderNode_template :
    renderNode consult (.element "template" attributes children) = renderNodes consult children := by
  simp [renderNode]

theorem renderNode_random :
    renderNode consult (.element "random" attributes children) =
      renderChoice (Element.elementsNamed { name := "random", attributes, children } "li") := by
  simp [renderNode]

theorem renderNode_srai :
    renderNode consult (.element "srai" attributes children) = consult (sraiTarget children) := by
  simp [renderNode]

theorem renderNode_set (key name : String) :
    renderNode consult (.element "set" ((key, name) :: attributes) children) =
      renderNodes consult children >>= fun value =>
        Renderer.assign name value >>= fun _ => Pure.pure "" := by
  simp [renderNode]

theorem renderNode_setUnnamed :
    renderNode consult (.element "set" [] children) = Pure.pure "" := by
  simp [renderNode]

theorem renderNode_think :
    renderNode consult (.element "think" attributes children) =
      renderNodes consult children >>= fun _ => Pure.pure "" := by
  simp [renderNode]

theorem renderNode_unknown {name : String} (h : name ∉ templateTags) :
    renderNode consult (.element name attributes children) = Pure.pure "" := by
  simp only [templateTags, List.mem_cons, List.not_mem_nil, or_false, not_or] at h
  obtain ⟨ht, hr, hs, hset, hth⟩ := h
  cases attributes <;> simp only [renderNode, ht, hr, hs, hset, hth, if_false]

end

/-! ## Nodes one after another -/

section
variable {m : Type → Type} [Monad m] [Renderer m] (consult : String → m String)

theorem renderNodes_cons (n : Node) (ns : List Node) :
    renderNodes consult (n :: ns) =
      renderNode consult n >>= fun first =>
        renderNodes consult ns >>= fun rest => Pure.pure (first ++ rest) := by
  rw [renderNodes]

theorem renderNodes_append [LawfulMonad m] (ns ms : List Node) :
    renderNodes consult (ns ++ ms) =
      renderNodes consult ns >>= fun first =>
        renderNodes consult ms >>= fun rest => Pure.pure (first ++ rest) := by
  induction ns with
  | nil =>
      rw [List.nil_append, renderNodes, pure_bind]
      simp only [String.empty_append, bind_pure]
  | cons n ns ih =>
      simp only [List.cons_append, renderNodes_cons, ih, bind_assoc, pure_bind, String.append_assoc]

end

/-! ## Rules that templates ask for -/

/-- The options with another limit. -/
def Options.withLimit (options : Options) (limit : Nat) : Options :=
  { options with maxSraiDepth := limit }

section
variable {σ : Type} [RuleStore σ] (store : σ) (options : Options) (target : String)

/-- The rendering that runs looks a rule up and leaves no trace of it. -/
theorem consult_succ (remaining : Nat) :
    consult store options (remaining + 1) target =
      match RuleStore.category? store options.defaultTopic target with
      | some c => renderRule options (consult store options remaining) (some c.node)
      | none => Pure.pure options.errorResponse :=
  pure_bind _ _

end

/-! ## Two renderers beside each other -/

/-- A relation between what two renderers do that is kept by every step of a rendering. -/
structure Renderer.Relation (m m' : Type → Type) [Monad m] [Renderer m] [Monad m'] [Renderer m'] where
  rel {α : Type} : m α → m' α → Prop
  pure {α : Type} (a : α) : rel (Pure.pure a) (Pure.pure a)
  bind {α β : Type} {x : m α} {x' : m' α} {f : α → m β} {f' : α → m' β} :
    rel x x' → (∀ a, rel (f a) (f' a)) → rel (x >>= f) (x' >>= f')
  -- The one fault that a node ends in by itself; how deep rules may go is up to what is consulted.
  emptyChoice : rel (Renderer.fail .emptyChoice : m String) (Renderer.fail .emptyChoice)
  choose (n : Nat) : rel (Renderer.choose n) (Renderer.choose n)
  lookup (rules : String → Option Category) (target : String) :
    rel (Renderer.lookup rules target) (Renderer.lookup rules target)
  assign (name value : String) : rel (Renderer.assign name value) (Renderer.assign name value)

namespace Renderer.Relation

variable {m m' : Type → Type} [Monad m] [Renderer m] [Monad m'] [Renderer m']
  (R : Renderer.Relation m m') {consult : String → m String} {consult' : String → m' String}

theorem renderChoice (candidates : List Element) :
    R.rel (Dialogue.renderChoice candidates) (Dialogue.renderChoice candidates) := by
  cases candidates with
  | nil => exact R.emptyChoice
  | cons c cs => exact R.bind (R.choose _) fun _ => R.pure _

mutual
theorem renderNode (hc : ∀ target, R.rel (consult target) (consult' target)) :
    (n : Node) → R.rel (Dialogue.renderNode consult n) (Dialogue.renderNode consult' n)
  | .text value => R.pure (tidyText value)
  | .element name attributes children => by
      have hn := renderNodes hc children
      cases ElementKind.of name attributes with
      | template =>
          rw [renderNode_template, renderNode_template]
          exact hn
      | random =>
          rw [renderNode_random, renderNode_random]
          exact R.renderChoice _
      | srai =>
          rw [renderNode_srai, renderNode_srai]
          exact hc (sraiTarget children)
      | set =>
          rw [renderNode_set, renderNode_set]
          exact R.bind hn fun value => R.bind (R.assign _ value) fun _ => R.pure ""
      | setUnnamed =>
          rw [renderNode_setUnnamed, renderNode_setUnnamed]
          exact R.pure ""
      | think =>
          rw [renderNode_think, renderNode_think]
          exact R.bind hn fun _ => R.pure ""
      | unknown ht =>
          rw [renderNode_unknown _ _ _ ht, renderNode_unknown _ _ _ ht]
          exact R.pure ""

theorem renderNodes (hc : ∀ target, R.rel (consult target) (consult' target)) :
    (ns : List Node) → R.rel (Dialogue.renderNodes consult ns) (Dialogue.renderNodes consult' ns)
  | [] => R.pure ""
  | n :: ns => by
      have hn := renderNode hc n
      have hns := renderNodes hc ns
      exact R.bind hn fun first => R.bind hns fun rest => R.pure (first ++ rest)
end

theorem renderRule (hc : ∀ target, R.rel (consult target) (consult' target)) (options : Options)
    (node? : Option Element) :
    R.rel (Dialogue.renderRule options consult node?) (Dialogue.renderRule options consult' node?) := by
  cases node? with
  | none => exact R.pure options.defaultResponse
  | some e =>
      rw [Dialogue.renderRule, Dialogue.renderRule]
      cases Category.template? e with
      | none => exact R.pure options.defaultResponse
      | some t => exact R.bind (R.renderNodes hc t.children) fun _ => R.pure _

/-- Entering a rule is a step as well. The limits may differ, and so may what is left of them. -/
theorem consult_succ {σ : Type} [RuleStore σ] (store : σ) (options : Options)
    {limit limit' remaining remaining' : Nat}
    (hc : ∀ target, R.rel (Renderer.consult m store (options.withLimit limit) remaining target)
      (Renderer.consult m' store (options.withLimit limit') remaining' target)) (target : String) :
    R.rel (Renderer.consult m store (options.withLimit limit) (remaining + 1) target)
      (Renderer.consult m' store (options.withLimit limit') (remaining' + 1) target) := by
  rw [Renderer.consult, Renderer.consult]
  refine R.bind (R.lookup _ target) fun c? => ?_
  cases c? with
  | none => exact R.pure options.errorResponse
  | some c => exact R.renderRule hc options (some c.node)

end Renderer.Relation

end Dialogue
