import Mathlib.Logic.Relation
import Dialogue.Proofs.Session.Overwriting

/-!
# Parts of a template that make no difference

A template inside a template stands for its children. Elements of unknown names and `<set>` elements without
a name render to nothing, whatever is in them, and the text in a `<think>` element is told to nobody. Where
children are rendered, such parts may come and go: nothing that is rendered shows it.
-/

namespace Dialogue

open Markup (Node Element)

/-- Elements that render to nothing, and whose children are not rendered. -/
inductive Markup.Node.Inert : Node → Prop
  | unknown {name attributes children} :
    name ∉ templateTags → Inert (.element name attributes children)
  | setUnnamed {children} : Inert (.element "set" [] children)

/-- The elements that render their children. -/
inductive RendersChildren : String → List (String × String) → Prop
  | template {attributes} : RendersChildren "template" attributes
  | set {key name attributes} : RendersChildren "set" ((key, name) :: attributes)
  | think {attributes} : RendersChildren "think" attributes

/-- One change to nodes that are rendered one after another, at some place among them or inside them.
Whether they are the children of a `<think>` element decides about text. -/
inductive InertChange : (inThink : Bool) → List Node → List Node → Prop
  | unwrap {inThink before attributes children after} :
    InertChange inThink (before ++ .element "template" attributes children :: after)
      (before ++ children ++ after)
  | drop {inThink before n after} :
    n.Inert → InertChange inThink (before ++ n :: after) (before ++ after)
  | dropText {before value after} :
    InertChange true (before ++ .text value :: after) (before ++ after)
  | inside {inThink before name attributes children children' after} :
    RendersChildren name attributes → InertChange (name = "think") children children' →
      InertChange inThink (before ++ .element name attributes children :: after)
        (before ++ .element name attributes children' :: after)

/-- Templates that differ in any number of changes, made or undone. -/
def Markup.Element.InertlyEqual (template template' : Element) : Prop :=
  Relation.EqvGen (InertChange false) template.children template'.children

/-! ## Changes and renderings -/

/-- What a rendering tells: nothing of its text if it stands in a `<think>` element. -/
def Rendering.told (inThink : Bool) (m : Rendering String) : Rendering String :=
  if inThink then m >>= fun _ => Pure.pure "" else m

section
variable (consult : String → Rendering String)

theorem renderNode_of_inert {n : Node} (h : n.Inert) : renderNode consult n = Pure.pure "" := by
  cases h with
  | unknown hname => exact renderNode_unknown consult _ _ hname
  | setUnnamed => exact renderNode_setUnnamed consult _

theorem renderNodes_unwrap (before : List Node) (attributes : List (String × String))
    (children after : List Node) :
    renderNodes consult (before ++ .element "template" attributes children :: after) =
      renderNodes consult (before ++ children ++ after) := by
  rw [List.append_assoc, renderNodes_append, renderNodes_append, renderNodes_append,
    renderNodes_cons, renderNode_template]

theorem renderNodes_drop {n : Node} (h : renderNode consult n = Pure.pure "")
    (before after : List Node) :
    renderNodes consult (before ++ n :: after) = renderNodes consult (before ++ after) := by
  rw [renderNodes_append, renderNodes_append, renderNodes_cons, h]
  simp only [pure_bind, String.empty_append, bind_pure]

theorem told_renderNodes_dropText (before : List Node) (value : String) (after : List Node) :
    (renderNodes consult (before ++ .text value :: after)).told true =
      (renderNodes consult (before ++ after)).told true := by
  simp only [Rendering.told, if_true, renderNodes_append, renderNodes_cons, renderNode, bind_assoc,
    pure_bind]

theorem renderNodes_replace {n n' : Node} (h : renderNode consult n = renderNode consult n')
    (before after : List Node) :
    renderNodes consult (before ++ n :: after) = renderNodes consult (before ++ n' :: after) := by
  rw [renderNodes_append, renderNodes_append, renderNodes_cons, renderNodes_cons, h]

/-- Nodes that tell the same stand for each other as children of an element. -/
theorem renderNode_of_told {name : String} {attributes : List (String × String)}
    {children children' : List Node} (hname : RendersChildren name attributes)
    (h : (renderNodes consult children).told (name = "think") =
      (renderNodes consult children').told (name = "think")) :
    renderNode consult (.element name attributes children) =
      renderNode consult (.element name attributes children') := by
  cases hname with
  | template =>
      rw [renderNode_template, renderNode_template]
      exact h
  | set =>
      replace h : renderNodes consult children = renderNodes consult children' := h
      rw [renderNode_set, renderNode_set, h]
  | think =>
      rw [renderNode_think, renderNode_think]
      exact h

/-- A change is not told. -/
theorem InertChange.told_eq {inThink : Bool} {ns ns' : List Node} (h : InertChange inThink ns ns') :
    (renderNodes consult ns).told inThink = (renderNodes consult ns').told inThink := by
  -- On where the change is: text may go only if the nearest element around it tells none.
  induction h with
  | unwrap => rw [renderNodes_unwrap]
  | drop hn => rw [renderNodes_drop consult (renderNode_of_inert consult hn)]
  | dropText => exact told_renderNodes_dropText consult _ _ _
  | inside hname _ ih => rw [renderNodes_replace consult (renderNode_of_told consult hname ih)]

theorem renderNodes_of_eqvGen {ns ns' : List Node}
    (h : Relation.EqvGen (InertChange false) ns ns') :
    renderNodes consult ns = renderNodes consult ns' := by
  induction h with
  | rel _ _ h => exact h.told_eq consult
  | refl => rfl
  | symm _ _ _ ih => exact ih.symm
  | trans _ _ _ _ _ ih ih' => exact ih.trans ih'

end

/-! ## Courses and calls -/

namespace Interpreter

variable {σ : Type} [RuleStore σ]

/-- Inertly equal templates have the same courses, inside any number of rules and from every scene, and a
call that renders one of them does all that it does with the other. -/
theorem renderTemplate_inertlyEqual {template template' : Element}
    (h : template.InertlyEqual template') :
    (∀ (store : σ) (options : Options) (depth : Nat) (s s' : Scene) (r : Except Error String)
        (w : List (String × String)),
      Course store options depth (.nodes template.children) s r s' w ↔
        Course store options depth (.nodes template'.children) s r s' w) ∧
      ∀ (bot : Interpreter σ) (predicates : Predicates),
        bot.perform predicates (.renderTemplate template) =
          bot.perform predicates (.renderTemplate template') := by
  have hrender (consult : String → Rendering String) :
      renderNodes consult template.children = renderNodes consult template'.children :=
    renderNodes_of_eqvGen consult h
  constructor
  · intro store options depth s s' r w
    rw [Course.iff_renderAt, Course.iff_renderAt]
    simp only [Task.render, hrender]
  · intro bot predicates
    simp only [Interpreter.perform, Interpreter.renderTemplate, Dialogue.renderTemplate, hrender]

/-- A nested template that thinks aloud, a tag without meaning and a `<set>` without a name: of all this only
the `<set>` with a name is left. -/
theorem renderTemplate_inertlyEqual_mood :
    let mood : Node := .element "set" [("name", "mood")] [.text "fine"]
    let template : Element := { name := "template", children := [
      .text "Hi",
      .element "template" [] [.text " there", .element "think" [] [.text "secret", mood]],
      .element "bot" [("name", "x")] [.element "set" [("name", "mood")] [.text "bad"]],
      .element "set" [] [.element "srai" [] [.text "LOOP"]]] }
    let template' : Element := { name := "template", children := [
      .text "Hi", .text " there", .element "think" [] [mood]] }
    let bot : Interpreter := { index := .empty }
    template.InertlyEqual template' ∧
      bot.perform .empty (.renderTemplate template) = bot.perform .empty (.renderTemplate template') ∧
      (bot.perform .empty (.renderTemplate template)).result = .ok (.text "Hi there") ∧
      (bot.perform .empty (.renderTemplate template)).predicates =
        Predicates.empty.setAll [("mood", "fine")] := by
  intro mood template template' bot
  have hequal : template.InertlyEqual template' := by
    have hbot : Node.Inert (.element "bot" [("name", "x")]
        [.element "set" [("name", "mood")] [.text "bad"]]) := .unknown (by decide)
    refine .trans _ _ _ (.rel _ _ (@InertChange.unwrap _ [_] _ _ _)) ?_
    refine .trans _ _ _ (.rel _ _ (@InertChange.drop _ [_, _, _] _ _ hbot)) ?_
    refine .trans _ _ _ (.rel _ _ (@InertChange.drop _ [_, _, _] _ _ .setUnnamed)) ?_
    exact .rel _ _ (@InertChange.inside _ [_, _] _ _ _ _ _ .think (@InertChange.dropText [] _ _))
  exact ⟨hequal, (renderTemplate_inertlyEqual hequal).2 bot .empty, rfl, rfl⟩

end Interpreter

end Dialogue
