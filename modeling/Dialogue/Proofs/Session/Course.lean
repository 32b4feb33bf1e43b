import Dialogue.Proofs.Session.Rendering
import Dialogue.Session.Interpreter

/-!
# The course of a rendering

A course goes through a template step by step and changes the predicates in place: at the end of each
`<set>` element, and at no other moment. The renderer, which knows no predicates, computes exactly the
course from any predicates, and what it assigns are the `<set>` elements that the course completes.
-/

namespace Dialogue

open Markup (Node Element)

/-- What there is to render. -/
inductive Task where
  | node (node : Node)
  | nodes (nodes : List Node)
  | rule (node? : Option Element)

/-- What a course changes. -/
structure Scene where
  draws : Draws
  predicates : Predicates

/-- The scene after an assignment. -/
def Scene.set (s : Scene) (name value : String) : Scene :=
  { s with predicates := s.predicates.set name value }

mutual
/-- All elements of a tree, each before those inside it. -/
def Markup.Node.allElements : Node → List Element
  | .text _ => []
  | .element name attributes children =>
    ⟨name, attributes, children⟩ :: Markup.Node.allElementsOf children

/-- All elements of nodes one after another. -/
def Markup.Node.allElementsOf : List Node → List Element
  | [] => []
  | n :: ns => n.allElements ++ Markup.Node.allElementsOf ns
end

/-- All elements of what there is to render; of a rule, those of its response. -/
def Task.elements : Task → List Element
  | .node n => n.allElements
  | .nodes ns => Node.allElementsOf ns
  | .rule node? => ((node?.bind Category.template?).map (Node.allElementsOf ·.children)).getD []

namespace Task

theorem children_subset {name : String} {attributes : List (String × String)} {children : List Node} :
    (nodes children).elements ⊆ (node (.element name attributes children)).elements :=
  List.subset_cons_self _ _

theorem head_subset {n : Node} {ns : List Node} : (node n).elements ⊆ (nodes (n :: ns)).elements :=
  List.subset_append_left _ _

theorem tail_subset {n : Node} {ns : List Node} : (nodes ns).elements ⊆ (nodes (n :: ns)).elements :=
  List.subset_append_right _ _

theorem response_subset {e t : Element} (h : Category.template? e = some t) :
    (nodes t.children).elements ⊆ (rule (some e)).elements := by
  simp only [elements, Option.bind_some, h, Option.map_some, Option.getD_some]
  exact List.Subset.refl _

end Task

section
variable {σ : Type} [RuleStore σ] (store : σ) (options : Options)

/-- The course of a task inside `depth` rules that were entered by `<srai>`: the scene before it, its
text or fault, the scene after it, and what the `<set>` elements completed in it assign, in the order in
which they end. -/
inductive Course :
    Nat → Task → Scene → Except Error String → Scene → List (String × String) → Prop
  | nil {depth s} : Course depth (.nodes []) s (.ok "") s []
  | cons {depth n ns s s' s'' text r w w'} :
    Course depth (.node n) s (.ok text) s' w → Course depth (.nodes ns) s' r s'' w' →
      Course depth (.nodes (n :: ns)) s (r.map (text ++ ·)) s'' (w ++ w')
  | consFault {depth n ns s s' e w} :
    Course depth (.node n) s (.error e) s' w → Course depth (.nodes (n :: ns)) s (.error e) s' w
  | text {depth value s} : Course depth (.node (.text value)) s (.ok (tidyText value)) s []
  | template {depth attributes children s s' r w} :
    Course depth (.nodes children) s r s' w →
      Course depth (.node (.element "template" attributes children)) s r s' w
  | random {depth attributes children items s} :
    items = Element.elementsNamed { name := "random", attributes, children } "li" →
      Course depth (.node (.element "random" attributes children)) s
        (renderChoice (m := Rendering) items s.draws).result
        { s with draws := (renderChoice (m := Rendering) items s.draws).draws } []
  | think {depth attributes children s s' r w} :
    Course depth (.nodes children) s r s' w →
      Course depth (.node (.element "think" attributes children)) s (r.map fun _ => "") s' w
  | set {depth key name attributes children s s' value w} :
    Course depth (.nodes children) s (.ok value) s' w →
      Course depth (.node (.element "set" ((key, name) :: attributes) children)) s (.ok "")
        (s'.set name value) (w ++ [(name, value)])
  /-- A `<set>` whose children fail assigns nothing. -/
  | setFault {depth key name attributes children s s' e w} :
    Course depth (.nodes children) s (.error e) s' w →
      Course depth (.node (.element "set" ((key, name) :: attributes) children)) s (.error e) s' w
  | setUnnamed {depth children s} : Course depth (.node (.element "set" [] children)) s (.ok "") s []
  | sraiTooDeep {depth attributes children s} :
    options.maxSraiDepth < depth + 1 →
      Course depth (.node (.element "srai" attributes children)) s
        (.error (.tooDeep (depth + 1) options.maxSraiDepth)) s []
  | sraiUnknown {depth attributes children s} :
    depth + 1 ≤ options.maxSraiDepth →
      RuleStore.category? store options.defaultTopic (sraiTarget children) = none →
        Course depth (.node (.element "srai" attributes children)) s (.ok options.errorResponse) s []
  | srai {depth attributes children c s s' r w} :
    depth + 1 ≤ options.maxSraiDepth →
      RuleStore.category? store options.defaultTopic (sraiTarget children) = some c →
        Course (depth + 1) (.rule (some c.node)) s r s' w →
          Course depth (.node (.element "srai" attributes children)) s r s' w
  | unknown {depth name attributes children s} :
    name ∉ templateTags → Course depth (.node (.element name attributes children)) s (.ok "") s []
  | noRule {depth s} : Course depth (.rule none) s (.ok options.defaultResponse) s []
  | noTemplate {depth e s} :
    Category.template? e = none → Course depth (.rule (some e)) s (.ok options.defaultResponse) s []
  | rule {depth e t s s' r w} :
    Category.template? e = some t → Course depth (.nodes t.children) s r s' w →
      Course depth (.rule (some e)) s
        (r.map fun text => if text.isEmpty then options.defaultResponse else text) s' w

end

/-! ## The renderer computes the course -/

/-- The rendering of a task. -/
def Task.render {m : Type → Type} [Monad m] [Renderer m] (options : Options) (consult : String → m String) :
    Task → m String
  | .node n => renderNode consult n
  | .nodes ns => renderNodes consult ns
  | .rule node? => renderRule options consult node?

theorem Renderer.Relation.render {m m' : Type → Type} [Monad m] [Renderer m] [Monad m'] [Renderer m']
    (R : Renderer.Relation m m') {consult : String → m String} {consult' : String → m' String}
    (hc : ∀ target, R.rel (consult target) (consult' target)) (options : Options) (task : Task) :
    R.rel (task.render options consult) (task.render options consult') := by
  cases task with
  | node n => exact R.renderNode hc n
  | nodes ns => exact R.renderNodes hc ns
  | rule node? => exact R.renderRule hc options node?

section
variable {σ : Type} [RuleStore σ] (store : σ) (options : Options) {depth : Nat}

/-- The rules that templates may ask for inside `depth` rules: none from the limit on. -/
def consultAt (depth : Nat) : String → Rendering String :=
  if depth < options.maxSraiDepth then consult store options (options.maxSraiDepth - depth)
  else fun _ => .fail (.tooDeep (depth + 1) options.maxSraiDepth)

theorem consultAt_of_le (h : depth ≤ options.maxSraiDepth) :
    consultAt store options depth = consult store options (options.maxSraiDepth - depth) := by
  rw [consultAt]
  split
  · rfl
  · obtain rfl : depth = options.maxSraiDepth := by omega
    rw [Nat.sub_self]
    rfl

theorem consultAt_of_lt (h : depth < options.maxSraiDepth) (target : String) :
    consultAt store options depth target =
      match RuleStore.category? store options.defaultTopic target with
      | some c => renderRule options (consultAt store options (depth + 1)) (some c.node)
      | none => Pure.pure options.errorResponse := by
  have hleft : options.maxSraiDepth - depth = options.maxSraiDepth - (depth + 1) + 1 := by omega
  rw [consultAt_of_le store options h, consultAt_of_le store options (Nat.le_of_lt h), hleft]
  exact consult_succ ..

end

namespace Course

variable {σ : Type} [RuleStore σ] {store : σ} {options : Options} {depth : Nat} {task : Task}
  {s s' : Scene} {r : Except Error String} {w : List (String × String)}

/-- A course ends in what the renderer computes, and overwrites the predicates before it. -/
theorem soundAt (h : Course store options depth task s r s' w) :
    task.render options (consultAt store options depth) s.draws = ⟨r, s'.draws, w⟩ ∧
      s'.predicates = s.predicates.setAll w := by
  induction h with
  | nil => exact ⟨rfl, rfl⟩
  | cons _ _ ih ih' =>
      obtain ⟨h, hp⟩ := ih
      obtain ⟨h', hp'⟩ := ih'
      refine ⟨Rendering.bind_ok h (Rendering.bind_pure _ h'), ?_⟩
      rw [hp', hp, Predicates.setAll_append]
  | consFault _ ih =>
      obtain ⟨h, hp⟩ := ih
      exact ⟨Rendering.bind_error h, hp⟩
  | text => exact ⟨rfl, rfl⟩
  | template _ ih =>
      simp only [Task.render, renderNode_template]
      exact ih
  | random hi =>
      simp only [Task.render, renderNode_random, ← hi]
      exact ⟨renderChoice_eq _ _, rfl⟩
  | think _ ih =>
      obtain ⟨h, hp⟩ := ih
      simp only [Task.render, renderNode_think]
      exact ⟨Rendering.bind_pure _ h, hp⟩
  | set _ ih =>
      obtain ⟨h, hp⟩ := ih
      simp only [Task.render, renderNode_set]
      refine ⟨Rendering.bind_ok h rfl, ?_⟩
      simp only [Scene.set, hp, Predicates.setAll_concat]
  | setFault _ ih =>
      obtain ⟨h, hp⟩ := ih
      simp only [Task.render, renderNode_set]
      exact ⟨Rendering.bind_error h, hp⟩
  | setUnnamed =>
      simp only [Task.render, renderNode_setUnnamed]
      exact ⟨rfl, rfl⟩
  | sraiTooDeep hl =>
      simp only [Task.render, renderNode_srai, consultAt, if_neg (Nat.not_lt.mpr (Nat.le_of_lt_succ hl))]
      exact ⟨rfl, rfl⟩
  | sraiUnknown hl hc =>
      simp only [Task.render, renderNode_srai, consultAt_of_lt _ _ hl, hc]
      exact ⟨rfl, rfl⟩
  | srai hl hc _ ih =>
      simp only [Task.render, renderNode_srai, consultAt_of_lt _ _ hl, hc]
      exact ih
  | unknown hn =>
      simp only [Task.render, renderNode_unknown _ _ _ hn]
      exact ⟨rfl, rfl⟩
  | noRule => exact ⟨rfl, rfl⟩
  | noTemplate ht =>
      simp only [Task.render, renderRule, ht]
      exact ⟨rfl, rfl⟩
  | rule ht _ ih =>
      obtain ⟨h, hp⟩ := ih
      simp only [Task.render, renderRule, ht]
      exact ⟨Rendering.bind_pure _ h, hp⟩

theorem sound (h : Course store options depth task s r s' w) (hd : depth ≤ options.maxSraiDepth) :
    task.render options (consult store options (options.maxSraiDepth - depth)) s.draws =
        ⟨r, s'.draws, w⟩ ∧
      s'.predicates = s.predicates.setAll w :=
  consultAt_of_le store options hd ▸ h.soundAt

/-! ## Every task has a course -/

mutual
theorem ofNode (hr : depth + 1 ≤ options.maxSraiDepth →
    ∀ e s, ∃ r s' w, Course store options (depth + 1) (.rule (some e)) s r s' w) :
    (n : Node) → (s : Scene) → ∃ r s' w, Course store options depth (.node n) s r s' w
  | .text value, s => ⟨_, _, _, .text⟩
  | .element name attributes children, s => by
      obtain ⟨r, s', w, h⟩ := ofNodes hr children s
      cases ElementKind.of name attributes with
      | template => exact ⟨_, _, _, .template h⟩
      | random => exact ⟨_, _, _, .random rfl⟩
      | srai =>
          by_cases hl : depth + 1 ≤ options.maxSraiDepth
          · cases hc : RuleStore.category? store options.defaultTopic (sraiTarget children) with
            | none => exact ⟨_, _, _, .sraiUnknown hl hc⟩
            | some c =>
                obtain ⟨r, s', w, h⟩ := hr hl c.node s
                exact ⟨_, _, _, .srai hl hc h⟩
          · exact ⟨_, _, _, .sraiTooDeep (by omega)⟩
      | set =>
          cases r with
          | ok value => exact ⟨_, _, _, .set h⟩
          | error e => exact ⟨_, _, _, .setFault h⟩
      | setUnnamed => exact ⟨_, _, _, .setUnnamed⟩
      | think => exact ⟨_, _, _, .think h⟩
      | unknown ht => exact ⟨_, _, _, .unknown ht⟩

theorem ofNodes (hr : depth + 1 ≤ options.maxSraiDepth →
    ∀ e s, ∃ r s' w, Course store options (depth + 1) (.rule (some e)) s r s' w) :
    (ns : List Node) → (s : Scene) → ∃ r s' w, Course store options depth (.nodes ns) s r s' w
  | [], s => ⟨_, _, _, .nil⟩
  | n :: ns, s => by
      obtain ⟨r, s', w, h⟩ := ofNode hr n s
      cases r with
      | error e => exact ⟨_, _, _, .consFault h⟩
      | ok text =>
          obtain ⟨r', s'', w', h'⟩ := ofNodes hr ns s'
          exact ⟨_, _, _, .cons h h'⟩
end

theorem ofRule {depth : Nat} (e : Element) (s : Scene) :
    ∃ r s' w, Course store options depth (.rule (some e)) s r s' w := by
  cases ht : Category.template? e with
  | none => exact ⟨_, _, _, .noTemplate ht⟩
  | some t =>
      have hn : ∃ r s' w, Course store options depth (.nodes t.children) s r s' w :=
        ofNodes (fun _ e s => ofRule e s) t.children s
      obtain ⟨r, s', w, h⟩ := hn
      exact ⟨_, _, _, .rule ht h⟩
termination_by options.maxSraiDepth - depth

theorem ofTask (task : Task) (s : Scene) :
    ∃ r s' w, Course store options depth task s r s' w := by
  cases task with
  | node n => exact ofNode (fun _ e s => ofRule e s) n s
  | nodes ns => exact ofNodes (fun _ e s => ofRule e s) ns s
  | rule e? =>
      cases e? with
      | none => exact ⟨_, _, _, .noRule⟩
      | some e => exact ofRule e s

/-- There is one course of a task from a scene, and the renderer computes it without the predicates. -/
theorem iff_renderAt :
    Course store options depth task s r s' w ↔
      task.render options (consultAt store options depth) s.draws = ⟨r, s'.draws, w⟩ ∧
        s'.predicates = s.predicates.setAll w := by
  refine ⟨soundAt, ?_⟩
  rintro ⟨h, hp⟩
  obtain ⟨r₀, s₀, w₀, hc⟩ : ∃ r s' w, Course store options depth task s r s' w := ofTask task s
  obtain ⟨h₀, hp₀⟩ := hc.soundAt
  rw [h] at h₀
  obtain ⟨rfl, hdraws, rfl⟩ := Outcome.mk.inj h₀
  have hs : s' = s₀ := by
    cases s'
    cases s₀
    rw [Scene.mk.injEq]
    exact ⟨hdraws, hp.trans hp₀.symm⟩
  rw [hs]
  exact hc

theorem iff_render (hd : depth ≤ options.maxSraiDepth) :
    Course store options depth task s r s' w ↔
      task.render options (consult store options (options.maxSraiDepth - depth)) s.draws =
          ⟨r, s'.draws, w⟩ ∧
        s'.predicates = s.predicates.setAll w :=
  consultAt_of_le store options hd ▸ iff_renderAt

end Course

end Dialogue
