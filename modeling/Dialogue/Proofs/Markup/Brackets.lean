import Dialogue.Proofs.Markup.RoundTrip

/-!
# The tags of a tree in their order

A reading writes down the tags of its tree from the first to the last and takes none back, so a reading that
differs from a tree in one tag does not give that tree.
-/

namespace Dialogue.Markup

/-- The beginning or the end of an element. -/
inductive Bracket where
  | opens (name : String) (attributes : List (String × String))
  | closes
deriving DecidableEq, Repr

mutual
/-- The tags of a node, from the first to the last. -/
def Node.brackets : Node → List Bracket
  | .text _ => []
  | .element name attributes children =>
    .opens name attributes :: (Node.allBrackets children ++ [.closes])

/-- The tags of nodes one after another. -/
def Node.allBrackets : List Node → List Bracket
  | [] => []
  | node :: nodes => node.brackets ++ Node.allBrackets nodes
end

theorem allBrackets_append (nodes nodes' : List Node) :
    Node.allBrackets (nodes ++ nodes') = Node.allBrackets nodes ++ Node.allBrackets nodes' := by
  induction nodes with
  | nil => rfl
  | cons node nodes ih =>
      rw [List.cons_append, Node.allBrackets, ih, Node.allBrackets, List.append_assoc]

theorem allBrackets_joinText (value : String) (nodes : List Node) :
    Node.allBrackets (joinText value nodes) = Node.allBrackets nodes := by
  match nodes with
  | .text next :: nodes => rfl
  | [] | .element .. :: _ =>
      by_cases hv : value = ""
      · simp only [joinText, hv, if_true]
      · simp only [joinText, hv, if_false]
        rfl

theorem allBrackets_normalAll : (nodes : List Node) →
    Node.allBrackets (Node.normalAll nodes) = Node.allBrackets nodes
  | [] => rfl
  | .text value :: nodes => by
      rw [Node.normalAll, allBrackets_joinText, allBrackets_normalAll nodes]
      rfl
  | .element name attributes children :: nodes => by
      simp only [Node.normalAll, Node.normal, Node.allBrackets, Node.brackets,
        allBrackets_normalAll children, allBrackets_normalAll nodes]

theorem allBrackets_addText (value : String) (nodes : List Node) :
    Node.allBrackets (Draft.addText value nodes).reverse = Node.allBrackets nodes.reverse := by
  have htext (node : Node) (hn : node.isText) (nodes : List Node) :
      Node.allBrackets (node :: nodes).reverse = Node.allBrackets nodes.reverse := by
    cases node with
    | text value => simp [allBrackets_append, Node.allBrackets, Node.brackets]
    | element => cases hn
  by_cases hv : value = ""
  · rw [hv, Draft.addText_empty]
  · match nodes with
    | .text last :: nodes =>
        simp only [Draft.addText, hv, if_false]
        rw [htext _ rfl, htext _ rfl]
    | [] | .element .. :: _ =>
        simp only [Draft.addText, hv, if_false]
        exact htext _ rfl _

/-! ## The brackets of a draft -/

/-- The brackets of an open element so far; its children are latest first. -/
def Element.openBrackets (e : Element) : List Bracket :=
  .opens e.name e.attributes :: Node.allBrackets e.children.reverse

/-- The tags that a draft has taken: those of the root, and those of the open elements so far. -/
def Draft.brackets (d : Draft) : List Bracket :=
  (d.root?.elim [] fun root => root.toNode.brackets) ++ d.opened.reverse.flatMap Element.openBrackets

/-- The brackets that an event adds. -/
def Event.brackets : Event → Except Fault (List Bracket)
  | .opening tag => do
    let e ← Draft.elementOf tag
    .ok [.opens e.name e.attributes]
  | .empty tag => do
    let e ← Draft.elementOf tag
    .ok [.opens e.name e.attributes, .closes]
  | .closing _ => .ok [.closes]
  | _ => .ok []

namespace Draft

theorem brackets_open (d : Draft) (e : Element) :
    brackets { d with opened := e :: d.opened } = d.brackets ++ e.openBrackets := by
  simp [brackets]

theorem brackets_attach {d d' : Draft} {e : Element} (h : d.attach e = .ok d') :
    d'.brackets = d.brackets ++ e.toNode.brackets := by
  obtain ⟨_ | ⟨parent, opened⟩, root?⟩ := d
  · cases root? with
    | none =>
        cases h
        simp [brackets]
    | some root => cases h
  · cases h
    simp [brackets, Element.openBrackets, allBrackets_append, Node.allBrackets]

theorem brackets_write (d : Draft) (value : String) : (d.write value).brackets = d.brackets := by
  obtain ⟨_ | ⟨parent, opened⟩, root?⟩ := d
  · rfl
  · simp [write, brackets, Element.openBrackets, allBrackets_addText]

theorem brackets_close {d d' : Draft} {name : String} (h : d.close name = .ok d') :
    d'.brackets = d.brackets ++ [.closes] := by
  obtain ⟨_ | ⟨e, opened⟩, root?⟩ := d
  · cases h
  · simp only [close] at h
    split at h
    · have hopen := brackets_open { opened, root? } e
      rw [brackets_attach h, hopen, List.append_assoc]
      rfl
    · cases h

/-- A step adds the brackets of its event. -/
theorem brackets_step {d d' : Draft} {event : Event} (h : d.step event = .ok d') :
    ∃ added, event.brackets = .ok added ∧ d'.brackets = d.brackets ++ added := by
  cases event with
  | opening tag =>
      obtain ⟨e, he, hd⟩ := exists_of_bind_eq_ok h
      cases hd
      refine ⟨[.opens e.name e.attributes], by rw [Event.brackets, he]; rfl, ?_⟩
      rw [brackets_open, Element.openBrackets, (elementOf_eq_ok he).2.2]
      rfl
  | empty tag =>
      obtain ⟨e, he, hd⟩ := exists_of_bind_eq_ok h
      refine ⟨[.opens e.name e.attributes, .closes], by rw [Event.brackets, he]; rfl, ?_⟩
      rw [brackets_attach hd, Element.toNode, (elementOf_eq_ok he).2.2]
      rfl
  | closing name => exact ⟨[.closes], rfl, brackets_close h⟩
  | text raw =>
      refine ⟨[], rfl, ?_⟩
      rw [List.append_nil]
      rw [step] at h
      split at h
      · cases h
        rfl
      · obtain ⟨cs, _, hd⟩ := exists_of_bind_eq_ok h
        cases hd
        exact brackets_write d _
  | cdata content =>
      cases h
      exact ⟨[], rfl, by rw [List.append_nil, brackets_write]⟩
  | aside =>
      cases h
      exact ⟨[], rfl, (List.append_nil _).symm⟩

theorem brackets_finish {d : Draft} {e : Element} (h : d.finish = .ok e) :
    d.brackets = e.toNode.brackets := by
  obtain ⟨_ | ⟨parent, opened⟩, _ | root⟩ := d
  · cases h
  · cases h
    simp [brackets]
  · cases h
  · cases h

end Draft

/-! ## The brackets of a reading -/

theorem Reading.exists_step_of_treeFrom {d : Draft} {e : Element} {event : Event} {r : Reading}
    (h : (r.cons event).treeFrom d = .ok e) : ∃ d', d.step event = .ok d' ∧ r.treeFrom d' = .ok e := by
  obtain ⟨last, hsteps, hlast⟩ := exists_of_bind_eq_ok h
  simp only [Reading.cons, List.foldlM_cons] at hsteps
  obtain ⟨d', hstep, _⟩ := exists_of_bind_eq_ok hsteps
  rw [Reading.treeFrom_cons hstep] at h
  exact ⟨d', hstep, h⟩

/-- The tree of a reading begins with the brackets that are there before. -/
theorem brackets_of_treeFrom {d : Draft} {e : Element} {r : Reading} (h : r.treeFrom d = .ok e) :
    d.brackets <+: e.toNode.brackets := by
  obtain ⟨events, fault?⟩ := r
  induction events generalizing d with
  | nil =>
      cases fault? with
      | none => exact (Draft.brackets_finish h).symm ▸ List.prefix_rfl
      | some fault => cases h
  | cons event events ih =>
      obtain ⟨d', hstep, hrest⟩ := Reading.exists_step_of_treeFrom (r := ⟨events, fault?⟩) h
      obtain ⟨added, _, hadded⟩ := Draft.brackets_step hstep
      have hrest := ih hrest
      rw [hadded] at hrest
      exact (List.prefix_append _ _).trans hrest

/-- Markup that is read into a tree is one event, and its brackets come next in the tree. -/
theorem brackets_of_markup {names : List (List Char)} {cs : List Char} {d : Draft} {e : Element}
    (h : (readEvents names ('<' :: cs)).treeFrom d = .ok e) :
    ∃ event rest added, readMarkup cs = .ok (event, rest) ∧ event.brackets = .ok added ∧
      d.brackets ++ added <+: e.toNode.brackets := by
  cases hm : readMarkup cs with
  | error fault =>
      rw [readEvents_unreadable hm] at h
      cases h
  | ok r =>
      obtain ⟨event, rest⟩ := r
      cases ho : trackOpen names event with
      | error fault =>
          rw [readEvents_misplaced hm ho] at h
          cases h
      | ok names' =>
          rw [readEvents_markup hm ho] at h
          obtain ⟨d', hstep, hrest⟩ := Reading.exists_step_of_treeFrom h
          obtain ⟨added, hevent, hadded⟩ := Draft.brackets_step hstep
          have hbegins := brackets_of_treeFrom hrest
          rw [hadded] at hbegins
          exact ⟨event, rest, added, rfl, hevent, hbegins⟩

end Dialogue.Markup
