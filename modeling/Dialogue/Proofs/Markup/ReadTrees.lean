import Dialogue.Proofs.Markup.ReadTags
import Dialogue.Proofs.Markup.RoundTrip

/-!
# What reading gives: trees

Every element of a tree that was read has a name and keys such as tags can have. No text is empty or stands
next to another.
-/

namespace Dialogue.Markup

/-- Every tag in the node is one that can be read; the name of an element with children stands in a closing
tag too. -/
inductive Node.IsRead : Node → Prop
  | text (value : String) : Node.IsRead (.text value)
  | element {name : String} {attributes : List (String × String)} {children : List Node} :
    IsTag name attributes → (children ≠ [] → closesQuotes none name.toList) →
      (∀ node ∈ children, node.IsRead) → Node.IsRead (.element name attributes children)

/-! ## Texts in a list of nodes -/

theorem areNormal_append (nodes nodes' : List Node) :
    Node.areNormal (nodes ++ nodes') = (Node.areNormal nodes && Node.areNormal nodes' &&
      !(nodes.getLast?.any Node.isText && nodes'.head?.any Node.isText)) := by
  induction nodes with
  | nil => simp [Node.areNormal]
  | cons node nodes ih =>
      cases nodes with
      | nil =>
          simp only [List.singleton_append, Node.areNormal, List.head?_nil, Option.any_none,
            List.getLast?_singleton, Option.any_some, Bool.and_false, Bool.not_false, Bool.and_true]
          ac_rfl
      | cons next nodes =>
          have hcons (more : List Node) : Node.areNormal (node :: next :: more) =
              (node.isNormal && !(node.isText && next.isText) && Node.areNormal (next :: more)) := rfl
          rw [List.cons_append] at ih
          rw [List.cons_append, List.cons_append, hcons, ih, hcons, List.getLast?_cons_cons]
          ac_rfl

theorem areNormal_reverse (nodes : List Node) : Node.areNormal nodes.reverse = Node.areNormal nodes := by
  induction nodes with
  | nil => rfl
  | cons node nodes ih =>
      rw [List.reverse_cons, areNormal_append, ih, List.getLast?_reverse]
      simp only [Node.areNormal, List.head?_cons, List.head?_nil, Option.any_none, Option.any_some,
        Bool.and_false, Bool.not_false, Bool.and_true]
      rw [Bool.and_comm (Node.areNormal nodes), Bool.and_right_comm, Bool.and_comm node.isText]

theorem areNormal_addText (value : String) {nodes : List Node} (h : Node.areNormal nodes) :
    Node.areNormal (Draft.addText value nodes) := by
  by_cases hv : value = ""
  · rw [hv, Draft.addText_empty]
    exact h
  · match nodes with
    | [] => simp [Draft.addText, hv, Node.areNormal, Node.isNormal]
    | .text last :: nodes =>
        simp only [Node.areNormal, Node.isNormal, Bool.and_eq_true, decide_eq_true_eq] at h
        have hjoined : last ++ value ≠ "" := fun he => h.1.1 (String.append_eq_empty_iff.mp he).1
        simp only [Draft.addText, hv, if_false, Node.areNormal, Node.isNormal, Bool.and_eq_true,
          decide_eq_true_eq]
        exact ⟨⟨hjoined, h.1.2⟩, h.2⟩
    | .element .. :: _ =>
        simpa [Draft.addText, hv, Node.areNormal, Node.isNormal, Node.isText] using h

/-! ## Building what is read -/

/-- What holds of an open element, whose children are latest first. -/
structure Element.IsGathered (e : Element) : Prop where
  tag : IsTag e.name e.attributes
  nodes : ∀ node ∈ e.children, node.IsRead
  normal : Node.areNormal e.children

/-- What holds of a finished element. -/
structure Element.IsRead (e : Element) : Prop where
  node : e.toNode.IsRead
  normal : Node.areNormal e.children

/-- What holds of a draft: its open elements are gathered, and a root that it has is read. -/
structure Draft.IsRead (d : Draft) : Prop where
  opened : ∀ e ∈ d.opened, e.IsGathered
  root : ∀ e ∈ d.root?, e.IsRead

namespace Draft

theorem IsRead.attach {d d' : Draft} {e : Element} (h : d.IsRead) (he : e.IsRead)
    (hd : d.attach e = .ok d') : d'.IsRead := by
  obtain ⟨_ | ⟨parent, opened⟩, root?⟩ := d
  · cases root? with
    | some root => cases hd
    | none =>
        cases hd
        exact ⟨h.opened, fun _ hroot => Option.some.inj hroot ▸ he⟩
  · cases hd
    obtain ⟨hparent, hopened⟩ := List.forall_mem_cons.mp h.opened
    have hnormal : Node.areNormal (e.toNode :: parent.children) := by
      simp [Node.areNormal, Node.isNormal, Node.isText, Element.toNode, he.normal, hparent.normal]
    have hgathered : Element.IsGathered { parent with children := e.toNode :: parent.children } :=
      ⟨hparent.tag, List.forall_mem_cons.mpr ⟨he.node, hparent.nodes⟩, hnormal⟩
    exact ⟨List.forall_mem_cons.mpr ⟨hgathered, hopened⟩, h.root⟩

theorem isRead_of_mem_addText {value : String} {nodes : List Node} (h : ∀ node ∈ nodes, node.IsRead) :
    ∀ node ∈ addText value nodes, node.IsRead := by
  by_cases hv : value = ""
  · rw [hv, addText_empty]
    exact h
  · match nodes with
    | [] => simp [addText, hv, Node.IsRead.text]
    | .text _ :: _ =>
        simp only [addText, hv, if_false]
        exact List.forall_mem_cons.mpr ⟨.text _, (List.forall_mem_cons.mp h).2⟩
    | .element .. :: _ =>
        simp only [addText, hv, if_false]
        exact List.forall_mem_cons.mpr ⟨.text _, h⟩

theorem IsRead.write {d : Draft} (h : d.IsRead) (value : String) : (d.write value).IsRead := by
  obtain ⟨_ | ⟨parent, opened⟩, root?⟩ := d
  · exact h
  · obtain ⟨hparent, hopened⟩ := List.forall_mem_cons.mp h.opened
    have hgathered : Element.IsGathered { parent with children := addText value parent.children } :=
      ⟨hparent.tag, isRead_of_mem_addText hparent.nodes, areNormal_addText value hparent.normal⟩
    exact ⟨List.forall_mem_cons.mpr ⟨hgathered, hopened⟩, h.root⟩

theorem isTag_of_elementOf {tag : Tag} {e : Element} (h : tag.IsRead) (he : elementOf tag = .ok e) :
    IsTag e.name e.attributes := by
  obtain ⟨hname, ha, _⟩ := elementOf_eq_ok he
  have htag := h.isTag ha
  rwa [← hname, String.ofList_toList] at htag

theorem IsRead.close {d d' : Draft} {name : List Char} (h : d.IsRead) (hq : closesQuotes none name)
    (hd : d.close (String.ofList name) = .ok d') : d'.IsRead := by
  obtain ⟨_ | ⟨e, opened⟩, root?⟩ := d
  · cases hd
  · obtain ⟨he, hopened⟩ := List.forall_mem_cons.mp h.opened
    simp only [Draft.close] at hd
    split at hd
    · next hname =>
        have hclose : closesQuotes none e.name.toList := by rwa [hname, String.toList_ofList]
        have hnodes : ∀ node ∈ e.children.reverse, node.IsRead := fun node hmem =>
          he.nodes node (List.mem_reverse.mp hmem)
        -- The children stand latest first until now.
        have hnormal : Node.areNormal e.children.reverse := by rw [areNormal_reverse]; exact he.normal
        have hdraft : Draft.IsRead { opened, root? } := ⟨hopened, h.root⟩
        have hread : Element.IsRead { e with children := e.children.reverse } :=
          ⟨.element he.tag (fun _ => hclose) hnodes, hnormal⟩
        exact hdraft.attach hread hd
    · cases hd

theorem IsRead.step {d d' : Draft} {event : Event} (h : d.IsRead) (he : event.IsRead)
    (hd : d.step event = .ok d') : d'.IsRead := by
  cases event with
  | opening tag =>
      obtain ⟨e, helement, hopen⟩ := exists_of_bind_eq_ok hd
      cases hopen
      have hchildren := (elementOf_eq_ok helement).2.2
      have hgathered : e.IsGathered := by
        refine ⟨isTag_of_elementOf he helement, ?_, ?_⟩
        · rw [hchildren]
          exact List.forall_mem_nil _
        · rw [hchildren]
          rfl
      exact ⟨List.forall_mem_cons.mpr ⟨hgathered, h.opened⟩, h.root⟩
  | empty tag =>
      obtain ⟨e, helement, hattach⟩ := exists_of_bind_eq_ok hd
      have htag := isTag_of_elementOf he helement
      have hchildren := (elementOf_eq_ok helement).2.2
      obtain ⟨name, attributes, children⟩ := e
      cases hchildren
      exact h.attach ⟨.element htag (absurd rfl) (List.forall_mem_nil _), rfl⟩ hattach
  | closing name => exact h.close he hd
  | text raw =>
      rw [Draft.step] at hd
      split at hd
      · cases hd
        exact h
      · obtain ⟨cs, _, hwrite⟩ := exists_of_bind_eq_ok hd
        cases hwrite
        exact h.write _
  | cdata content =>
      cases hd
      exact h.write _
  | aside =>
      cases hd
      exact h

theorem IsRead.foldlM {events : List Event} {d d' : Draft} (h : d.IsRead)
    (he : ∀ event ∈ events, event.IsRead) (hd : events.foldlM Draft.step d = .ok d') : d'.IsRead := by
  induction events generalizing d with
  | nil =>
      cases hd
      exact h
  | cons event events ih =>
      obtain ⟨hevent, hevents⟩ := List.forall_mem_cons.mp he
      rw [List.foldlM_cons] at hd
      obtain ⟨next, hstep, hrest⟩ := exists_of_bind_eq_ok hd
      exact ih (h.step hevent hstep) hevents hrest

end Draft

theorem isRead_of_mem_readEvents (names : List (List Char)) (cs : List Char) :
    ∀ event ∈ (readEvents names cs).events, event.IsRead := by
  fun_induction readEvents names cs with
  | case1 => exact List.forall_mem_nil _
  | case2 => exact List.forall_mem_nil _
  | case3 => exact List.forall_mem_nil _
  | case4 _ _ _ _ hm _ _ ih => exact List.forall_mem_cons.mpr ⟨Event.isRead_of_readMarkup hm, ih⟩
  | case5 _ _ _ _ ih => exact List.forall_mem_cons.mpr ⟨trivial, ih⟩

theorem Reading.exists_of_tree {r : Reading} {e : Element} (h : r.tree = .ok e) :
    ∃ d, r.events.foldlM Draft.step {} = .ok d ∧ d.finish = .ok e := by
  obtain ⟨d, hd, hrest⟩ := exists_of_bind_eq_ok h
  refine ⟨d, hd, ?_⟩
  split at hrest
  · cases hrest
  · exact hrest

/-- What was read has the tags of what can be read, and no text that is empty or next to another. -/
theorem isRead_of_parse {source : String} {e : Element} (h : parse source = .ok e) : e.IsRead := by
  obtain ⟨d, hd, hfinish⟩ := Reading.exists_of_tree h
  have hread : d.IsRead := Draft.IsRead.foldlM ⟨List.forall_mem_nil _, by simp⟩
    (isRead_of_mem_readEvents [] source.toList) hd
  obtain ⟨_ | ⟨parent, opened⟩, root?⟩ := d
  · cases root? with
    | none => cases hfinish
    | some root =>
        cases hfinish
        exact hread.root e rfl
  · cases hfinish

end Dialogue.Markup
