import Mathlib.Control.Monad.Basic
import Mathlib.Logic.Relation
import Dialogue.Proofs.Markup.ReadTrees

/-!
# The form of what is read

A reading joins all text between two tags, whatever it was written in and whatever was passed over in
between, and a tag with a key twice is refused. So in what is read there is at every depth no empty text, no
text next to another, and no key twice.
-/

namespace Dialogue.Markup

/-- The element is the root, or stands in it at some depth. -/
def Element.Holds (root e : Element) : Prop :=
  Relation.ReflTransGen (fun outer inner => inner ∈ outer.elements) root e

/-! ## Normal lists of nodes -/

theorem isNormal_of_mem_areNormal {nodes : List Node} (h : Node.areNormal nodes) :
    ∀ node ∈ nodes, node.isNormal := by
  induction nodes with
  | nil => exact List.forall_mem_nil _
  | cons node nodes ih =>
      simp only [Node.areNormal, Bool.and_eq_true] at h
      exact List.forall_mem_cons.mpr ⟨h.1.1, ih h.2⟩

theorem ne_append_texts_of_areNormal {nodes : List Node} (h : Node.areNormal nodes)
    (before after : List Node) (v w : String) : nodes ≠ before ++ .text v :: .text w :: after := by
  rintro rfl
  rw [areNormal_append] at h
  simp [Node.areNormal, Node.isText] at h

/-! ## Elements at every depth -/

theorem Node.IsRead.inv {name : String} {attributes : List (String × String)} {children : List Node}
    (h : (Node.element name attributes children).IsRead) :
    IsTag name attributes ∧ ∀ node ∈ children, node.IsRead := by
  cases h with
  | element htag _ hchildren => exact ⟨htag, hchildren⟩

theorem Element.IsRead.of_mem_elements {outer inner : Element} (h : outer.IsRead)
    (hmem : inner ∈ outer.elements) : inner.IsRead := by
  have hchild := Element.toNode_mem_of_mem_elements hmem
  exact ⟨h.node.inv.2 _ hchild, isNormal_of_mem_areNormal h.normal _ hchild⟩

theorem Element.IsRead.of_holds {root e : Element} (h : root.IsRead) (he : root.Holds e) : e.IsRead := by
  induction he with
  | refl => exact h
  | tail _ hmem ih => exact ih.of_mem_elements hmem

/-- Of a source that is read, every element has texts that are not empty and not next to each other, and
keys that are distinct. -/
theorem normal_of_parse {source : String} {root e : Element} (h : parse source = .ok root)
    (he : root.Holds e) :
    .text "" ∉ e.children ∧ (∀ before after v w, e.children ≠ before ++ .text v :: .text w :: after) ∧
      (e.attributes.map (·.1)).Nodup := by
  have hread := (isRead_of_parse h).of_holds he
  refine ⟨fun hempty => ?_, ne_append_texts_of_areNormal hread.normal, hread.node.inv.1.distinct⟩
  exact absurd (isNormal_of_mem_areNormal hread.normal _ hempty) (by simp [Node.isNormal])

/-- Between the tags there are empty sections, sections of markup characters, comments, instructions and
a declaration. -/
theorem normal_of_parse_mixed :
    let source := "<?xml version='1.0'?><!DOCTYPE r><r>x<!-- -->y<![CDATA[]]>" ++
      "<i k='' n='1'><![CDATA[]]>&amp;<?p?><![CDATA[<z>]]><!DOCTYPE i></i><![CDATA[]]> </r>"
    let inner : Element := ⟨"i", [("k", ""), ("n", "1")], [.text "&<z>"]⟩
    let root : Element := ⟨"r", [], [.text "xy", inner.toNode, .text " "]⟩
    (parse source = .ok root ∧ root.Holds inner) ∧
      .text "" ∉ inner.children ∧
      (∀ before after v w, inner.children ≠ before ++ .text v :: .text w :: after) ∧
      (inner.attributes.map (·.1)).Nodup := by
  intro source inner root
  have hparse : parse source = .ok root := by decide +kernel
  have hholds : root.Holds inner := .single (by decide)
  exact ⟨⟨hparse, hholds⟩, normal_of_parse hparse hholds⟩

end Dialogue.Markup
