import Dialogue.Proofs.Session.Srai
import Dialogue.Proofs.Text.Trimming

/-!
# An `<srai>` with the content of a pattern

The content of a pattern is stored as its text, and the content of an `<srai>` is looked up as pattern text,
in which an element is written with its tags. The two are the same exactly if there is no element in the
content: every tag takes some ink that no trimming takes away again.
-/

namespace Dialogue

open Markup (Element Node escapeTextChar escapeText)
open Text (ink ink_append)

/-! ## Texts and their markup -/

namespace Markup

theorem ink_le_ink_escapeTextChar (c : Char) : ink [c] ≤ ink (escapeTextChar c) := by
  unfold escapeTextChar
  split
  · decide
  · decide
  · decide
  · exact Nat.le_refl _

theorem ink_le_ink_escapeText (cs : List Char) : ink cs ≤ ink (escapeText cs) := by
  induction cs with
  | nil => exact Nat.le_refl _
  | cons c cs ih =>
      calc ink ([c] ++ cs)
        _ = ink [c] + ink cs := ink_append ..
        _ ≤ ink (escapeTextChar c) + ink (escapeText cs) := Nat.add_le_add (ink_le_ink_escapeTextChar c) ih
        _ = ink (escapeText (c :: cs)) := (ink_append ..).symm

theorem ink_writeAll_lt (name : String) (attributes : List (String × String)) (children : List Node) :
    ink (Node.writeAll children) < ink (Node.element name attributes children).write := by
  obtain ⟨before, after, hwrite⟩ := exists_write_around name attributes children
  have hbracket : ink ['<'] = 1 := by decide
  rw [hwrite, ← List.singleton_append, ink_append, ink_append, ink_append, hbracket]
  omega

mutual
/-- The markup of a node has all the ink of its text. -/
theorem Node.ink_wholeText_le : (node : Node) → ink node.wholeText.toList ≤ ink node.write
  | .text value => ink_le_ink_escapeText value.toList
  | .element name attributes children =>
      (Node.ink_wholeTextOfAll_le children).trans (ink_writeAll_lt name attributes children).le

theorem Node.ink_wholeTextOfAll_le : (nodes : List Node) →
    ink (Node.wholeTextOfAll nodes).toList ≤ ink (Node.writeAll nodes)
  | [] => Nat.le_refl _
  | node :: nodes => by
      rw [Node.wholeTextOfAll, Node.writeAll, String.toList_append, ink_append, ink_append]
      exact Nat.add_le_add (Node.ink_wholeText_le node) (Node.ink_wholeTextOfAll_le nodes)
end

theorem Node.ink_wholeText_le_source (node : Node) : ink node.wholeText.toList ≤ ink node.source := by
  cases node with
  | text => exact Nat.le_refl _
  | element name attributes children => exact Node.ink_wholeText_le (.element name attributes children)

theorem Node.isText_of_ink_source_le {node : Node} (h : ink node.source ≤ ink node.wholeText.toList) :
    node.isText := by
  cases node with
  | text => rfl
  | element name attributes children =>
      have hchildren : ink (Node.wholeTextOfAll children).toList ≤ ink (Node.writeAll children) :=
        Node.ink_wholeTextOfAll_le children
      have htags := ink_writeAll_lt name attributes children
      exact absurd (h.trans hchildren) (Nat.not_le.mpr htags)

theorem ink_wholeTextOfAll_le_source (nodes : List Node) :
    ink (Node.wholeTextOfAll nodes).toList ≤ ink (nodes.flatMap Node.source) := by
  induction nodes with
  | nil => exact Nat.le_refl _
  | cons node nodes ih =>
      rw [Node.wholeTextOfAll, List.flatMap_cons, String.toList_append, ink_append, ink_append]
      exact Nat.add_le_add node.ink_wholeText_le_source ih

theorem areText_of_ink_source_le {nodes : List Node}
    (h : ink (nodes.flatMap Node.source) ≤ ink (Node.wholeTextOfAll nodes).toList) :
    ∀ node ∈ nodes, node.isText := by
  induction nodes with
  | nil => exact List.forall_mem_nil _
  | cons node nodes ih =>
      rw [Node.wholeTextOfAll, List.flatMap_cons, String.toList_append, ink_append, ink_append] at h
      have hnode := node.ink_wholeText_le_source
      have hnodes := ink_wholeTextOfAll_le_source nodes
      exact List.forall_mem_cons.mpr ⟨Node.isText_of_ink_source_le (by omega), ih (by omega)⟩

end Markup

/-! ## Patterns and what asks for them -/

/-- Content is looked up under its text exactly if it is text. -/
theorem sraiTarget_eq_trim_iff (nodes : List Node) :
    sraiTarget nodes = Text.trim (Node.wholeTextOfAll nodes) ↔ ∀ node ∈ nodes, node.isText := by
  constructor
  · intro h
    have hink := congrArg (ink ∘ String.toList) h
    simp only [Function.comp, sraiTarget, Markup.Element.contentSource, Text.trim, String.toList_ofList,
      Text.ink_trimmed] at hink
    exact Markup.areText_of_ink_source_le hink.le
  · exact sraiTarget_of_areText

/-- Of a rule of the default topic that was loaded, an `<srai>` with the children of its pattern asks for the
stored pattern exactly if there is no element among them. There is a rule under the pattern, and without
elements the `<srai>` renders it as long as one more may be entered. -/
theorem srai_repeats_pattern (index index' : Index) (options : Options) (source : String) (root : Element)
    (n : Nat) (c : Category) (p : Element) (hparse : Markup.parse source = .ok root)
    (hload : index.load options.defaultTopic source = (.ok n, index'))
    (hc : c ∈ Item.rules options.defaultTopic root) (htopic : c.topic = options.defaultTopic)
    (hp : c.node.firstNamed? "pattern" = some p) :
    (sraiTarget p.children = c.pattern ↔ ∀ node ∈ p.children, node.isText) ∧
      ∃ rule, index'.category? options.defaultTopic c.pattern = some rule ∧
        ((∀ node ∈ p.children, node.isText) → ∀ attributes, ∀ depth < options.maxSraiDepth,
          renderNode (consult index' options (options.maxSraiDepth - depth))
              (.element "srai" attributes p.children) =
            renderRule options (consult index' options (options.maxSraiDepth - (depth + 1)))
              (some rule.node)) := by
  have hpattern : c.pattern = trimmedText p := Item.pattern_of_mem_rules hc hp
  obtain ⟨rule, _, hrule⟩ := Index.exists_category?_of_load hparse hload hc
  rw [htopic] at hrule
  refine ⟨?_, rule, hrule, fun htext attributes depth hdepth => ?_⟩
  · rw [hpattern]
    exact sraiTarget_eq_trim_iff p.children
  · let srai : Element := ⟨"srai", attributes, p.children⟩
    have hname : srai.name = "srai" := rfl
    rw [hpattern] at hrule
    exact renderNode_srai_of_category? hname htext hrule hdepth

theorem srai_repeats_pattern_lines :
    let source := "<aiml><category><pattern> 1 &lt;\n<![CDATA[2 & ]]><!-- -->3\n</pattern>" ++
      "<template>Yes.</template></category></aiml>"
    let p : Element := ⟨"pattern", [], [.text " 1 <\n2 & 3\n"]⟩
    let rule : Category := ⟨"default", "1 <\n2 & 3", "",
      ⟨"category", [], [p.toNode, .element "template" [] [.text "Yes."]]⟩⟩
    let root : Element := ⟨"aiml", [], [rule.node.toNode]⟩
    let index := Index.empty.insert rule
    (Markup.parse source = .ok root ∧ Index.empty.load "default" source = (.ok 1, index) ∧
        rule ∈ Item.rules "default" root ∧ rule.node.firstNamed? "pattern" = some p) ∧
      sraiTarget p.children = "1 <\n2 & 3" ∧
      ∃ found, index.category? "default" "1 <\n2 & 3" = some found ∧
        renderNode (consult index {} 1) (.element "srai" [] p.children) =
          renderRule {} (consult index {} 0) (some found.node) := by
  intro source p rule root index
  have hparse : Markup.parse source = .ok root := by decide +kernel
  have hentries : entries "default" source = .ok ([rule].map .ok) :=
    (Item.entries_of_parse hparse rfl).trans (congrArg Except.ok (by decide))
  have hload : Index.empty.load "default" source = (.ok 1, index) := Index.empty.load_of_entries hentries
  have hrules : rule ∈ Item.rules "default" root := by decide
  have htext : ∀ node ∈ p.children, node.isText := by decide
  obtain ⟨hiff, found, hfound, hrender⟩ :=
    srai_repeats_pattern .empty index {} source root 1 rule p hparse hload hrules rfl rfl
  exact ⟨⟨hparse, hload, hrules, rfl⟩, hiff.mpr htext, found, hfound, hrender htext [] 31 (by decide)⟩

/-- With an element in it, a pattern is stored under its text, and an `<srai>` with the same content asks for
markup that no rule has. -/
theorem srai_misses_pattern :
    let source := "<aiml><category><pattern>A <b>X</b></pattern><template>Yes.</template></category></aiml>"
    let p : Element := ⟨"pattern", [], [.text "A ", .element "b" [] [.text "X"]]⟩
    let rule : Category := ⟨"default", "A X", "",
      ⟨"category", [], [p.toNode, .element "template" [] [.text "Yes."]]⟩⟩
    let root : Element := ⟨"aiml", [], [rule.node.toNode]⟩
    let index := Index.empty.insert rule
    (Markup.parse source = .ok root ∧ Index.empty.load "default" source = (.ok 1, index) ∧
        rule ∈ Item.rules "default" root ∧ rule.node.firstNamed? "pattern" = some p ∧
        index.category? "default" "A X" = some rule) ∧
      ∀ draws,
        (renderRule {} (consult index {} 31) (some rule.node) draws).result = .ok "Yes." ∧
        (renderNode (consult index {} 32) (.element "srai" [] p.children) draws).result =
          .ok ({} : Options).errorResponse := by
  intro source p rule root index
  have hparse : Markup.parse source = .ok root := by decide +kernel
  have hentries : entries "default" source = .ok ([rule].map .ok) :=
    (Item.entries_of_parse hparse rfl).trans (congrArg Except.ok (by decide))
  have hload : Index.empty.load "default" source = (.ok 1, index) := Index.empty.load_of_entries hentries
  have hrule : index.category? "default" "A X" = some rule := Index.category?_insert ..
  have htarget : sraiTarget p.children = "A <b>X</b>" := by decide
  have hnone : RuleStore.category? index "default" "A <b>X</b>" = none :=
    (Index.category?_insert ..).trans ((if_neg (by decide)).trans (Index.category?_empty ..))
  refine ⟨⟨hparse, hload, by decide, rfl, hrule⟩, fun draws => ⟨?_, ?_⟩⟩
  · rfl
  · rw [renderNode_srai, htarget, consult_succ, hnone]
    rfl

end Dialogue
