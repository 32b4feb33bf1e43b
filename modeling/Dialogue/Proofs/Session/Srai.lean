import Mathlib.Control.Monad.Basic
import Mathlib.Data.List.Infix
import Dialogue.Proofs.Markup.CharacterData
import Dialogue.Proofs.Rules.History
import Dialogue.Proofs.Rules.Loading
import Dialogue.Proofs.Session.Rendering

/-!
# What an `<srai>` finds

A pattern that is written in a document and an `<srai>` that asks for it are read along different ways, but
from character data both come to the same text, however it is spelled. So every rule of the default topic
is found by its text.
-/

namespace Dialogue

open Markup (Element Node Spells ReadsAs Fills joinText isPlainName writeAround)

/-! ## Elements of character data -/

namespace Markup

theorem Node.source_of_areText {nodes : List Node} (h : ∀ node ∈ nodes, node.isText) :
    nodes.flatMap Node.source = (Node.wholeTextOfAll nodes).toList := by
  induction nodes with
  | nil => rfl
  | cons node nodes ih =>
      obtain ⟨hn, hns⟩ := List.forall_mem_cons.mp h
      cases node with
      | text value =>
          rw [List.flatMap_cons, ih hns, Node.wholeTextOfAll, String.toList_append]
          rfl
      | element => cases hn

theorem isText_of_mem_joinText {value : String} {node : Node} (h : node ∈ joinText value []) :
    node.isText := by
  simp only [joinText] at h
  split at h
  · cases h
  · rw [List.mem_singleton.mp h]
    rfl

theorem wholeTextOfAll_joinText (value : String) : Node.wholeTextOfAll (joinText value []) = value := by
  by_cases hv : value = ""
  · simp [joinText, hv, Node.wholeTextOfAll]
  · simp [joinText, hv, Node.wholeTextOfAll, Node.wholeText]

end Markup

theorem sraiTarget_of_areText {children : List Node} (h : ∀ node ∈ children, node.isText) :
    sraiTarget children = Text.trim (Node.wholeTextOfAll children) := by
  rw [sraiTarget, Element.contentSource, Node.source_of_areText h, String.ofList_toList]

/-! ## Rules found by their text -/

section
variable {σ : Type} [RuleStore σ] {store : σ} {options : Options}

/-- An `<srai>` below the limit renders the rule that is under its text in the default topic. -/
theorem renderNode_srai_of_category? {srai : Element} {rule : Category} {depth : Nat}
    (hname : srai.name = "srai") (htext : ∀ node ∈ srai.children, node.isText)
    (hrule : RuleStore.category? store options.defaultTopic (trimmedText srai) = some rule)
    (hdepth : depth < options.maxSraiDepth) :
    renderNode (consult store options (options.maxSraiDepth - depth)) srai.toNode =
      renderRule options (consult store options (options.maxSraiDepth - (depth + 1))) (some rule.node) := by
  obtain ⟨name, attributes, children⟩ := srai
  obtain rfl : name = "srai" := hname
  have hremaining : options.maxSraiDepth - depth = options.maxSraiDepth - (depth + 1) + 1 := by omega
  have htarget : sraiTarget children = trimmedText ⟨"srai", attributes, children⟩ :=
    sraiTarget_of_areText htext
  rw [Element.toNode, renderNode_srai, hremaining, consult_succ, htarget, hrule]

end

namespace Index

/-- The last rule of a document under a key is found after the document was loaded. -/
theorem exists_category?_of_load {index index' : Index} {defaultTopic source : String} {root : Element}
    {n : Nat} {c : Category} (hparse : Markup.parse source = .ok root)
    (hload : index.load defaultTopic source = (.ok n, index')) (hc : c ∈ Item.rules defaultTopic root) :
    ∃ rule, ((Item.rules defaultTopic root).filter (·.key = c.key)).getLast? = some rule ∧
      index'.category? c.topic c.pattern = some rule := by
  have hmem : c ∈ (Item.rules defaultTopic root).filter (·.key = c.key) :=
    List.mem_filter.mpr ⟨hc, decide_eq_true rfl⟩
  have hrule := List.getLast?_eq_some_getLast (List.ne_nil_of_mem hmem)
  refine ⟨_, hrule, ?_⟩
  have hlast := category?_foldl_insert index (Item.rules defaultTopic root) c.topic c.pattern
  rw [load_ok hparse hload, hlast]
  exact congrArg (Option.or · _) hrule

end Index

/-- A rule of the default topic, whatever its pattern says, is found by every `<srai>` of text that says the
same up to white space at the ends: as long as one more may be entered, the last rule loaded under this
text is rendered. In pattern and `<srai>` alike, what the text says does not depend on its spelling. -/
theorem srai_finds_pattern (index index' : Index) (options : Options) (source : String) (root : Element)
    (n : Nat) (c : Category) (p : Element) (hparse : Markup.parse source = .ok root)
    (hload : index.load options.defaultTopic source = (.ok n, index'))
    (hc : c ∈ Item.rules options.defaultTopic root) (htopic : c.topic = options.defaultTopic)
    (hp : c.node.firstNamed? "pattern" = some p) :
    (∃ rule,
      ((Item.rules options.defaultTopic root).filter
        (·.key = (options.defaultTopic, trimmedText p))).getLast? = some rule ∧
      index'.category? options.defaultTopic (trimmedText p) = some rule ∧
      ∀ srai : Element, srai.name = "srai" → (∀ node ∈ srai.children, node.isText) →
        trimmedText srai = trimmedText p → ∀ depth < options.maxSraiDepth,
          renderNode (consult index' options (options.maxSraiDepth - depth)) srai.toNode =
            renderRule options (consult index' options (options.maxSraiDepth - (depth + 1)))
              (some rule.node)) ∧
    ∀ name attributes spelling text, isPlainName name → (∀ a ∈ attributes, isPlainName a.1) →
      (attributes.map (·.1)).Nodup → Markup.Spells spelling text →
        ∃ e, Markup.ReadsAs (Markup.writeAround name attributes spelling) e ∧
          Markup.parse (String.ofList (Markup.writeAround name attributes spelling)) = .ok e ∧
          e.name = name ∧ (∀ node ∈ e.children, node.isText) ∧ e.wholeText = String.ofList text := by
  have hpat : c.pattern = trimmedText p := Item.pattern_of_mem_rules hc hp
  obtain ⟨rule, hlast, hrule⟩ := Index.exists_category?_of_load hparse hload hc
  rw [Category.key, htopic, hpat] at hlast
  rw [htopic, hpat] at hrule
  refine ⟨⟨rule, hlast, hrule, fun srai hname htext heq depth hdepth => ?_⟩, ?_⟩
  · exact renderNode_srai_of_category? hname htext (heq ▸ hrule) hdepth
  · intro name attributes spelling text hn ha hkeys hspells
    have hreads := Markup.ReadsAs.around hn ha hkeys hspells.fills
    exact ⟨_, hreads, hreads.parse, rfl, fun _ => Markup.isText_of_mem_joinText,
      Markup.wholeTextOfAll_joinText _⟩

theorem srai_finds_pattern_fish :
    let source := "<aiml><category><pattern>FISH &amp; <![CDATA[CHIPS]]></pattern>" ++
      "<template>Yum!</template></category></aiml>"
    let fish : Element := { name := "category", children :=
      [.element "pattern" [] [.text "FISH & CHIPS"], .element "template" [] [.text "Yum!"]] }
    let root : Element := { name := "aiml", children := [fish.toNode] }
    let rule : Category := ⟨"default", "FISH & CHIPS", "", fish⟩
    let index := Index.empty.insert rule
    let srai : Element := { name := "srai", children := [.text " FISH & CHIPS\n"] }
    (Markup.parse source = .ok root ∧ Index.empty.load "default" source = (.ok 1, index) ∧
        rule ∈ Item.rules "default" root ∧
        rule.node.firstNamed? "pattern" = some ⟨"pattern", [], [.text "FISH & CHIPS"]⟩) ∧
      ∃ found, index.category? "default" "FISH & CHIPS" = some found ∧
        renderNode (consult index {} 32) srai.toNode =
          renderRule {} (consult index {} 31) (some found.node) := by
  intro source fish root rule index srai
  have hnone : ∀ a ∈ ([] : List (String × String)), isPlainName a.1 := List.forall_mem_nil _
  have hpattern : ReadsAs (writeAround "pattern" [] "FISH &amp; <![CDATA[CHIPS]]>".toList)
      ⟨"pattern", [], [.text "FISH & CHIPS"]⟩ :=
    .around (by decide) hnone .nil (Spells.escaped "FISH & ".toList
      (.cdata (by decide : ¬ "]]>".toList <:+: "CHIPS".toList) .nil)).fills
  have htemplate : ReadsAs (writeAround "template" [] "Yum!".toList)
      ⟨"template", [], [.text "Yum!"]⟩ :=
    .around (by decide) hnone .nil (Spells.escaped "Yum!".toList .nil).fills
  let texts : List (List Char × Element) :=
    [(writeAround "pattern" [] "FISH &amp; <![CDATA[CHIPS]]>".toList,
        ⟨"pattern", [], [.text "FISH & CHIPS"]⟩),
      (writeAround "template" [] "Yum!".toList, ⟨"template", [], [.text "Yum!"]⟩)]
  have htexts : Fills (texts.flatMap (·.1)) fish.children :=
    .elements (List.forall_mem_cons.mpr ⟨hpattern, List.forall_mem_singleton.mpr htemplate⟩)
  have hcategory : ReadsAs (writeAround "category" [] (texts.flatMap (·.1))) fish :=
    .around (by decide) hnone .nil htexts
  let rules : List (List Char × Element) := [(writeAround "category" [] (texts.flatMap (·.1)), fish)]
  have hroot : ReadsAs (writeAround "aiml" [] (rules.flatMap (·.1))) root :=
    .around (by decide) hnone .nil (.elements (List.forall_mem_singleton.mpr hcategory))
  have hsource : source = String.ofList (writeAround "aiml" [] (rules.flatMap (·.1))) := by decide
  have hparse : Markup.parse source = .ok root := hsource ▸ hroot.parse
  have hload : Index.empty.load "default" source = (.ok 1, index) := by
    have hentries : entries "default" source = .ok ([rule].map .ok) :=
      (Item.entries_of_parse hparse rfl).trans (congrArg Except.ok (by decide))
    exact Index.empty.load_of_entries hentries
  have hrules : rule ∈ Item.rules "default" root := by decide
  have hfirst : rule.node.firstNamed? "pattern" = some ⟨"pattern", [], [.text "FISH & CHIPS"]⟩ := rfl
  obtain ⟨⟨found, _, hfound, hrender⟩, _⟩ :=
    srai_finds_pattern .empty index {} source root 1 rule _ hparse hload hrules rfl hfirst
  have htext : trimmedText ⟨"pattern", [], [.text "FISH & CHIPS"]⟩ = "FISH & CHIPS" := by decide
  rw [htext] at hfound hrender
  exact ⟨⟨hparse, hload, hrules, hfirst⟩, found, hfound,
    hrender srai rfl (by decide) (by decide) 0 (by decide)⟩

end Dialogue
