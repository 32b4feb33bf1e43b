import Dialogue.Proofs.Markup.Readings
import Dialogue.Proofs.Markup.Tags

/-!
# Reading what was written: trees

A tree with plain names is read back from its markup with its adjacent texts merged and its empty texts
dropped, and otherwise unchanged.
-/

namespace Dialogue.Markup

/-! ## Merged texts -/

/-- Text put before nodes joins the text that they begin with; empty text is none. -/
def joinText (value : String) : List Node → List Node
  | .text next :: nodes => .text (value ++ next) :: nodes
  | nodes => if value = "" then nodes else .text value :: nodes

mutual
/-- The node with adjacent texts merged and empty texts dropped, at every depth below it. -/
def Node.normal : Node → Node
  | .text value => .text value
  | .element name attributes children => .element name attributes (Node.normalAll children)

/-- Nodes with adjacent texts merged and empty texts dropped, among them and below them. -/
def Node.normalAll : List Node → List Node
  | [] => []
  | .text value :: nodes => joinText value (Node.normalAll nodes)
  | .element name attributes children :: nodes =>
    Node.normal (.element name attributes children) :: Node.normalAll nodes
end

/-- The element with adjacent texts merged and empty texts dropped, at every depth. -/
def Element.normal (e : Element) : Element :=
  { e with children := Node.normalAll e.children }

/-- Whether a node is a text. -/
def Node.isText : Node → Bool
  | .text _ => true
  | .element .. => false

mutual
/-- No text is empty or stands next to another, at any depth. -/
def Node.isNormal : Node → Bool
  | .text value => value ≠ ""
  | .element _ _ children => Node.areNormal children

/-- No text is empty or stands next to another, among the nodes and below them. -/
def Node.areNormal : List Node → Bool
  | [] => true
  | node :: nodes =>
    node.isNormal && !(node.isText && nodes.head?.any Node.isText) && Node.areNormal nodes
end

mutual
/-- All names of elements are plain, and so are the keys of attributes, which are distinct in each
element. -/
def Node.hasPlainNames : Node → Bool
  | .text _ => true
  | .element name attributes children =>
    isPlainName name && attributes.all (isPlainName ·.1) && decide (attributes.map (·.1)).Nodup &&
      Node.havePlainNames children

/-- All nodes have plain names. -/
def Node.havePlainNames : List Node → Bool
  | [] => true
  | node :: nodes => node.hasPlainNames && Node.havePlainNames nodes
end

theorem joinText_append (a b : String) (nodes : List Node) :
    joinText (a ++ b) nodes = joinText a (joinText b nodes) := by
  match nodes with
  | .text next :: nodes => simp only [joinText, String.append_assoc]
  | [] | .element .. :: _ =>
      simp only [joinText, String.append_eq_empty_iff]
      by_cases hb : b = ""
      · simp [hb]
      · simp [hb]

theorem joinText_empty (nodes : List Node) : joinText "" nodes = nodes := by
  match nodes with
  | .text next :: nodes => simp [joinText]
  | [] | .element .. :: _ => rfl

theorem areNormal_joinText (value : String) {nodes : List Node} (h : Node.areNormal nodes) :
    Node.areNormal (joinText value nodes) := by
  match nodes, h with
  | .text next :: nodes, h =>
      simp only [joinText, Node.areNormal, Node.isNormal, Bool.and_eq_true, decide_eq_true_eq] at h ⊢
      exact ⟨⟨fun he => h.1.1 (String.append_eq_empty_iff.mp he).2, h.1.2⟩, h.2⟩
  | [], _ =>
      by_cases hv : value = "" <;> simp [joinText, hv, Node.areNormal, Node.isNormal]
  | .element .. :: _, h =>
      by_cases hv : value = ""
      · simpa [joinText, hv] using h
      · simpa [joinText, hv, Node.areNormal, Node.isNormal, Node.isText] using h

/-- The normal form is normal. -/
theorem Node.areNormal_normalAll : (nodes : List Node) → Node.areNormal (Node.normalAll nodes)
  | [] => rfl
  | .text value :: nodes => areNormal_joinText value (Node.areNormal_normalAll nodes)
  | .element name attributes children :: nodes => by
      simp [Node.normalAll, Node.normal, Node.areNormal, Node.isNormal, Node.isText,
        Node.areNormal_normalAll children, Node.areNormal_normalAll nodes]

/-- What is normal is its own normal form. -/
theorem Node.normalAll_of_areNormal : (nodes : List Node) → Node.areNormal nodes →
    Node.normalAll nodes = nodes
  | [], _ => rfl
  | .text value :: nodes, h => by
      simp only [Node.areNormal, Node.isNormal, Bool.and_eq_true, decide_eq_true_eq] at h
      rw [Node.normalAll, Node.normalAll_of_areNormal nodes h.2]
      match nodes, h with
      | [], h => simp [joinText, h.1.1]
      | .element .. :: _, h => simp [joinText, h.1.1]
      | .text _ :: _, h => exact absurd h.1.2 (by simp [Node.isText])
  | .element name attributes children :: nodes, h => by
      simp only [Node.areNormal, Node.isNormal, Bool.and_eq_true] at h
      rw [Node.normalAll, Node.normal, Node.normalAll_of_areNormal children h.1.1,
        Node.normalAll_of_areNormal nodes h.2]

/-! ## Building on a draft -/

theorem treeFrom_markup {names names' : List (List Char)} {d d' : Draft} {event : Event}
    {cs rest : List Char} (hm : readMarkup cs = .ok (event, rest))
    (ho : trackOpen names event = .ok names') (hs : d.step event = .ok d') :
    (readEvents names ('<' :: cs)).treeFrom d = (readEvents names' rest).treeFrom d' := by
  rw [readEvents_markup hm ho, Reading.treeFrom_cons hs]

theorem Draft.elementOf_eq_ok {tag : Tag} {e : Element} (h : elementOf tag = .ok e) :
    e.name.toList = tag.name ∧ tag.attributes = .ok e.attributes ∧ e.children = [] := by
  unfold elementOf at h
  cases ha : tag.attributes with
  | error fault =>
      rw [ha] at h
      cases h
  | ok attributes =>
      rw [ha] at h
      cases h
      exact ⟨String.toList_ofList, rfl, rfl⟩

theorem Draft.addText_empty (nodes : List Node) : addText "" nodes = nodes := by
  match nodes with
  | [] | .text _ :: _ | .element .. :: _ => rfl

theorem Draft.write_empty (d : Draft) : d.write "" = d := by
  obtain ⟨_ | ⟨parent, opened⟩, root?⟩ := d
  · rfl
  · simp only [write, addText_empty]

theorem Draft.opened_write_ne_nil {d : Draft} (h : d.opened ≠ []) (value : String) :
    (d.write value).opened ≠ [] := by
  obtain ⟨_ | ⟨parent, opened⟩, root?⟩ := d
  · exact absurd rfl h
  · exact List.cons_ne_nil _ _

theorem Draft.exists_attach {d : Draft} (h : d.opened ≠ []) (e : Element) :
    ∃ d', d.attach e = .ok d' ∧ d'.opened ≠ [] := by
  obtain ⟨_ | ⟨parent, opened⟩, root?⟩ := d
  · exact absurd rfl h
  · exact ⟨_, rfl, List.cons_ne_nil _ _⟩

/-- Decoded text is added to the innermost element, and dropped outside the root. -/
theorem Draft.step_text {raw text : List Char} (h : decode raw = .ok text) (d : Draft) :
    d.step (.text raw) = .ok (d.write (String.ofList text)) := by
  obtain ⟨_ | ⟨parent, opened⟩, root?⟩ := d
  · rfl
  · rw [step, h]
    rfl

/-- A run of text is read up to the next tag or the end. -/
theorem treeFrom_raw (names : List (List Char)) (d : Draft) {raw text rest : List Char}
    (hlt : ∀ c ∈ raw, c ≠ '<') (hdecode : decode raw = .ok text) (hrest : ∀ c ∈ rest.head?, c = '<') :
    (readEvents names (raw ++ rest)).treeFrom d =
      (readEvents names rest).treeFrom (d.write (String.ofList text)) := by
  cases raw with
  | nil =>
      cases hdecode
      rw [List.nil_append, String.ofList_nil, Draft.write_empty]
  | cons c cs =>
      have hread : readEvents names (c :: cs ++ rest) = (readEvents names rest).cons (.text (c :: cs)) := by
        obtain ⟨hc, hcs⟩ := List.forall_mem_cons.mp hlt
        have hin : ∀ x ∈ cs, decide (x ≠ '<') = true := fun x hx => decide_eq_true (hcs x hx)
        have hstop : ∀ x ∈ rest.head?, ¬ decide (x ≠ '<') = true := fun x hx => by simp [hrest x hx]
        rw [List.cons_append, readEvents.eq_3 _ _ _ hc, takeWhile_append_of_stop hin hstop,
          dropWhile_append_of_stop hin hstop]
      rw [hread]
      exact Reading.treeFrom_cons (Draft.step_text hdecode d) _

/-- A run of escaped text, up to the next tag, is added to the innermost element. -/
theorem treeFrom_text (names : List (List Char)) (d : Draft) (text rest : List Char) :
    (readEvents names (escapeText text ++ '<' :: rest)).treeFrom d =
      (readEvents names ('<' :: rest)).treeFrom (d.write (String.ofList text)) :=
  treeFrom_raw names d (fun _ => ne_lt_of_mem_escapeText) (decode_escapeText text) (by simp)

/-! ## The round trip -/

section
variable (names : List (List Char)) {name : String} {attributes : List (String × String)}

theorem IsTag.elementOf_written (h : IsTag name attributes) :
    Draft.elementOf ⟨name.toList, attributes.flatMap writeAttribute⟩ = .ok { name, attributes } := by
  rw [Draft.elementOf, h.attributes_written]
  show Except.ok _ = Except.ok _
  rw [String.ofList_toList]

theorem treeFrom_empty {d d' : Draft} (h : IsTag name attributes)
    (hq : Passes (writeTag name attributes)) (hne : writeTag name attributes ≠ [])
    (hd : d.attach { name, attributes } = .ok d') (rest : List Char) :
    (readEvents names ('<' :: (writeTag name attributes ++ '/' :: '>' :: rest))).treeFrom d =
      (readEvents names rest).treeFrom d' := by
  refine treeFrom_markup (h.readMarkup_empty hq hne rest) rfl ?_
  rw [Draft.step, h.elementOf_written]
  exact hd

theorem treeFrom_opening (d : Draft) (h : IsTag name attributes)
    (hq : Passes (writeTag name attributes)) (hlast : (writeTag name attributes).getLast? ≠ some '/')
    (rest : List Char) :
    (readEvents names ('<' :: (writeTag name attributes ++ '>' :: rest))).treeFrom d =
      (readEvents (name.toList :: names) rest).treeFrom
        { d with opened := { name, attributes } :: d.opened } := by
  refine treeFrom_markup (h.readMarkup_opening hq hlast rest) rfl ?_
  rw [Draft.step, h.elementOf_written]
  rfl

theorem treeFrom_closing {d d' : Draft} {children : List Node}
    (h : ∀ c ∈ name.toList, isGap c = false) (hq : Passes name.toList)
    (hd : d.attach { name, attributes, children } = .ok d') (rest : List Char) :
    (readEvents (name.toList :: names) ('<' :: '/' :: (name.toList ++ '>' :: rest))).treeFrom
        { d with opened := { name, attributes, children := children.reverse } :: d.opened } =
      (readEvents names rest).treeFrom d' := by
  refine treeFrom_markup (readMarkup_closing h hq rest) (by simp [trackOpen]) ?_
  rw [Draft.step, String.ofList_toList, Draft.close]
  refine (if_pos rfl).trans ?_
  rw [List.reverse_reverse]
  exact hd

theorem hasPlainNames_element {children : List Node}
    (h : (Node.element name attributes children).hasPlainNames) :
    isPlainName name ∧ (∀ a ∈ attributes, isPlainName a.1) ∧ (attributes.map (·.1)).Nodup ∧
      Node.havePlainNames children := by
  simp only [Node.hasPlainNames, Bool.and_eq_true, List.all_eq_true, decide_eq_true_eq] at h
  exact ⟨h.1.1.1, h.1.1.2, h.1.2, h.2⟩

end

/-! ## Legible trees -/

/-- A tag that is read back as it is written, with a closing tag if there are children. -/
structure IsLegibleTag (name : String) (attributes : List (String × String)) (children : List Node) :
    Prop extends IsTag name attributes where
  passes : Passes (writeTag name attributes)
  nonempty : children = [] → writeTag name attributes ≠ []
  unslashed : children ≠ [] → (writeTag name attributes).getLast? ≠ some '/'
  closes : children ≠ [] → Passes name.toList

theorem IsLegibleTag.of_isPlainName {name : String} {attributes : List (String × String)}
    (hn : isPlainName name) (ha : ∀ a ∈ attributes, isPlainName a.1)
    (hkeys : (attributes.map (·.1)).Nodup) (children : List Node) :
    IsLegibleTag name attributes children where
  toIsTag := .of_isPlainName hn ha hkeys
  passes := .tag hn ha
  nonempty _ := by
    obtain ⟨c, cs, hname⟩ := exists_cons_of_isPlainName hn
    simp [writeTag, hname]
  unslashed _ := getLast?_writeTag attributes hn
  closes _ := .name hn

mutual
/-- Every tag of the node is read back as it is written. -/
def Node.IsLegible : Node → Prop
  | .text _ => True
  | .element name attributes children =>
    IsLegibleTag name attributes children ∧ Node.AreLegible children

/-- Every tag of the nodes is read back as it is written. -/
def Node.AreLegible : List Node → Prop
  | [] => True
  | node :: nodes => node.IsLegible ∧ Node.AreLegible nodes
end

mutual
theorem Node.isLegible_of_hasPlainNames : (node : Node) → node.hasPlainNames → node.IsLegible
  | .text _, _ => trivial
  | .element _ _ children, h => by
      obtain ⟨hn, ha, hkeys, hc⟩ := hasPlainNames_element h
      exact ⟨.of_isPlainName hn ha hkeys children, Node.areLegible_of_havePlainNames children hc⟩

theorem Node.areLegible_of_havePlainNames : (nodes : List Node) → Node.havePlainNames nodes →
    Node.AreLegible nodes
  | [], _ => trivial
  | node :: nodes, h => by
      simp only [Node.havePlainNames, Bool.and_eq_true] at h
      exact ⟨Node.isLegible_of_hasPlainNames node h.1, Node.areLegible_of_havePlainNames nodes h.2⟩
end

/-- A draft whose innermost element is not finished. -/
def Draft.within (parent : Element) (opened : List Element) (root? : Option Element)
    (latest : List Node) : Draft :=
  { opened := { parent with children := latest } :: opened, root? }

theorem Draft.write_within {parent : Element} {opened : List Element} {root? : Option Element}
    {latest : List Node} (h : ∀ node ∈ latest.head?, node.isText = false) (value : String) :
    (Draft.within parent opened root? latest).write value =
      Draft.within parent opened root? ((joinText value []).reverse ++ latest) := by
  match latest, h with
  | .text _ :: _, h => cases h _ rfl
  | [], _ | .element .. :: _, _ =>
      by_cases hv : value = "" <;> simp [Draft.write, Draft.within, Draft.addText, joinText, hv]

/-- An element that is written after some text leaves the text as it is. -/
theorem joinText_element {node : Node} (h : node.isText = false) (value : String)
    (nodes : List Node) : joinText value (node :: nodes) = joinText value [] ++ node :: nodes := by
  cases node with
  | text => cases h
  | element => by_cases hv : value = "" <;> simp [joinText, hv]

/-- The children of an element are written between its tags. -/
theorem exists_write_around (name : String) (attributes : List (String × String)) (children : List Node) :
    ∃ before after, (Node.element name attributes children).write =
      '<' :: (before ++ Node.writeAll children ++ after) := by
  cases children with
  | nil => exact ⟨writeTag name attributes, ['/', '>'], by simp [Node.write, Node.writeAll]⟩
  | cons child children =>
      refine ⟨writeTag name attributes ++ ['>'], '<' :: '/' :: (name.toList ++ ['>']), ?_⟩
      simp [Node.write, Node.writeAll]

theorem exists_write_element (name : String) (attributes : List (String × String))
    (children : List Node) : ∃ tail, (Node.element name attributes children).write = '<' :: tail := by
  obtain ⟨before, after, hwrite⟩ := exists_write_around name attributes children
  exact ⟨_, hwrite⟩

mutual
/-- An element is read as its normal form and attached. -/
theorem treeFrom_isLegible : (node : Node) → node.IsLegible → ∀ names {e : Element} {d d' : Draft},
    node.normal.element? = some e → d.attach e = .ok d' → ∀ rest,
      (readEvents names (node.write ++ rest)).treeFrom d = (readEvents names rest).treeFrom d'
  | .text _, _, _, _, _, _, he, _, _ => nomatch he
  | .element name attributes [], h, names, e, d, d', he, hd, rest => by
      obtain ⟨htag, _⟩ := h
      obtain rfl := Option.some.inj he
      have hread := treeFrom_empty names htag.toIsTag htag.passes (htag.nonempty rfl) hd rest
      simpa [Node.write] using hread
  | .element name attributes (child :: children), h, names, e, d, d', he, hd, rest => by
      obtain ⟨htag, hc⟩ := h
      have hne : child :: children ≠ [] := List.cons_ne_nil _ _
      obtain rfl := Option.some.inj he
      let closing := '/' :: (name.toList ++ '>' :: rest)
      have hwritten : (Node.element name attributes (child :: children)).write ++ rest =
          '<' :: (writeTag name attributes ++ '>' ::
            (escapeText [] ++ (Node.writeAll (child :: children) ++ '<' :: closing))) := by
        simp [Node.write, Node.writeAll, escapeText, closing]
      have hinside := treeFrom_areLegible (child :: children) hc (name.toList :: names)
        { name, attributes } d.opened d.root? [] (by simp) [] closing
      rw [String.ofList_nil, joinText_empty, List.append_nil] at hinside
      have hclosing := treeFrom_closing names htag.solid (htag.closes hne) hd rest
      rw [hwritten, treeFrom_opening names d htag.toIsTag htag.passes (htag.unslashed hne)]
      exact hinside.trans hclosing

/-- Nodes are read into the innermost element, behind the text that was not yet read. -/
theorem treeFrom_areLegible : (nodes : List Node) → Node.AreLegible nodes →
    ∀ names parent opened root? (latest : List Node), (∀ node ∈ latest.head?, node.isText = false) →
      ∀ text rest,
        (readEvents names (escapeText text ++ (Node.writeAll nodes ++ '<' :: rest))).treeFrom
            (Draft.within parent opened root? latest) =
          (readEvents names ('<' :: rest)).treeFrom
            (Draft.within parent opened root?
              ((joinText (String.ofList text) (Node.normalAll nodes)).reverse ++ latest))
  | [], _, _, _, _, _, _, hl, text, rest => by
      rw [Node.writeAll, List.nil_append, treeFrom_text, Draft.write_within hl]
      rfl
  | .text value :: nodes, h, names, parent, opened, root?, latest, hl, text, rest => by
      have hnodes := treeFrom_areLegible nodes h.2 names parent opened root? latest hl (text ++ value.toList)
        rest
      rw [escapeText_append, List.append_assoc, String.ofList_append, String.ofList_toList,
        joinText_append] at hnodes
      simpa [Node.writeAll, Node.write, Node.normalAll] using hnodes
  | .element name attributes children :: nodes, h, names, parent, opened, root?, latest, hl, text,
      rest => by
      let e : Element := ⟨name, attributes, Node.normalAll children⟩
      let flushed := (joinText (String.ofList text) []).reverse ++ latest
      obtain ⟨tail, htail⟩ := exists_write_element name attributes children
      let after := Node.writeAll nodes ++ '<' :: rest
      have htext := treeFrom_text names (.within parent opened root? latest) text (tail ++ after)
      have hattach : (Draft.within parent opened root? flushed).attach e =
          .ok (Draft.within parent opened root? (e.toNode :: flushed)) := rfl
      have helement := treeFrom_isLegible (.element name attributes children) h.1 names rfl hattach after
      have hnodes := treeFrom_areLegible nodes h.2 names parent opened root?
        (e.toNode :: flushed) (by simp [e, Element.toNode, Node.isText]) [] rest
      rw [String.ofList_nil, joinText_empty] at hnodes
      rw [Draft.write_within hl] at htext
      rw [Node.writeAll, htail, List.append_assoc, List.cons_append]
      refine htext.trans ?_
      rw [← List.cons_append, ← htail]
      refine (helement.trans hnodes).trans ?_
      rw [Node.normalAll, joinText_element rfl]
      simp [flushed, e, Element.toNode, Node.normal]
end

theorem treeFrom_write (node : Node) (h : node.hasPlainNames) (names : List (List Char)) {e : Element}
    {d d' : Draft} (he : node.normal.element? = some e) (hd : d.attach e = .ok d') (rest : List Char) :
    (readEvents names (node.write ++ rest)).treeFrom d = (readEvents names rest).treeFrom d' :=
  treeFrom_isLegible node (Node.isLegible_of_hasPlainNames node h) names he hd rest

/-- The tree of a reading of markup is the tree that was written, in normal form. -/
theorem parse_markup (e : Element) (h : e.toNode.hasPlainNames) :
    parse e.markup = .ok e.normal ∧ Node.areNormal e.normal.children ∧
      (Node.areNormal e.children → parse e.markup = .ok e) := by
  have hparse : parse e.markup = .ok e.normal := by
    have hread := treeFrom_write e.toNode h [] rfl (d := {}) rfl []
    rw [List.append_nil] at hread
    rw [parse, Element.markup, Node.markup, String.toList_ofList]
    refine Eq.trans hread ?_
    rw [readEvents]
    rfl
  refine ⟨hparse, Node.areNormal_normalAll e.children, fun hn => ?_⟩
  rw [hparse, Element.normal, Node.normalAll_of_areNormal e.children hn]

/-- Markup characters, line ends and blanks come back as they were; only texts are merged. -/
theorem parse_markup_item :
    parse (Element.markup ⟨"li", [("to", "\"<\n>\" & '")],
        [.text " ]]", .text "", .text "> ", .element "i" [] [.text ""]]⟩) =
      .ok ⟨"li", [("to", "\"<\n>\" & '")], [.text " ]]> ", .element "i" [] []]⟩ :=
  (parse_markup _ (by decide)).1.trans (congrArg Except.ok (by decide))

end Dialogue.Markup
