import Mathlib.Control.Monad.Basic
import Dialogue.Proofs.Markup.Brackets
import Dialogue.Proofs.Markup.CharacterData
import Dialogue.Proofs.Markup.ReadTrees

/-!
# Writing what was read

Names and keys are written as they are, so a tree that was read is read back from its markup only if every
tag can stand as it is written: its quotes have to pair in the order in which they now stand.
-/

namespace Dialogue.Markup

mutual
/-- In the markup of the node every tag ends where it should, and is a tag of its kind. -/
def Node.standsAsWritten : Node → Bool
  | .text _ => true
  | .element name attributes children =>
    closesQuotes none (writeTag name attributes) &&
      (if children.isEmpty then writeTag name attributes ≠ []
        else (writeTag name attributes).getLast? ≠ some '/') && Node.standAsWritten children

/-- In the markup of the nodes every tag ends where it should, and is a tag of its kind. -/
def Node.standAsWritten : List Node → Bool
  | [] => true
  | node :: nodes => node.standsAsWritten && Node.standAsWritten nodes
end

/-- The tag of an element can stand as it is written. -/
structure TagStands (name : String) (attributes : List (String × String)) (children : List Node) :
    Prop where
  closes : closesQuotes none (writeTag name attributes)
  nonempty : children = [] → writeTag name attributes ≠ []
  unslashed : children ≠ [] → (writeTag name attributes).getLast? ≠ some '/'

theorem standsAsWritten_element {name : String} {attributes : List (String × String)}
    {children : List Node} :
    (Node.element name attributes children).standsAsWritten ↔
      TagStands name attributes children ∧ Node.standAsWritten children := by
  simp only [Node.standsAsWritten, Bool.and_eq_true]
  refine and_congr_left fun _ => ?_
  cases children with
  | nil =>
      constructor
      · rintro ⟨hq, hne⟩
        exact ⟨hq, fun _ => by simpa using hne, absurd rfl⟩
      · rintro ⟨hq, hne, _⟩
        exact ⟨hq, by simpa using hne rfl⟩
  | cons child children =>
      constructor
      · rintro ⟨hq, hlast⟩
        exact ⟨hq, fun h => absurd h (List.cons_ne_nil _ _), fun _ => by simpa using hlast⟩
      · rintro ⟨hq, _, hlast⟩
        exact ⟨hq, by simpa using hlast (List.cons_ne_nil _ _)⟩

theorem TagStands.isLegibleTag {name : String} {attributes : List (String × String)}
    {children : List Node} (h : TagStands name attributes children) (htag : IsTag name attributes)
    (hq : children ≠ [] → closesQuotes none name.toList) : IsLegibleTag name attributes children where
  toIsTag := htag
  passes := passes_iff.mpr h.closes
  nonempty := h.nonempty
  unslashed := h.unslashed
  closes hne := passes_iff.mpr (hq hne)

mutual
theorem Node.IsRead.isLegible : (node : Node) → node.IsRead → node.standsAsWritten → node.IsLegible
  | .text _, _, _ => trivial
  | .element name attributes children, .element htag hq hc, h => by
      obtain ⟨hstands, hchildren⟩ := standsAsWritten_element.mp h
      exact ⟨hstands.isLegibleTag htag hq, Node.IsRead.areLegible children hc hchildren⟩

theorem Node.IsRead.areLegible : (nodes : List Node) → (∀ node ∈ nodes, node.IsRead) →
    Node.standAsWritten nodes → Node.AreLegible nodes
  | [], _, _ => trivial
  | node :: nodes, hread, h => by
      obtain ⟨hnode, hnodes⟩ := List.forall_mem_cons.mp hread
      simp only [Node.standAsWritten, Bool.and_eq_true] at h
      exact ⟨Node.IsRead.isLegible node hnode h.1, Node.IsRead.areLegible nodes hnodes h.2⟩
end

/-! ## Attributes that end elsewhere -/

/-- Of written attributes and what follows them, no other part gives the attributes. -/
theorem eq_of_readAttributes {attributes : List (String × String)} (hkeys : ∀ a ∈ attributes, isKey a.1)
    {size pos : Nat} {seen : List RawAttribute} {cs rest : List Char}
    (hcs : cs <+: attributes.flatMap writeAttribute ++ rest) (hrest : ∀ c ∈ rest.head?, isGap c = false)
    (h : readAttributes size pos seen cs = .ok attributes) : cs = attributes.flatMap writeAttribute := by
  induction attributes generalizing pos seen cs with
  | nil =>
      obtain ⟨hgaps, _⟩ | ⟨_, _, _, _, _, _, _, _, _, _, _, _, he⟩ := readAttributes_cases h
      · cases cs with
        | nil => rfl
        | cons c cs =>
            obtain ⟨more, rfl⟩ := hcs
            have hc : isGap c = false := hrest c rfl
            simp [hc] at hgaps
      · cases he
  | cons a attributes ih =>
      obtain ⟨hkey, hkeys⟩ := List.forall_mem_cons.mp hkeys
      obtain ⟨_, he⟩ | ⟨c, tail, _, _, value, after, text, others, hdrop, _, hvalue, hothers, he⟩ :=
        readAttributes_cases h
      · cases he
      · obtain ⟨_, rfl⟩ := List.cons.inj he
        obtain ⟨k, ks, hname, hk, hks⟩ := exists_cons_of_isKey hkey
        obtain ⟨more, hmore⟩ := hcs
        let behind := attributes.flatMap writeAttribute ++ rest
        have hwhole : cs ++ more = writeAttribute a ++ behind := by
          rw [hmore, List.flatMap_cons, List.append_assoc]
        have hgaps := dropWhile_append_of_eq_cons hdrop more
        rw [hwhole, dropWhile_isGap_writeAttribute hname hk] at hgaps
        obtain ⟨_, htail⟩ := List.cons.inj hgaps
        have hends : ∀ d ∈ ks, (!endsKey d) = true := fun d hd => by simp [hks d hd]
        -- With more behind it the value is read as before, and there it ends where it was written to end.
        have hbehind : after ++ more = behind := by
          cases hequals : tail.dropWhile (!endsKey ·) with
          | nil =>
              rw [hequals] at hvalue
              cases hvalue
          | cons d ds =>
              have hread := readValue_append hvalue size pos more
              rw [hequals, List.cons_append, ← dropWhile_append_of_eq_cons hequals more, ← htail,
                dropWhile_append_of_stop hends (by simp [endsKey]), readValue_written] at hread
              exact (Prod.mk.inj (Except.ok.inj hread)).2.symm
        have hafter := ih hkeys ⟨more, hbehind⟩ hothers
        rw [← hbehind, ← List.append_assoc] at hwhole
        rw [List.append_cancel_right hwhole, hafter, List.flatMap_cons]

/-! ## Tags that end elsewhere -/

section
variable {name : String} {attributes : List (String × String)}

/-- Of a written tag and what follows it, no other part has the name and the attributes. -/
theorem IsTag.eq_writeTag (h : IsTag name attributes) {content rest : List Char}
    (hcontent : content <+: writeTag name attributes ++ rest) (hrest : ∀ c ∈ rest.head?, isGap c = false)
    (he : Draft.elementOf (.ofContent content) = .ok { name, attributes }) :
    content = writeTag name attributes := by
  obtain ⟨hname, hattributes, _⟩ := Draft.elementOf_eq_ok he
  have hsplit : content = name.toList ++ content.dropWhile (!isGap ·) := by
    rw [hname]
    exact List.takeWhile_append_dropWhile.symm
  rw [hsplit, writeTag, List.append_assoc, List.prefix_append_right_inj] at hcontent
  rw [hsplit, eq_of_readAttributes h.keys hcontent hrest hattributes]
  rfl

theorem IsTag.ne_mark (h : IsTag name attributes) {c d : Char} {rest cs : List Char}
    (hc : c = '/' ∨ c = '>') (hd : d = '!' ∨ d = '?') : writeTag name attributes ++ c :: rest ≠ d :: cs := by
  intro heq
  by_cases hnil : writeTag name attributes = []
  · rw [hnil] at heq
    obtain ⟨rfl, _⟩ := List.cons.inj heq
    obtain rfl | rfl := hc
    · exact absurd hd (by decide)
    · exact absurd hd (by decide)
  · have hmark : d ∈ tagMarks := by
      obtain rfl | rfl := hd
      · decide
      · decide
    exact h.head_writeTag (fun hn => absurd hn hnil) d (by rw [heq, List.head?_cons]; rfl) hmark

theorem eq_of_prefix {α : Type} {before as bs whole : List α} {a b : α}
    (ha : before ++ a :: as <+: whole) (hb : before ++ b :: bs <+: whole) : a = b := by
  obtain ⟨cs, rfl⟩ := ha
  rw [List.append_assoc, List.prefix_append_right_inj] at hb
  exact (List.cons_prefix_cons.mp hb).1.symm

/-- If the tree goes on with the element, its tag was read up to its end, or up to a slash behind it. -/
theorem IsTag.exists_split (h : IsTag name attributes) {names : List (List Char)} {c : Char}
    {rest : List Char} {d : Draft} {e : Element} {more : List Bracket} (hc : c = '/' ∨ c = '>')
    (hread : (readEvents names ('<' :: (writeTag name attributes ++ c :: rest))).treeFrom d = .ok e)
    (hnext : d.brackets ++ .opens name attributes :: more <+: e.toNode.brackets) :
    (c = '/' → writeTag name attributes ≠ []) ∧
      ∃ content after, splitTag none (writeTag name attributes ++ c :: rest) = some (content, after) ∧
        (content = writeTag name attributes ++ ['/'] ∨
          content = writeTag name attributes ∧ content.getLast? ≠ some '/') := by
  obtain ⟨event, after, added, hm, hadded, hbegins⟩ := brackets_of_markup hread
  have hrest : ∀ x ∈ (c :: rest).head?, isGap x = false := by
    rintro _ ⟨⟩
    obtain rfl | rfl := hc
    · rfl
    · rfl
  have helement {content : List Char} {e' : Element} {bs : List Bracket}
      (hbegins : d.brackets ++ .opens e'.name e'.attributes :: bs <+: e.toNode.brackets)
      (he : Draft.elementOf (.ofContent content) = .ok e') :
      Draft.elementOf (.ofContent content) = .ok { name, attributes } := by
    obtain ⟨_, _, hchildren⟩ := Draft.elementOf_eq_ok he
    obtain ⟨name', attributes', children⟩ := e'
    cases hchildren
    cases eq_of_prefix hbegins hnext
    exact he
  -- No mark stands at the beginning, and a closing tag is not the bracket that comes next.
  obtain ⟨⟨cs, heq⟩, _⟩ | ⟨_, _, _, _, rfl⟩ | ⟨hhead, content, hsplit, rfl⟩ := readMarkup_cases hm
  · obtain heq | heq := heq
    · exact absurd heq (h.ne_mark hc (.inl rfl))
    · exact absurd heq (h.ne_mark hc (.inr rfl))
  · cases hadded
    cases eq_of_prefix hbegins hnext
  · have hcontent : content <+: writeTag name attributes ++ c :: rest :=
      ⟨_, (closesQuotes_of_splitTag hsplit).2.symm⟩
    refine ⟨fun hslash hnil => ?_, content, after, hsplit, ?_⟩
    · rw [hnil, hslash] at hhead
      exact hhead '/' rfl (by decide)
    · obtain ⟨cs, rfl, hevent⟩ | ⟨hlast, hevent⟩ := tagEvent_cases content
      · rw [hevent] at hadded
        obtain ⟨e', he', hbrackets⟩ := exists_of_bind_eq_ok hadded
        cases hbrackets
        have hcs : cs <+: writeTag name attributes ++ c :: rest :=
          (List.prefix_append cs ['/']).trans hcontent
        exact .inl (by rw [h.eq_writeTag hcs hrest (helement hbegins he')])
      · rw [hevent] at hadded
        obtain ⟨e', he', hbrackets⟩ := exists_of_bind_eq_ok hadded
        cases hbrackets
        exact .inr ⟨h.eq_writeTag hcontent hrest (helement hbegins he'), hlast⟩

variable (h : IsTag name attributes) {names : List (List Char)} {rest : List Char} {d : Draft}
  {e : Element} {more : List Bracket}
  (hnext : d.brackets ++ .opens name attributes :: more <+: e.toNode.brackets)
include h hnext

theorem IsTag.tagStands_empty
    (hread : (readEvents names ('<' :: (writeTag name attributes ++ '/' :: '>' :: rest))).treeFrom d =
      .ok e) : TagStands name attributes [] := by
  obtain ⟨hne, content, after, hsplit, hcontent⟩ := h.exists_split (.inl rfl) hread hnext
  obtain ⟨hq, hwhole⟩ := closesQuotes_of_splitTag hsplit
  obtain rfl | ⟨rfl, _⟩ := hcontent
  · have hslash : ∀ c ∈ ['/'], c ≠ '"' ∧ c ≠ '\'' := by simp
    exact ⟨closesQuotes_of_append (by simp) hslash hq, fun _ => hne rfl, absurd rfl⟩
  · cases List.append_cancel_left hwhole

theorem IsTag.tagStands_opening {children : List Node} (hc : children ≠ [])
    (hread : (readEvents names ('<' :: (writeTag name attributes ++ '>' :: rest))).treeFrom d = .ok e) :
    TagStands name attributes children := by
  obtain ⟨_, content, after, hsplit, hcontent⟩ := h.exists_split (.inr rfl) hread hnext
  obtain ⟨hq, hwhole⟩ := closesQuotes_of_splitTag hsplit
  obtain rfl | ⟨rfl, hlast⟩ := hcontent
  · rw [List.append_assoc] at hwhole
    cases List.append_cancel_left hwhole
  · exact ⟨hq, fun hnil => absurd hnil hc, fun _ => hlast⟩

end

/-! ## Trees -/

theorem brackets_normal (node : Node) {e : Element} (he : node.normal.element? = some e) :
    e.toNode.brackets = node.brackets := by
  cases node with
  | text value => cases he
  | element name attributes children =>
      cases he
      simp only [Element.toNode, Node.brackets, allBrackets_normalAll]

mutual
/-- An element of the tree, read from its markup, has tags that can stand. -/
theorem standsAsWritten_of_treeFrom : (node : Node) → node.IsRead → node.isText = false →
    ∀ names rest {d : Draft} {e : Element},
      (readEvents names (node.write ++ rest)).treeFrom d = .ok e →
      d.brackets ++ node.brackets <+: e.toNode.brackets → node.standsAsWritten
  | .text _, _, hn, _, _, _, _, _, _ => nomatch hn
  | .element name attributes [], .element htag _ _, _, names, rest, d, e, hread, hnext => by
      have hwrite : (Node.element name attributes []).write ++ rest =
          '<' :: (writeTag name attributes ++ '/' :: '>' :: rest) := by
        simp [Node.write]
      rw [hwrite] at hread
      exact standsAsWritten_element.mpr ⟨htag.tagStands_empty hnext hread, rfl⟩
  | .element name attributes (child :: children), .element htag hq hc, _, names, rest, d, e, hread,
      hnext => by
      let closing := '/' :: (name.toList ++ '>' :: rest)
      let opened : Draft := { d with opened := { name, attributes } :: d.opened }
      have hwrite : (Node.element name attributes (child :: children)).write ++ rest =
          '<' :: (writeTag name attributes ++ '>' ::
            (escapeText [] ++ (Node.writeAll (child :: children) ++ '<' :: closing))) := by
        simp [Node.write, Node.writeAll, escapeText, closing]
      rw [hwrite] at hread
      have hstands := htag.tagStands_opening hnext (List.cons_ne_nil child children) hread
      have hlegible := hstands.isLegibleTag htag hq
      rw [treeFrom_opening names d htag hlegible.passes (hstands.unslashed (List.cons_ne_nil _ _))] at hread
      have hopened : opened.brackets ++ Node.allBrackets (child :: children) <+: e.toNode.brackets := by
        have hbrackets : opened.brackets = d.brackets ++ [.opens name attributes] :=
          Draft.brackets_open d { name, attributes }
        rw [Node.brackets, ← List.cons_append, ← List.append_assoc] at hnext
        rw [hbrackets, List.append_assoc]
        exact (List.prefix_append _ _).trans hnext
      exact standsAsWritten_element.mpr
        ⟨hstands, standAsWritten_of_treeFrom (child :: children) hc _ [] _ (List.cons_ne_nil _ _) hread
          hopened⟩

theorem standAsWritten_of_treeFrom : (nodes : List Node) → (∀ node ∈ nodes, node.IsRead) →
    ∀ names text rest {d : Draft} {e : Element}, d.opened ≠ [] →
      (readEvents names (escapeText text ++ (Node.writeAll nodes ++ '<' :: rest))).treeFrom d = .ok e →
      d.brackets ++ Node.allBrackets nodes <+: e.toNode.brackets → Node.standAsWritten nodes
  | [], _, _, _, _, _, _, _, _, _ => rfl
  | .text value :: nodes, hread, names, text, rest, d, e, hd, htree, hnext => by
      rw [Node.writeAll, Node.write, List.append_assoc, ← List.append_assoc, ← escapeText_append] at htree
      exact standAsWritten_of_treeFrom nodes (List.forall_mem_cons.mp hread).2 names _ rest hd htree hnext
  | .element name attributes children :: nodes, hread, names, text, rest, d, e, hd, htree, hnext => by
      let node := Node.element name attributes children
      obtain ⟨hnode, hnodes⟩ := List.forall_mem_cons.mp hread
      obtain ⟨tail, htail⟩ := exists_write_element name attributes children
      let after := Node.writeAll nodes ++ '<' :: rest
      have hwrite : escapeText text ++ (Node.writeAll (node :: nodes) ++ '<' :: rest) =
          escapeText text ++ '<' :: (tail ++ after) := by
        simp [Node.writeAll, node, htail, after]
      rw [hwrite, treeFrom_text names d, ← List.cons_append, ← htail] at htree
      rw [Node.allBrackets, ← List.append_assoc, ← d.brackets_write (String.ofList text)] at hnext
      have hfirst := standsAsWritten_of_treeFrom node hnode rfl names after htree
        ((List.prefix_append _ _).trans hnext)
      let finished : Element := ⟨name, attributes, Node.normalAll children⟩
      obtain ⟨d', hattach, hd'⟩ :=
        Draft.exists_attach (Draft.opened_write_ne_nil hd (String.ofList text)) finished
      -- As the tags of the element stand, it is read to its end, and the others come next.
      have hlegible : node.IsLegible := Node.IsRead.isLegible node hnode hfirst
      rw [treeFrom_isLegible node hlegible names rfl hattach] at htree
      have hbrackets : d'.brackets = (d.write (String.ofList text)).brackets ++ node.brackets := by
        rw [Draft.brackets_attach hattach, brackets_normal node rfl]
      rw [← hbrackets] at hnext
      have hothers := standAsWritten_of_treeFrom nodes hnodes names [] rest hd' htree hnext
      simp only [Node.standAsWritten, Bool.and_eq_true]
      exact ⟨hfirst, hothers⟩
end

/-- What was read is read back from its markup if every tag can stand as it is written, and only then. -/
theorem parse_markup_iff (source : String) (e : Element) (h : parse source = .ok e) :
    parse e.markup = .ok e ↔ e.toNode.standsAsWritten := by
  obtain ⟨hnode, hnormal⟩ := isRead_of_parse h
  constructor
  · intro hagain
    rw [parse, Element.markup, Node.markup, String.toList_ofList] at hagain
    refine standsAsWritten_of_treeFrom e.toNode hnode rfl [] [] (d := {}) ?_ List.prefix_rfl
    rw [List.append_nil]
    exact hagain
  · intro hstands
    have hlegible : e.toNode.IsLegible := Node.IsRead.isLegible e.toNode hnode hstands
    have hsame : e.toNode.normal.element? = some e := by
      rw [Element.toNode, Node.normal, Node.normalAll_of_areNormal e.children hnormal]
      rfl
    have hreads : ReadsAs e.toNode.write e := fun names _ _ hd rest =>
      treeFrom_isLegible e.toNode hlegible names hsame hd rest
    exact hreads.parse

/-- Names with quotes that hide a `>` from the tag, an empty name, and a value that is written in other
quotes than it was read in. -/
theorem parse_markup_iff_quotes :
    let source := "<q'>' k='\">'>< k=''/>x<>y</></q'>' >"
    let e : Element := ⟨"q'>'", [("k", "\">")],
      [.element "" [("k", "")] [], .text "x", .element "" [] [.text "y"]]⟩
    parse source = .ok e ∧ parse e.markup = .ok e := by
  intro source e
  have h : parse source = .ok e := by decide +kernel
  exact ⟨h, (parse_markup_iff source e h).mpr (by decide)⟩

/-- The name of an element can end in a slash, which makes another tag of it when it is written. -/
theorem parse_markup_refused_slash :
    let e : Element := ⟨"a/", [], [.text "x"]⟩
    parse "<a/ >x</a/>" = .ok e ∧ e.markup = "<a/>x</a/>" ∧
      parse e.markup = .error (.unreadable (.illFormed (.unmatchedClose "a/"))) := by
  intro e
  exact ⟨by decide +kernel, by decide +kernel, by decide +kernel⟩

end Dialogue.Markup
