import Dialogue.Proofs.Markup.ReadTags
import Dialogue.Proofs.Markup.RoundTrip
import Dialogue.Rules.Loading

/-!
# Cut sources

Written markup that is cut off anywhere before its end is refused: a tag is not closed, or an element is
still open, or there is no root yet.
-/

namespace Dialogue.Markup

/-! ## Cut lists -/

theorem prefix_append_cases {α : Type} {m as bs : List α} (h : m <+: as ++ bs) :
    (m <+: as ∧ m ≠ as) ∨ ∃ m', m = as ++ m' ∧ m' <+: bs := by
  obtain ⟨t, ht⟩ := h
  obtain ⟨as', rfl, _⟩ | ⟨m', rfl, rfl⟩ := List.append_eq_append_iff.mp ht
  · cases as' with
    | nil => exact .inr ⟨[], by simp, List.nil_prefix⟩
    | cons a as' =>
        refine .inl ⟨List.prefix_append m _, fun he => ?_⟩
        exact List.cons_ne_nil a as' (List.self_eq_append_right.mp he)
  · exact .inr ⟨m', rfl, List.prefix_append m' t⟩

/-! ## Cut tags -/

theorem splitTag_append {q : Option Char} {cs content rest : List Char}
    (h : splitTag q cs = some (content, rest)) (more : List Char) :
    splitTag q (cs ++ more) = some (content, rest ++ more) := by
  obtain ⟨hq, rfl⟩ := closesQuotes_of_splitTag h
  rw [List.append_assoc, splitTag_of_closesQuotes hq]
  simp [splitTag]

theorem splitTag_of_cut {whole content m : List Char} (h : splitTag none whole = some (content, []))
    (hm : m <+: whole) (hne : m ≠ whole) : splitTag none m = none := by
  obtain ⟨more, rfl⟩ := hm
  cases hsplit : splitTag none m with
  | none => rfl
  | some r =>
      obtain ⟨content', rest⟩ := r
      have hwhole := splitTag_append hsplit more
      rw [h] at hwhole
      have hnil : rest ++ more = [] := (Prod.mk.inj (Option.some.inj hwhole)).2.symm
      refine absurd ?_ hne
      rw [(List.append_eq_nil_iff.mp hnil).2, List.append_nil]

theorem readMarkup_of_cut {c : Char} {cs content m : List Char}
    (h : splitTag none (c :: cs) = some (content, [])) (hc : c ∉ tagMarks)
    (hm : m <+: c :: cs) (hne : m ≠ c :: cs) : readMarkup m = .error (.badSyntax .tagNotClosed) := by
  have hsplit := splitTag_of_cut h hm hne
  have hhead : ∀ d ∈ tagMarks, ∀ m', m ≠ d :: m' := by
    rintro d hd m' rfl
    obtain ⟨rfl, _⟩ := List.cons_prefix_cons.mp hm
    exact hc hd
  rw [readMarkup]
  · rw [hsplit]
  · exact hhead _ (by decide)
  · exact hhead _ (by decide)
  · exact hhead _ (by decide)

theorem readMarkup_of_cutClosing {name m : List Char} (h : Passes name)
    (hm : m <+: '/' :: (name ++ ['>'])) (hne : m ≠ '/' :: (name ++ ['>'])) :
    readMarkup m = .error (.badSyntax .tagNotClosed) := by
  obtain rfl | ⟨m', rfl, hm'⟩ := List.prefix_cons_iff.mp hm
  · rfl
  · have hne' : m' ≠ name ++ ['>'] := fun he => hne (congrArg _ he)
    simp only [readMarkup, splitTag_of_cut (h.splitTag []) hm' hne']

/-! ## Refused sources -/

/-- From a draft on, the source gives no tree. -/
def Refused (names : List (List Char)) (d : Draft) (cs : List Char) : Prop :=
  ∃ fault, (readEvents names cs).treeFrom d = .error fault

theorem refused_nil {names : List (List Char)} {d : Draft} (h : ∃ fault, d.finish = .error fault) :
    Refused names d [] := by
  obtain ⟨fault, hd⟩ := h
  refine ⟨fault, ?_⟩
  rw [readEvents]
  exact hd

theorem refused_unreadable {cs : List Char} {fault : ReadFault} (h : readMarkup cs = .error fault)
    (names : List (List Char)) (d : Draft) : Refused names d ('<' :: cs) := by
  rw [Refused, readEvents_unreadable h]
  exact ⟨_, rfl⟩

theorem Draft.exists_finish_error {d : Draft} (h : d.opened ≠ []) : ∃ fault, d.finish = .error fault := by
  obtain ⟨_ | ⟨e, opened⟩, root?⟩ := d
  · exact absurd rfl h
  · exact ⟨_, rfl⟩

/-- A run of text closes no element. -/
theorem refused_text (names : List (List Char)) {d : Draft} (hd : d.opened ≠ []) {cs : List Char}
    (h : ∀ c ∈ cs, c ≠ '<') : Refused names d cs := by
  cases cs with
  | nil => exact refused_nil (Draft.exists_finish_error hd)
  | cons c cs =>
      obtain ⟨hc, hcs⟩ := List.forall_mem_cons.mp h
      have hall : ∀ x ∈ cs, decide (x ≠ '<') = true := fun x hx => decide_eq_true (hcs x hx)
      have hdrop : (cs ++ []).dropWhile (· ≠ '<') = [] := List.dropWhile_append_of_pos hall
      rw [List.append_nil] at hdrop
      have hopened : d.opened.isEmpty = false := by simpa using hd
      rw [Refused, readEvents.eq_3 _ _ _ hc, hdrop, readEvents]
      cases hdecode : decode (c :: cs.takeWhile (· ≠ '<')) with
      | error fault =>
          refine ⟨.unreadable (.reference fault), ?_⟩
          rw [Reading.treeFrom, Reading.cons, List.foldlM_cons, Draft.step, hopened, hdecode]
          rfl
      | ok text =>
          have hstep : d.step (.text (c :: cs.takeWhile (· ≠ '<'))) =
              .ok (d.write (String.ofList text)) := by
            rw [Draft.step, hopened, hdecode]
            rfl
          rw [Reading.treeFrom_cons hstep]
          exact Draft.exists_finish_error (Draft.opened_write_ne_nil hd _)

theorem Refused.of_eq {names names' : List (List Char)} {d d' : Draft} {cs cs' : List Char}
    (h : Refused names' d' cs')
    (he : (readEvents names cs).treeFrom d = (readEvents names' cs').treeFrom d') :
    Refused names d cs := by
  rw [Refused, he]
  exact h

/-! ## Cut markup -/

/-- A written tag that is cut is not closed. -/
theorem readMarkup_of_cutTag {name : String} {attributes : List (String × String)} {slash m : List Char}
    (hn : isPlainName name) (ha : ∀ a ∈ attributes, isPlainName a.1) (hslash : Passes slash)
    (hm : m <+: writeTag name attributes ++ slash ++ ['>'])
    (hne : m ≠ writeTag name attributes ++ slash ++ ['>']) :
    readMarkup m = .error (.badSyntax .tagNotClosed) := by
  have hsplit := ((Passes.tag hn ha).append hslash).splitTag []
  obtain ⟨c, cs, hname⟩ := exists_cons_of_isPlainName hn
  have hc : c ∉ tagMarks := not_mem_tagMarks_of_isPlainName hn (hname ▸ List.mem_cons_self)
  rw [writeTag, hname] at hsplit hm hne
  exact readMarkup_of_cut hsplit hc hm hne

mutual
theorem refused_write : (node : Node) → node.hasPlainNames → node.isText = false → ∀ names {d : Draft},
    (∃ fault, d.finish = .error fault) → ∀ {m}, m <+: node.write → m ≠ node.write → Refused names d m
  | .text _, _, hn, _, _, _, _, _, _ => nomatch hn
  | .element name attributes [], h, _, names, d, hd, m, hm, hne => by
      obtain ⟨hn, ha, _, _⟩ := hasPlainNames_element h
      have hwrite : (Node.element name attributes []).write =
          '<' :: (writeTag name attributes ++ ['/'] ++ ['>']) := by
        simp [Node.write]
      rw [hwrite] at hm hne
      obtain rfl | ⟨m', rfl, hm'⟩ := List.prefix_cons_iff.mp hm
      · exact refused_nil hd
      · have hne' : m' ≠ writeTag name attributes ++ ['/'] ++ ['>'] := fun he => hne (congrArg _ he)
        exact refused_unreadable (readMarkup_of_cutTag hn ha (.of_forall (by simp)) hm' hne') names d
  | .element name attributes (child :: children), h, _, names, d, hd, m, hm, hne => by
      obtain ⟨hn, ha, hkeys, hc⟩ := hasPlainNames_element h
      let inside := Node.writeAll (child :: children)
      let closing := '/' :: (name.toList ++ ['>'])
      let d' := Draft.within { name, attributes } d.opened d.root? []
      have hopened : d'.opened ≠ [] := List.cons_ne_nil _ _
      have hwrite : (Node.element name attributes (child :: children)).write =
          '<' :: (writeTag name attributes ++ [] ++ ['>'] ++ (inside ++ '<' :: closing)) := by
        simp [Node.write, Node.writeAll, inside, closing]
      rw [hwrite] at hm hne
      obtain rfl | ⟨m', rfl, hm'⟩ := List.prefix_cons_iff.mp hm
      · exact refused_nil hd
      -- The cut falls into the opening tag, or behind it.
      obtain ⟨htag, hne'⟩ | ⟨after, rfl, hafter⟩ := prefix_append_cases hm'
      · exact refused_unreadable (readMarkup_of_cutTag hn ha .nil htag hne') names d
      have htag : IsLegibleTag name attributes (child :: children) := .of_isPlainName hn ha hkeys _
      have hopening := treeFrom_opening names d htag.toIsTag htag.passes (getLast?_writeTag _ hn) after
      have hinside {m} (h : m <+: inside) : Refused (name.toList :: names) d' m :=
        refused_writeAll (child :: children) hc _ hopened [] h
      have hcut : Refused (name.toList :: names) d' after := by
        -- Into the children, or into the closing tag, behind all of them.
        obtain ⟨hafter, _⟩ | ⟨rest, rfl, hrest⟩ := prefix_append_cases hafter
        · exact hinside hafter
        obtain rfl | ⟨last, rfl, hlast⟩ := List.prefix_cons_iff.mp hrest
        · exact hinside (by simp)
        have hne' : last ≠ closing := by
          rintro rfl
          exact hne (by simp)
        have hlegible := Node.areLegible_of_havePlainNames (child :: children) hc
        have hread := treeFrom_areLegible (child :: children) hlegible (name.toList :: names)
          { name, attributes } d.opened d.root? [] (by simp) [] last
        exact (refused_unreadable (readMarkup_of_cutClosing (.name hn) hlast hne') _ _).of_eq hread
      refine hcut.of_eq (Eq.trans ?_ hopening)
      simp

theorem refused_writeAll : (nodes : List Node) → Node.havePlainNames nodes → ∀ names {d : Draft},
    d.opened ≠ [] → ∀ text {m}, m <+: escapeText text ++ Node.writeAll nodes → Refused names d m
  | [], _, names, d, hd, text, m, hm => by
      rw [Node.writeAll, List.append_nil] at hm
      exact refused_text names hd fun c hc => ne_lt_of_mem_escapeText (hm.mem hc)
  | .text value :: nodes, h, names, d, hd, text, m, hm => by
      simp only [Node.havePlainNames, Bool.and_eq_true] at h
      rw [Node.writeAll, Node.write, ← List.append_assoc, ← escapeText_append] at hm
      exact refused_writeAll nodes h.2 names hd _ hm
  | .element name attributes children :: nodes, h, names, d, hd, text, m, hm => by
      simp only [Node.havePlainNames, Bool.and_eq_true] at h
      let node := Node.element name attributes children
      obtain ⟨tail, htail⟩ := exists_write_element name attributes children
      obtain ⟨hm, _⟩ | ⟨after, rfl, hafter⟩ := prefix_append_cases hm
      · exact refused_text names hd fun c hc => ne_lt_of_mem_escapeText (hm.mem hc)
      cases after with
      | nil => exact refused_text names hd fun c hc => ne_lt_of_mem_escapeText (by simpa using hc)
      | cons c after =>
          have hc : c = '<' := by
            rw [Node.writeAll, htail] at hafter
            exact (List.cons_prefix_cons.mp hafter).1
          subst hc
          have htext := treeFrom_text names d text after
          have hd' := Draft.opened_write_ne_nil hd (String.ofList text)
          refine Refused.of_eq ?_ htext
          -- The text is read up to the element; now the cut is in the element, or among those behind it.
          obtain ⟨hcut, hne⟩ | ⟨rest, heq, hrest⟩ := prefix_append_cases hafter
          · exact refused_write node h.1 rfl names (Draft.exists_finish_error hd') hcut hne
          · let e : Element := ⟨name, attributes, Node.normalAll children⟩
            obtain ⟨d', hattach, hopened⟩ := Draft.exists_attach hd' e
            rw [heq]
            exact (refused_writeAll nodes h.2 names hopened [] hrest).of_eq
              (treeFrom_write node h.1 names rfl hattach rest)
end

/-- Every source that written markup only begins with is refused, and loads nothing. -/
theorem parse_refuses_cut (e : Element) (h : e.toNode.hasPlainNames) (m : String)
    (hm : m.toList <+: e.markup.toList) (hne : m ≠ e.markup) :
    ∃ fault, parse m = .error fault ∧
      ∀ (index : Index) (defaultTopic : String),
        index.load defaultTopic m = (.error (.source fault), index) := by
  have hwrite : e.markup.toList = e.toNode.write := String.toList_ofList
  rw [hwrite] at hm
  have hne' : m.toList ≠ e.toNode.write := by
    intro he
    exact hne (String.toList_inj.mp (he.trans hwrite.symm))
  obtain ⟨fault, hrefused⟩ := refused_write e.toNode h rfl [] (d := {}) ⟨_, rfl⟩ hm hne'
  have hparse : parse m = .error fault := hrefused
  refine ⟨fault, hparse, fun index defaultTopic => ?_⟩
  simp only [Index.load, entries, hparse]

/-- Cut off inside a reference, which is a fault of its own. -/
theorem parse_refuses_cut_reference :
    let e : Element := ⟨"aiml", [("version", "\">")], [.text "&", .element "category" [] []]⟩
    let m := "<aiml version=\"&quot;&gt;\">&am"
    (e.toNode.hasPlainNames ∧ m.toList <+: e.markup.toList ∧ m ≠ e.markup) ∧
      ∃ fault, parse m = .error fault ∧
        Index.empty.load "default" m = (.error (.source fault), Index.empty) := by
  intro e m
  have h : e.toNode.hasPlainNames = true ∧ m.toList <+: e.markup.toList ∧ m ≠ e.markup := by decide
  obtain ⟨fault, hparse, hload⟩ := parse_refuses_cut e h.1 m h.2.1 h.2.2
  exact ⟨h, fault, hparse, hload Index.empty "default"⟩

end Dialogue.Markup
