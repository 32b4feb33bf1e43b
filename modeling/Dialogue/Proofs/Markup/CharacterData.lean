import Dialogue.Proofs.Markup.RoundTrip

/-!
# Character data

A text can be written in many ways: with references or without, in CDATA sections, with comments and
processing instructions in between. All of them are read as the same text.
-/

namespace Dialogue.Markup

/-- The source is character data that stands for the text: characters and references, CDATA sections,
comments and processing instructions in any mix. -/
inductive Spells : (source text : List Char) → Prop
  | nil : Spells [] []
  | raw {raw text rest more : List Char} :
    (∀ c ∈ raw, c ≠ '<') → decode raw = .ok text → Spells rest more →
      Spells (raw ++ rest) (text ++ more)
  | cdata {content rest more : List Char} :
    ¬ "]]>".toList <:+: content → Spells rest more →
      Spells ("<![CDATA[".toList ++ content ++ "]]>".toList ++ rest) (content ++ more)
  | comment {body rest more : List Char} :
    ¬ "-->".toList <:+: body → Spells rest more →
      Spells ("<!--".toList ++ body ++ "-->".toList ++ rest) more
  | instruction {body rest more : List Char} :
    ¬ "?>".toList <:+: '?' :: body → Spells rest more →
      Spells ("<?".toList ++ body ++ "?>".toList ++ rest) more

theorem Spells.escaped (text : List Char) {rest more : List Char} (h : Spells rest more) :
    Spells (escapeText text ++ rest) (text ++ more) :=
  .raw (fun _ => ne_lt_of_mem_escapeText) (decode_escapeText text) h

/-! ## References in joined texts -/

theorem resolve_eq_ok {start : Nat} {name : List Char} {c : Char} (h : resolve start name = .ok c)
    (start' : Nat) : resolve start' name = .ok c := by
  unfold resolve at h
  split at h
  · exact h
  · rename_i hname
    split at h
    · rename_i he
      rw [resolve.eq_2 _ _ hname, he]
      exact h
    · cases h

theorem exists_of_map_eq_ok {ε α β : Type} {f : α → β} {r : Except ε α} {b : β} (h : f <$> r = .ok b) :
    ∃ a, r = .ok a ∧ f a = b := by
  cases r with
  | error e => cases h
  | ok a => exact ⟨a, rfl, Except.ok.inj h⟩

mutual
/-- What decodes in one text does in every other, as positions only show in faults, and what follows it is
decoded on its own. -/
theorem decodeFrom_append {size pos : Nat} : {cs xs : List Char} → decodeFrom size pos cs = .ok xs →
    ∀ size' pos', ∃ pos'', ∀ ds,
      decodeFrom size' pos' (cs ++ ds) = (xs ++ ·) <$> decodeFrom size' pos'' ds
  | [], xs, h, size', pos' => by
      cases h
      exact ⟨pos', fun ds => by simp⟩
  | c :: cs, xs, h, size', pos' => by
      by_cases hc : c = '&'
      · simp only [List.cons_append, decodeFrom, if_pos hc] at h ⊢
        exact decodeName_append h size' pos'
      · simp only [List.cons_append, decodeFrom, if_neg hc] at h ⊢
        obtain ⟨ys, hcs, rfl⟩ := exists_of_map_eq_ok h
        obtain ⟨pos'', happend⟩ := decodeFrom_append hcs size' (pos' + c.utf8Size)
        refine ⟨pos'', fun ds => ?_⟩
        rw [happend]
        exact Functor.map_map _ _ (decodeFrom size' pos'' ds)

theorem decodeName_append {size start : Nat} {seen : List Char} : {cs xs : List Char} →
    decodeName size start seen cs = .ok xs →
    ∀ size' start', ∃ pos'', ∀ ds,
      decodeName size' start' seen (cs ++ ds) = (xs ++ ·) <$> decodeFrom size' pos'' ds
  | [], xs, h, size', start' => by
      cases h
  | c :: cs, xs, h, size', start' => by
      by_cases hc : c = ';'
      · simp only [List.cons_append, decodeName, if_pos hc] at h ⊢
        cases hx : resolve start seen.reverse with
        | error fault =>
            rw [hx] at h
            cases h
        | ok x =>
            rw [hx] at h
            have h : (x :: ·) <$> decodeFrom size (start + byteCount seen + 2) cs = .ok xs := h
            obtain ⟨ys, hcs, rfl⟩ := exists_of_map_eq_ok h
            obtain ⟨pos'', happend⟩ := decodeFrom_append hcs size' (start' + byteCount seen + 2)
            refine ⟨pos'', fun ds => ?_⟩
            rw [resolve_eq_ok hx, happend]
            exact Functor.map_map _ _ (decodeFrom size' pos'' ds)
      · by_cases hamp : c = '&'
        · simp only [decodeName, if_neg hc, if_pos hamp] at h
          cases h
        · simp only [List.cons_append, decodeName, if_neg hc, if_neg hamp] at h ⊢
          exact decodeName_append h size' start'
end

theorem decode_append {cs ds xs ys : List Char} (hc : decode cs = .ok xs) (hd : decode ds = .ok ys) :
    decode (cs ++ ds) = .ok (xs ++ ys) := by
  obtain ⟨pos, hcs⟩ := decodeFrom_append hc (byteCount (cs ++ ds)) 0
  obtain ⟨pos', hds⟩ := decodeFrom_append hd (byteCount (cs ++ ds)) pos
  have hend : decodeFrom (byteCount (cs ++ ds)) pos ds = .ok (ys ++ []) :=
    (congrArg _ (List.append_nil ds)).symm.trans (hds [])
  rw [decode, hcs, hend, List.append_nil]
  rfl

/-! ## Delimited items -/

theorem exists_of_append_eq {c : Char} {body tail pre post : List Char} (htail : c ∉ tail)
    (h : body ++ tail = pre ++ c :: post) : ∃ post', body = pre ++ c :: post' := by
  obtain ⟨m, _, hm⟩ | ⟨m, hbody, hm⟩ := List.append_eq_append_iff.mp h
  · exact absurd (hm ▸ List.mem_append_right m List.mem_cons_self) htail
  · cases m with
    | nil =>
        rw [List.nil_append] at hm
        exact absurd (hm ▸ List.mem_cons_self) htail
    | cons x m =>
        obtain ⟨rfl, _⟩ := List.cons.inj hm
        exact ⟨m, hbody⟩

/-- No item ends before a `>`. -/
theorem splitClose_append {ends : List Char → Bool} {cs : List Char} (h : '>' ∉ cs)
    (seen rest : List Char) :
    splitClose ends seen (cs ++ rest) = splitClose ends (cs.reverse ++ seen) rest := by
  induction cs generalizing seen with
  | nil => rfl
  | cons c cs ih =>
      obtain ⟨hc, hcs⟩ := not_or.mp (mt List.mem_cons.mpr h)
      rw [List.cons_append, splitClose, if_neg fun hend => hc hend.1.symm, ih hcs, List.reverse_cons,
        List.append_assoc, List.singleton_append]

/-- An item goes on up to the first `>` at which it may end. -/
theorem splitClose_eq {ends : List Char → Bool} {seen body : List Char} (rest : List Char)
    (hbody : ∀ pre post, body = pre ++ '>' :: post → ¬ ends (pre.reverse ++ seen))
    (hend : ends (body.reverse ++ seen)) :
    splitClose ends seen (body ++ '>' :: rest) = some (seen.reverse ++ body, rest) := by
  induction body generalizing seen with
  | nil =>
      have hseen : ends seen = true := hend
      simp [splitClose, hseen]
  | cons c body ih =>
      have hc : ¬ (c = '>' ∧ ends seen = true) := by
        rintro ⟨rfl, hseen⟩
        exact hbody [] body rfl hseen
      rw [List.cons_append, splitClose, if_neg hc, ih]
      · simp
      · intro pre post h
        simpa using hbody (c :: pre) post (congrArg (c :: ·) h)
      · simpa using hend

/-- Between an opening and an end that have no `>`, only one in the body could end an item early. -/
theorem delimited_between {ends : List Char → Bool} {fault : SyntaxFault}
    {check : List Char → Except ReadFault Event} {c : Char} {opening body closing : List Char}
    {e : Event} (rest : List Char) (hopening : '>' ∉ opening) (hclosing : '>' ∉ closing)
    (hbody : ∀ pre post, body = pre ++ '>' :: post → ¬ ends (pre.reverse ++ (opening.reverse ++ [c])))
    (hend : ends ((body ++ closing).reverse ++ (opening.reverse ++ [c])))
    (hcheck : check (c :: (opening ++ (body ++ closing))) = .ok e) :
    delimited ends fault check c (opening ++ (body ++ closing ++ '>' :: rest)) = .ok (e, rest) := by
  have hearly : ∀ pre post, body ++ closing = pre ++ '>' :: post →
      ¬ ends (pre.reverse ++ (opening.reverse ++ [c])) := by
    intro pre post h
    obtain ⟨post', hpost⟩ := exists_of_append_eq hclosing h
    exact hbody pre post' hpost
  rw [delimited, splitClose_append hopening, splitClose_eq rest hearly hend]
  simp [hcheck, Except.map]

/-- What ends an item before a `>` of its body stands in the body. -/
theorem infix_of_reverse (closing : List Char) {body pre post seen : List Char}
    (hbody : body = pre ++ '>' :: post) (hpre : pre.reverse = closing.reverse ++ seen) :
    closing ++ ['>'] <:+: body := by
  have hstart : pre = seen.reverse ++ closing := by
    simpa using congrArg List.reverse hpre
  exact ⟨seen.reverse, post, by simp [hbody, hstart]⟩

/-! ## Sections, comments and instructions -/

/-- In a section, a `]]` that ends before a `>` cannot reach back into the opening. -/
theorem endsCdata_append : {l seen : List Char} → endsCdata (l ++ '[' :: seen) →
    ∃ start, l = ']' :: ']' :: start
  | [], _, h => by simp [endsCdata] at h
  | [_], _, h => by simp [endsCdata] at h
  | b :: a :: l, seen, h => by
      simp only [List.cons_append, endsCdata] at h
      split at h
      · rename_i hl
        obtain ⟨rfl, rfl, _⟩ := by simpa using hl
        exact ⟨l, rfl⟩
      · cases h

/-- In a comment, neither can a `--`, as at least five characters stand before the `>`. -/
theorem endsComment_append : {l : List Char} → endsComment (l ++ "--!".toList) →
    ∃ start, l = '-' :: '-' :: start
  | [], h => by simp [endsComment] at h
  | [_], h => by
      simp only [endsComment] at h
      split at h
      · rename_i hl
        obtain ⟨rfl, rfl⟩ := by simpa using hl
        exact absurd h (by decide)
      · cases h
  | b :: a :: l, h => by
      simp only [List.cons_append, endsComment] at h
      split at h
      · rename_i hl
        obtain ⟨rfl, rfl, _⟩ := by simpa using hl
        exact ⟨l, rfl⟩
      · cases h

theorem exists_of_endsInstruction {l : List Char} (h : endsInstruction l) : ∃ start, l = '?' :: start := by
  unfold endsInstruction at h
  split at h
  · exact ⟨_, rfl⟩
  · cases h

theorem readMarkup_cdata {content : List Char} (h : ¬ "]]>".toList <:+: content) (rest : List Char) :
    readMarkup ("![CDATA[".toList ++ (content ++ "]]>".toList ++ rest)) =
      .ok (.cdata content, rest) := by
  have hread : delimited endsCdata .cdataNotClosed checkCdata '!'
      ("[CDATA[".toList ++ (content ++ "]]".toList ++ '>' :: rest)) = .ok (.cdata content, rest) := by
    refine delimited_between rest (by decide) (by decide) (fun pre post hcontent hends => ?_) ?_ ?_
    · obtain ⟨start, hpre⟩ := endsCdata_append hends
      exact h (infix_of_reverse "]]".toList hcontent hpre)
    · simp [endsCdata]
    · simp [checkCdata]
  simpa [readMarkup] using hread

theorem readMarkup_comment {body : List Char} (h : ¬ "-->".toList <:+: body) (rest : List Char) :
    readMarkup ("!--".toList ++ (body ++ "-->".toList ++ rest)) = .ok (.aside, rest) := by
  have hread : delimited endsComment .commentNotClosed checkComment '!'
      ("--".toList ++ (body ++ "--".toList ++ '>' :: rest)) = .ok (.aside, rest) := by
    refine delimited_between rest (by decide) (by decide) (fun pre post hbody hends => ?_) ?_ ?_
    · obtain ⟨start, hpre⟩ := endsComment_append hends
      exact h (infix_of_reverse "--".toList hbody hpre)
    · simp [endsComment]
    · simp [checkComment]
  simpa [readMarkup] using hread

theorem readMarkup_instruction {body : List Char} (h : ¬ "?>".toList <:+: '?' :: body)
    (rest : List Char) :
    readMarkup ("?".toList ++ (body ++ "?>".toList ++ rest)) = .ok (.aside, rest) := by
  have hread : delimited endsInstruction .instructionNotClosed checkInstruction '?'
      ("".toList ++ (body ++ "?".toList ++ '>' :: rest)) = .ok (.aside, rest) := by
    refine delimited_between rest (by decide) (by decide) (fun pre post hbody hends => ?_) ?_ ?_
    · obtain ⟨start, hpre⟩ := exists_of_endsInstruction hends
      have hall : '?' :: body = ('?' :: pre) ++ '>' :: post := congrArg ('?' :: ·) hbody
      exact h (infix_of_reverse "?".toList hall ((List.reverse_cons).trans hpre))
    · simp [endsInstruction]
    · simp [checkInstruction]
  simpa [readMarkup] using hread

/-! ## Character data in a document -/

namespace Draft

theorem addText_append (a b : String) (nodes : List Node) :
    addText b (addText a nodes) = addText (a ++ b) nodes := by
  match nodes with
  | [] | .text _ :: _ | .element .. :: _ =>
      by_cases ha : a = "" <;> by_cases hb : b = "" <;>
        simp [addText, ha, hb, String.append_eq_empty_iff, String.append_assoc]

theorem write_append (d : Draft) (a b : String) : (d.write a).write b = d.write (a ++ b) := by
  obtain ⟨_ | ⟨parent, opened⟩, root?⟩ := d
  · rfl
  · simp only [write, addText_append]

end Draft

/-- Text up to an item that opens and closes nothing, and the item. -/
theorem treeFrom_raw_markup (names : List (List Char)) {d d' : Draft} {raw text cs rest : List Char}
    {event : Event} (hlt : ∀ c ∈ raw, c ≠ '<') (hdecode : decode raw = .ok text)
    (hm : readMarkup cs = .ok (event, rest)) (ho : trackOpen names event = .ok names)
    (hs : (d.write (String.ofList text)).step event = .ok d') :
    (readEvents names (raw ++ '<' :: cs)).treeFrom d = (readEvents names rest).treeFrom d' :=
  (treeFrom_raw names d hlt hdecode (by simp)).trans (treeFrom_markup hm ho hs)

/-- Character data is read up to the next tag or the end, with the text before it that was not yet read,
and the text is added to the innermost element; outside the root it is dropped. -/
theorem treeFrom_spells {source text : List Char} (h : Spells source text) (names : List (List Char))
    (d : Draft) {raw before : List Char} (hlt : ∀ c ∈ raw, c ≠ '<') (hdecode : decode raw = .ok before)
    {rest : List Char} (hrest : ∀ c ∈ rest.head?, c = '<') :
    (readEvents names (raw ++ (source ++ rest))).treeFrom d =
      (readEvents names rest).treeFrom (d.write (String.ofList (before ++ text))) := by
  have hnil : ∀ c ∈ ([] : List Char), c ≠ '<' := List.forall_mem_nil _
  induction h generalizing d raw before with
  | nil =>
      rw [List.append_nil]
      exact treeFrom_raw names d hlt hdecode hrest
  | raw hlt' hdecode' _ ih =>
      have hread := ih d (List.forall_mem_append.mpr ⟨hlt, hlt'⟩) (decode_append hdecode hdecode')
      simpa using hread
  | @cdata content after more h _ ih =>
      have hwrite : (d.write (String.ofList before)).write (String.ofList content) =
          d.write (String.ofList (before ++ content)) := by
        rw [Draft.write_append, String.ofList_append]
      have hitem := treeFrom_raw_markup names hlt hdecode (readMarkup_cdata h (after ++ rest)) rfl
        (congrArg Except.ok hwrite)
      have hafter := ih (d.write (String.ofList (before ++ content))) hnil rfl
      rw [Draft.write_append, ← String.ofList_append] at hafter
      simpa using hitem.trans hafter
  | @comment body after more h _ ih =>
      have hitem := treeFrom_raw_markup (d := d) names hlt hdecode (readMarkup_comment h (after ++ rest)) rfl rfl
      have hafter := ih (d.write (String.ofList before)) hnil rfl
      rw [Draft.write_append, ← String.ofList_append] at hafter
      simpa using hitem.trans hafter
  | @instruction body after more h _ ih =>
      have hitem := treeFrom_raw_markup (d := d) names hlt hdecode (readMarkup_instruction h (after ++ rest)) rfl
        rfl
      have hafter := ih (d.write (String.ofList before)) hnil rfl
      rw [Draft.write_append, ← String.ofList_append] at hafter
      simpa using hitem.trans hafter

/-! ## Elements around character data -/

/-- An element as written, from what is between its tags. -/
def writeAround (name : String) (attributes : List (String × String)) (inside : List Char) : List Char :=
  '<' :: (writeTag name attributes ++ '>' :: (inside ++ '<' :: '/' :: (name.toList ++ ['>'])))

/-- Wherever the source stands in a document, it is read as the element. -/
def ReadsAs (source : List Char) (e : Element) : Prop :=
  ∀ names {d d' : Draft}, d.attach e = .ok d' → ∀ rest,
    (readEvents names (source ++ rest)).treeFrom d = (readEvents names rest).treeFrom d'

/-- Between the tags of an element, the source is read as its children. -/
def Fills (inside : List Char) (children : List Node) : Prop :=
  ∀ names parent opened root? rest,
    (readEvents names (inside ++ '<' :: rest)).treeFrom (.within parent opened root? []) =
      (readEvents names ('<' :: rest)).treeFrom (.within parent opened root? children.reverse)

theorem ReadsAs.parse {source : List Char} {e : Element} (h : ReadsAs source e) :
    parse (String.ofList source) = .ok e := by
  have hread := h [] (d := {}) rfl []
  rw [List.append_nil] at hread
  rw [Markup.parse, String.toList_ofList]
  refine Eq.trans hread ?_
  rw [readEvents]
  rfl

theorem ReadsAs.around {name : String} {attributes : List (String × String)} {inside : List Char}
    {children : List Node} (hn : isPlainName name) (ha : ∀ a ∈ attributes, isPlainName a.1)
    (hkeys : (attributes.map (·.1)).Nodup) (h : Fills inside children) :
    ReadsAs (writeAround name attributes inside) { name, attributes, children } := by
  intro names d d' hd rest
  have hwritten : writeAround name attributes inside ++ rest = '<' :: (writeTag name attributes ++ '>' ::
      (inside ++ '<' :: '/' :: (name.toList ++ '>' :: rest))) := by
    simp [writeAround]
  have hinside := h (name.toList :: names) { name, attributes } d.opened d.root?
    ('/' :: (name.toList ++ '>' :: rest))
  have htag : IsLegibleTag name attributes children := .of_isPlainName hn ha hkeys children
  rw [hwritten, treeFrom_opening names d htag.toIsTag htag.passes (getLast?_writeTag attributes hn)]
  exact hinside.trans (treeFrom_closing names htag.solid (.name hn) hd rest)

/-- Character data is read as one text, or as nothing if the text is empty. -/
theorem Spells.fills {source text : List Char} (h : Spells source text) :
    Fills source (joinText (String.ofList text) []) := by
  intro names parent opened root? rest
  have hstop : ∀ c ∈ ('<' :: rest).head?, c = '<' := by simp
  have hread := treeFrom_spells h names (.within parent opened root? []) (List.forall_mem_nil _)
    (rfl : decode [] = .ok []) hstop
  rw [Draft.write_within (by simp), List.append_nil] at hread
  exact hread

/-- Elements one after another are read as they are, whatever was read before them. -/
theorem treeFrom_elements {items : List (List Char × Element)} (h : ∀ i ∈ items, ReadsAs i.1 i.2)
    (names : List (List Char)) (parent : Element) (opened : List Element) (root? : Option Element)
    (latest : List Node) (rest : List Char) :
    (readEvents names (items.flatMap (·.1) ++ rest)).treeFrom (.within parent opened root? latest) =
      (readEvents names rest).treeFrom
        (.within parent opened root? ((items.map (·.2.toNode)).reverse ++ latest)) := by
  induction items generalizing latest with
  | nil => rfl
  | cons i items ih =>
      obtain ⟨hi, hitems⟩ := List.forall_mem_cons.mp h
      have hread := hi names (d := .within parent opened root? latest) rfl (items.flatMap (·.1) ++ rest)
      rw [List.flatMap_cons, List.append_assoc, hread]
      refine (ih hitems (i.2.toNode :: latest)).trans ?_
      rw [List.map_cons, List.reverse_cons, List.append_assoc, List.singleton_append]

theorem Fills.elements {items : List (List Char × Element)} (h : ∀ i ∈ items, ReadsAs i.1 i.2) :
    Fills (items.flatMap (·.1)) (items.map (·.2.toNode)) := by
  intro names parent opened root? rest
  rw [treeFrom_elements h, List.append_nil]

end Dialogue.Markup
