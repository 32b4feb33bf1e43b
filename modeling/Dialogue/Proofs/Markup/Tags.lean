import Dialogue.Markup.Event
import Dialogue.Markup.Print

/-!
# Reading what was written: text and tags

Escaped text is decoded to the text it was made from, and tags whose names and keys have nothing in them
that reads otherwise are split, told apart and taken to pieces as they were put together.
-/

namespace Dialogue.Markup

/-! ## Escaped text -/

/-- A character is decoded from its escaped form, whatever follows it. -/
def Decodes (escape : Char → List Char) : Prop :=
  ∀ c size pos rest, ∃ pos',
    decodeFrom size pos (escape c ++ rest) = (c :: ·) <$> decodeFrom size pos' rest

theorem decodes_escapeTextChar : Decodes escapeTextChar := by
  intro c size pos rest
  unfold escapeTextChar
  split
  · exact ⟨_, rfl⟩
  · exact ⟨_, rfl⟩
  · exact ⟨_, rfl⟩
  · next hamp =>
      have hne : c ≠ '&' := hamp
      exact ⟨pos + c.utf8Size, by simp [decodeFrom, hne]⟩

theorem decodes_escapeAttributeChar : Decodes escapeAttributeChar := by
  intro c size pos rest
  unfold escapeAttributeChar
  split
  · exact ⟨_, rfl⟩
  · exact ⟨_, rfl⟩
  · exact decodes_escapeTextChar c size pos rest

theorem Decodes.flatMap {escape : Char → List Char} (h : Decodes escape) (cs : List Char)
    (size pos : Nat) : decodeFrom size pos (cs.flatMap escape) = .ok cs := by
  induction cs generalizing pos with
  | nil => rfl
  | cons c cs ih =>
      obtain ⟨pos', hc⟩ := h c size pos (cs.flatMap escape)
      rw [List.flatMap_cons, hc, ih]
      rfl

theorem decode_escapeText (cs : List Char) : decode (escapeText cs) = .ok cs :=
  decodes_escapeTextChar.flatMap cs _ _

theorem decode_escapeAttribute (cs : List Char) : decode (escapeAttribute cs) = .ok cs :=
  decodes_escapeAttributeChar.flatMap cs _ _

theorem escapeText_append (cs ds : List Char) :
    escapeText (cs ++ ds) = escapeText cs ++ escapeText ds :=
  List.flatMap_append

theorem ne_lt_of_mem_escapeText {cs : List Char} {d : Char} (h : d ∈ escapeText cs) : d ≠ '<' := by
  obtain ⟨c, _, hd⟩ := List.mem_flatMap.mp h
  clear h
  unfold escapeTextChar at hd
  split at hd
  · rintro rfl; exact absurd hd (by decide)
  · rintro rfl; exact absurd hd (by decide)
  · rintro rfl; exact absurd hd (by decide)
  · next hlt _ _ =>
      rintro rfl
      exact hlt (List.mem_singleton.mp hd).symm

theorem ne_quote_of_mem_escapeTextChar {c d : Char} (hc : c ≠ '"') (h : d ∈ escapeTextChar c) :
    d ≠ '"' := by
  unfold escapeTextChar at h
  split at h
  · rintro rfl; exact absurd h (by decide)
  · rintro rfl; exact absurd h (by decide)
  · rintro rfl; exact absurd h (by decide)
  · rintro rfl
    exact hc (List.mem_singleton.mp h).symm

theorem ne_quote_of_mem_escapeAttribute {cs : List Char} {d : Char} (h : d ∈ escapeAttribute cs) :
    d ≠ '"' := by
  obtain ⟨c, _, hd⟩ := List.mem_flatMap.mp h
  clear h
  unfold escapeAttributeChar at hd
  split at hd
  · rintro rfl; exact absurd hd (by decide)
  · rintro rfl; exact absurd hd (by decide)
  · next hquote => exact ne_quote_of_mem_escapeTextChar hquote hd

/-! ## Plain names -/

/-- A name that stands for nothing else in markup. -/
def isPlainName (name : String) : Bool :=
  name ≠ "" && name.toList.all fun c => !" \t\r\n<>/=\"'&!?".toList.contains c

theorem exists_cons_of_isPlainName {name : String} (h : isPlainName name) :
    ∃ c cs, name.toList = c :: cs := by
  simp only [isPlainName, Bool.and_eq_true, decide_eq_true_eq] at h
  exact List.exists_cons_of_ne_nil fun hn => h.1 (String.toList_eq_nil_iff.mp hn)

theorem not_special_of_isPlainName {name : String} (h : isPlainName name) {c : Char}
    (hc : c ∈ name.toList) : c ∉ " \t\r\n<>/=\"'&!?".toList := by
  simp only [isPlainName, Bool.and_eq_true, List.all_eq_true, Bool.not_eq_true'] at h
  simpa using h.2 c hc

theorem ne_of_isPlainName {name : String} (h : isPlainName name) {c d : Char}
    (hc : c ∈ name.toList) (hd : d ∈ " \t\r\n<>/=\"'&!?".toList) : c ≠ d :=
  fun he => not_special_of_isPlainName h hc (he ▸ hd)

theorem not_isGap_of_isPlainName {name : String} (h : isPlainName name) {c : Char}
    (hc : c ∈ name.toList) : isGap c = false := by
  simp only [isGap, Bool.or_eq_false_iff, decide_eq_false_iff_not]
  exact ⟨⟨⟨ne_of_isPlainName h hc (by decide), ne_of_isPlainName h hc (by decide)⟩,
    ne_of_isPlainName h hc (by decide)⟩, ne_of_isPlainName h hc (by decide)⟩

theorem not_endsKey_of_isPlainName {name : String} (h : isPlainName name) {c : Char}
    (hc : c ∈ name.toList) : endsKey c = false := by
  simp only [endsKey, Bool.or_eq_false_iff, decide_eq_false_iff_not]
  exact ⟨ne_of_isPlainName h hc (by decide), not_isGap_of_isPlainName h hc⟩

/-! ## Names and keys of tags -/

/-- A key ends before the first gap or `=`, but it may begin with `=`. -/
def isKey (key : String) : Bool :=
  match key.toList with
  | [] => false
  | c :: cs => !isGap c && cs.all (!endsKey ·)

theorem exists_cons_of_isKey {key : String} (h : isKey key) :
    ∃ c cs, key.toList = c :: cs ∧ isGap c = false ∧ ∀ d ∈ cs, endsKey d = false := by
  unfold isKey at h
  split at h
  · cases h
  · next c cs hkey =>
      simp only [Bool.and_eq_true, Bool.not_eq_true', List.all_eq_true] at h
      exact ⟨c, cs, hkey, h.1, h.2⟩

theorem isKey_of_isPlainName {name : String} (h : isPlainName name) : isKey name := by
  obtain ⟨c, cs, hname⟩ := exists_cons_of_isPlainName h
  have hc : isGap c = false := not_isGap_of_isPlainName h (hname ▸ List.mem_cons_self)
  have hcs : ∀ d ∈ cs, endsKey d = false := fun d hd =>
    not_endsKey_of_isPlainName h (hname ▸ List.mem_cons_of_mem c hd)
  simpa [isKey, hname, hc] using hcs

/-- The characters that begin some other markup than a tag. -/
def tagMarks : List Char := ['!', '?', '/']

theorem not_mem_tagMarks_of_isPlainName {name : String} (h : isPlainName name) {c : Char}
    (hc : c ∈ name.toList) : c ∉ tagMarks := by
  simp only [tagMarks, List.mem_cons, List.not_mem_nil, or_false, not_or]
  exact ⟨ne_of_isPlainName h hc (by decide), ne_of_isPlainName h hc (by decide),
    ne_of_isPlainName h hc (by decide)⟩

/-- A name and attributes such as a tag can have. -/
structure IsTag (name : String) (attributes : List (String × String)) : Prop where
  solid : ∀ c ∈ name.toList, isGap c = false
  unmarked : ∀ c ∈ name.toList.head?, c ∉ tagMarks
  keys : ∀ a ∈ attributes, isKey a.1
  distinct : (attributes.map (·.1)).Nodup

theorem IsTag.of_isPlainName {name : String} {attributes : List (String × String)}
    (hn : isPlainName name) (ha : ∀ a ∈ attributes, isPlainName a.1)
    (hkeys : (attributes.map (·.1)).Nodup) : IsTag name attributes where
  solid _ hc := not_isGap_of_isPlainName hn hc
  unmarked _ hc := not_mem_tagMarks_of_isPlainName hn (List.mem_of_mem_head? hc)
  keys a h := isKey_of_isPlainName (ha a h)
  distinct := hkeys

/-! ## The end of a tag -/

/-- A tag that contains the text does not end in it. -/
def Passes (cs : List Char) : Prop :=
  ∀ rest, splitTag none (cs ++ rest) = (splitTag none rest).map fun r => (cs ++ r.1, r.2)

theorem Passes.nil : Passes [] := by
  intro rest
  simp

theorem Passes.append {cs ds : List Char} (hc : Passes cs) (hd : Passes ds) : Passes (cs ++ ds) := by
  intro rest
  rw [List.append_assoc, hc, hd, Option.map_map]
  simp [Function.comp_def]

theorem Passes.of_forall {cs : List Char} (h : ∀ c ∈ cs, c ≠ '>' ∧ c ≠ '"' ∧ c ≠ '\'') :
    Passes cs := by
  induction cs with
  | nil => exact .nil
  | cons c cs ih =>
      intro rest
      obtain ⟨⟨hgt, hquote, hapos⟩, h⟩ := List.forall_mem_cons.mp h
      simp [splitTag, hgt, hquote, hapos, ih h rest, Function.comp_def]

theorem splitTag_quoted {cs : List Char} (h : ∀ c ∈ cs, c ≠ '"') (rest : List Char) :
    splitTag (some '"') (cs ++ '"' :: rest) =
      (splitTag none rest).map fun r => (cs ++ '"' :: r.1, r.2) := by
  induction cs with
  | nil => simp [splitTag]
  | cons c cs ih =>
      obtain ⟨hc, h⟩ := List.forall_mem_cons.mp h
      simp [splitTag, hc, ih h, Function.comp_def]

theorem Passes.quoted {cs : List Char} (h : ∀ c ∈ cs, c ≠ '"') : Passes ('"' :: (cs ++ ['"'])) := by
  intro rest
  simp [splitTag, splitTag_quoted h, Function.comp_def]

theorem Passes.name {name : String} (h : isPlainName name) : Passes name.toList := by
  refine .of_forall fun c hc => ?_
  exact ⟨ne_of_isPlainName h hc (by decide), ne_of_isPlainName h hc (by decide),
    ne_of_isPlainName h hc (by decide)⟩

theorem Passes.attribute {a : String × String} (h : isPlainName a.1) : Passes (writeAttribute a) := by
  have hval : Passes ('"' :: (escapeAttribute a.2.toList ++ ['"'])) :=
    .quoted fun _ => ne_quote_of_mem_escapeAttribute
  have heq : Passes ['='] := .of_forall (by simp)
  have hgap : Passes [' '] := .of_forall (by simp)
  have := ((hgap.append (.name h)).append heq).append hval
  simpa [writeAttribute] using this

theorem Passes.tag {name : String} {attributes : List (String × String)} (hn : isPlainName name)
    (ha : ∀ a ∈ attributes, isPlainName a.1) : Passes (writeTag name attributes) := by
  refine (Passes.name hn).append ?_
  induction attributes with
  | nil => exact .nil
  | cons a attributes ih =>
      obtain ⟨h, ha⟩ := List.forall_mem_cons.mp ha
      exact (Passes.attribute h).append (ih ha)

theorem Passes.splitTag {cs : List Char} (h : Passes cs) (rest : List Char) :
    splitTag none (cs ++ '>' :: rest) = some (cs, rest) := by
  rw [h]
  simp [Markup.splitTag]

/-! ## The name and the attributes of a tag -/

theorem takeWhile_append_of_stop {p : Char → Bool} {cs ds : List Char} (hc : ∀ c ∈ cs, p c)
    (hd : ∀ d ∈ ds.head?, ¬ p d) : (cs ++ ds).takeWhile p = cs := by
  rw [List.takeWhile_append_of_pos hc]
  cases ds with
  | nil => simp
  | cons d ds => simp [hd d rfl]

theorem dropWhile_append_of_stop {p : Char → Bool} {cs ds : List Char} (hc : ∀ c ∈ cs, p c)
    (hd : ∀ d ∈ ds.head?, ¬ p d) : (cs ++ ds).dropWhile p = ds := by
  rw [List.dropWhile_append_of_pos hc]
  cases ds with
  | nil => rfl
  | cons d ds => simp [hd d rfl]

theorem Tag.ofContent_writeTag {name : String} (attributes : List (String × String))
    (h : ∀ c ∈ name.toList, isGap c = false) :
    Tag.ofContent (writeTag name attributes) = ⟨name.toList, attributes.flatMap writeAttribute⟩ := by
  have hc : ∀ c ∈ name.toList, !isGap c := fun c hc => by simp [h c hc]
  have hd : ∀ d ∈ (attributes.flatMap writeAttribute).head?, ¬ (!isGap d) = true := by
    cases attributes with
    | nil => simp
    | cons a attributes => simp [writeAttribute, isGap]
  rw [Tag.ofContent, writeTag, takeWhile_append_of_stop hc hd, dropWhile_append_of_stop hc hd]

theorem splitAt?_quote (cs : List Char) (h : ∀ c ∈ cs, c ≠ '"') (rest : List Char) :
    Text.splitAt? '"' (cs ++ '"' :: rest) = some (cs, rest) := by
  induction cs with
  | nil => simp [Text.splitAt?]
  | cons c cs ih =>
      obtain ⟨hc, h⟩ := List.forall_mem_cons.mp h
      simp [Text.splitAt?, hc, ih h]

theorem readValue_written (size pos : Nat) (value rest : List Char) :
    readValue size pos none ('=' :: '"' :: (escapeAttribute value ++ '"' :: rest)) =
      .ok (escapeAttribute value, rest) := by
  have hsplit := splitAt?_quote (escapeAttribute value)
    (fun _ => ne_quote_of_mem_escapeAttribute) rest
  simp [readValue, isGap, hsplit]

theorem dropWhile_isGap_writeAttribute {a : String × String} {c : Char} {cs : List Char}
    (hkey : a.1.toList = c :: cs) (hc : isGap c = false) (rest : List Char) :
    (writeAttribute a ++ rest).dropWhile isGap =
      c :: (cs ++ '=' :: '"' :: (escapeAttribute a.2.toList ++ '"' :: rest)) := by
  have hspace : isGap ' ' = true := rfl
  simp [writeAttribute, hkey, hspace, hc]

/-- One attribute is read, if none before it has its key. -/
theorem readAttributes_writeAttribute (size pos : Nat) {seen : List RawAttribute}
    {a : String × String} (rest : List Char) (ha : isKey a.1)
    (hseen : ∀ b ∈ seen, b.key ≠ a.1.toList) :
    ∃ pos' start, readAttributes size pos seen (writeAttribute a ++ rest) =
      (readAttributes size pos' (⟨start, a.1.toList, escapeAttribute a.2.toList⟩ :: seen) rest).map
        (a :: ·) := by
  obtain ⟨c, cs, hkey, hgap, hcs⟩ := exists_cons_of_isKey ha
  let written := '=' :: '"' :: (escapeAttribute a.2.toList ++ '"' :: rest)
  have hdrop : (writeAttribute a ++ rest).dropWhile isGap = c :: (cs ++ written) :=
    dropWhile_isGap_writeAttribute hkey hgap rest
  have hends : ∀ d ∈ cs, (!endsKey d) = true := fun d hd => by simp [hcs d hd]
  have htake : (cs ++ written).takeWhile (!endsKey ·) = cs :=
    takeWhile_append_of_stop hends (by simp [written, endsKey])
  have hrest : (cs ++ written).dropWhile (!endsKey ·) = written :=
    dropWhile_append_of_stop hends (by simp [written, endsKey])
  have hnew : seen.find? (·.key == c :: cs) = none := by
    rw [List.find?_eq_none]
    intro b hb
    simpa [hkey] using hseen b hb
  have hvalue (pos : Nat) : readValue size pos none written =
      .ok (escapeAttribute a.2.toList, rest) := readValue_written size pos a.2.toList rest
  rw [readAttributes]
  split
  · next h => rw [hdrop] at h; cases h
  · next h =>
      rw [hdrop] at h
      cases h
      simp only [htake]
      split
      · next hv =>
          rw [hrest, htake, hnew, Option.map_none, hvalue] at hv
          cases hv
      · next hv =>
          rw [hrest, htake, hnew, Option.map_none, hvalue] at hv
          cases hv
          refine ⟨size - byteCount rest, pos + byteCount ((writeAttribute a ++ rest).takeWhile isGap), ?_⟩
          rw [decode_escapeAttribute, ← hkey]
          cases readAttributes size (size - byteCount rest) _ rest with
          | error fault => rfl
          | ok others =>
              show Except.ok _ = Except.ok _
              rw [String.ofList_toList, String.ofList_toList]

/-- The attributes are read in their order, if their keys are distinct. -/
theorem readAttributes_flatMap_writeAttribute (size pos : Nat) {seen : List RawAttribute}
    {attributes : List (String × String)} (ha : ∀ a ∈ attributes, isKey a.1)
    (hkeys : (attributes.map (·.1)).Nodup)
    (hseen : ∀ a ∈ attributes, ∀ b ∈ seen, b.key ≠ a.1.toList) :
    readAttributes size pos seen (attributes.flatMap writeAttribute) = .ok attributes := by
  induction attributes generalizing pos seen with
  | nil => rw [List.flatMap_nil, readAttributes]; rfl
  | cons a attributes ih =>
      obtain ⟨hkey, ha⟩ := List.forall_mem_cons.mp ha
      obtain ⟨hnew, hseen⟩ := List.forall_mem_cons.mp hseen
      rw [List.map_cons, List.nodup_cons] at hkeys
      obtain ⟨pos', start, hread⟩ := readAttributes_writeAttribute size pos
        (attributes.flatMap writeAttribute) hkey hnew
      have hdistinct : ∀ b ∈ attributes, a.1.toList ≠ b.1.toList := fun b hb he =>
        hkeys.1 (List.mem_map.mpr ⟨b, hb, String.toList_inj.mp he.symm⟩)
      rw [List.flatMap_cons, hread, ih pos' ha hkeys.2 fun b hb =>
        List.forall_mem_cons.mpr ⟨hdistinct b hb, hseen b hb⟩]
      rfl

theorem IsTag.attributes_written {name : String} {attributes : List (String × String)}
    (h : IsTag name attributes) :
    Tag.attributes ⟨name.toList, attributes.flatMap writeAttribute⟩ = .ok attributes :=
  readAttributes_flatMap_writeAttribute _ _ h.keys h.distinct fun _ _ _ hb =>
    absurd hb List.not_mem_nil

/-! ## Whole tags -/

section
variable {name : String} {attributes : List (String × String)}

theorem tagEvent_of_getLast? {content : List Char} (h : content.getLast? ≠ some '/') :
    tagEvent content = .opening (.ofContent content) := by
  rw [← List.head?_reverse] at h
  rw [tagEvent]
  split
  · next hcs => exact absurd (by rw [hcs, List.head?_cons]) h
  · rfl

theorem tagEvent_slash (content : List Char) :
    tagEvent (content ++ ['/']) = .empty (.ofContent content) := by
  simp [tagEvent]

theorem getLast?_writeTag (attributes : List (String × String)) (hn : isPlainName name) :
    (writeTag name attributes).getLast? ≠ some '/' := by
  obtain rfl | ⟨as, a, rfl⟩ := List.eq_nil_or_concat attributes
  · intro hlast
    rw [writeTag, List.flatMap_nil, List.append_nil] at hlast
    exact ne_of_isPlainName hn (List.mem_of_getLast? hlast) (by decide) rfl
  · have hquote : writeTag name (as.concat a) = name.toList ++ (as.flatMap writeAttribute ++
        (' ' :: a.1.toList ++ '=' :: '"' :: escapeAttribute a.2.toList)) ++ ['"'] := by
      simp [writeTag, writeAttribute]
    rw [hquote, List.getLast?_concat]
    decide

/-- After a `<`, what begins no other markup is a tag. -/
theorem readMarkup_tag {cs content rest : List Char} (hhead : ∀ c ∈ cs.head?, c ∉ tagMarks)
    (h : splitTag none cs = some (content, rest)) : readMarkup cs = .ok (tagEvent content, rest) := by
  have hne {d : Char} (hd : d ∈ tagMarks) (ds : List Char) : cs ≠ d :: ds := by
    rintro rfl
    exact hhead d rfl hd
  rw [readMarkup]
  · rw [h]
  · exact hne (by decide)
  · exact hne (by decide)
  · exact hne (by decide)

theorem IsTag.head_writeTag (h : IsTag name attributes) {rest : List Char}
    (hrest : writeTag name attributes = [] → ∀ c ∈ rest.head?, c ∉ tagMarks) :
    ∀ c ∈ (writeTag name attributes ++ rest).head?, c ∉ tagMarks := by
  intro c hc
  cases hname : name.toList with
  | cons d ds =>
      simp only [writeTag, hname, List.cons_append, List.head?_cons] at hc
      exact h.unmarked c (by rw [hname]; exact hc)
  | nil =>
      cases attributes with
      | nil =>
          have hnil : writeTag name [] = [] := by simp [writeTag, hname]
          rw [hnil] at hc
          exact hrest hnil c hc
      | cons a attributes =>
          simp only [writeTag, hname, List.flatMap_cons, writeAttribute, List.nil_append,
            List.cons_append, List.head?_cons, Option.mem_some] at hc
          subst hc
          decide

theorem IsTag.readMarkup_opening (h : IsTag name attributes) (hq : Passes (writeTag name attributes))
    (hlast : (writeTag name attributes).getLast? ≠ some '/') (rest : List Char) :
    readMarkup (writeTag name attributes ++ '>' :: rest) =
      .ok (.opening ⟨name.toList, attributes.flatMap writeAttribute⟩, rest) := by
  have hmark : ∀ c ∈ ('>' :: rest).head?, c ∉ tagMarks := by
    rintro _ ⟨⟩
    decide
  rw [readMarkup_tag (h.head_writeTag fun _ => hmark) (hq.splitTag rest), tagEvent_of_getLast? hlast,
    Tag.ofContent_writeTag attributes h.solid]

theorem IsTag.readMarkup_empty (h : IsTag name attributes) (hq : Passes (writeTag name attributes))
    (hne : writeTag name attributes ≠ []) (rest : List Char) :
    readMarkup (writeTag name attributes ++ '/' :: '>' :: rest) =
      .ok (.empty ⟨name.toList, attributes.flatMap writeAttribute⟩, rest) := by
  have hslash : Passes ['/'] := .of_forall (by simp)
  have hsplit := (hq.append hslash).splitTag rest
  rw [List.append_assoc, List.singleton_append] at hsplit
  rw [readMarkup_tag (h.head_writeTag fun hnil => absurd hnil hne) hsplit, tagEvent_slash,
    Tag.ofContent_writeTag attributes h.solid]

theorem closingName_of_solid {name : List Char} (h : ∀ c ∈ name, isGap c = false) :
    closingName name = name := by
  have hdrop : name.reverse.dropWhile isGap = name.reverse := by
    refine dropWhile_append_of_stop (List.forall_mem_nil _) fun d hd => ?_
    have hmem := List.mem_reverse.mp (List.mem_of_mem_head? hd)
    simp [h d hmem]
  rw [closingName, hdrop]
  split
  · rfl
  · exact List.reverse_reverse _

theorem readMarkup_closing {name : List Char} (h : ∀ c ∈ name, isGap c = false) (hq : Passes name)
    (rest : List Char) : readMarkup ('/' :: (name ++ '>' :: rest)) = .ok (.closing name, rest) := by
  simp only [readMarkup, hq.splitTag rest, closingName_of_solid h]

end

end Dialogue.Markup
