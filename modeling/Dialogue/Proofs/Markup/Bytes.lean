import Dialogue.Proofs.Markup.CharacterData
import Dialogue.Proofs.Markup.ReadTags

/-!
# Reading bytes

The reader asks for ASCII characters alone, so it can be given the bytes of a source, each as the character
of its number. It cuts only beside ASCII characters, and what stands between them is UTF-8.
-/

namespace Dialogue.Markup

/-- The bytes of a character, each as the character of its number. -/
def charBytes (c : Char) : List Char :=
  (String.utf8EncodeChar c).map fun b => Char.ofNat b.toNat

/-- The bytes of a text, each as the character of its number. -/
def textBytes (cs : List Char) : List Char :=
  cs.flatMap charBytes

/-- The bytes are those of some text. -/
def IsUtf8 (bs : List Char) : Prop :=
  ∃ cs, bs = textBytes cs

/-! ## Cutting bytes -/

theorem charBytes_of_ascii {c : Char} (h : c.toNat < 128) : charBytes c = [c] := by
  have hle : c.val.toNat ≤ 127 := Nat.le_of_lt_succ h
  have hbyte : (UInt8.ofNat c.val.toNat).toNat = c.toNat :=
    UInt8.toNat_ofNat'.trans (Nat.mod_eq_of_lt (Nat.lt_of_le_of_lt hle (by decide)))
  rw [charBytes, String.utf8EncodeChar]
  simp only [hle, if_true, List.map_cons, List.map_nil, hbyte, Char.ofNat_toNat]

theorem le_toNat_byte {n : Nat} (h : 128 ≤ n ∧ n < 256) : 128 ≤ (Char.ofNat (UInt8.ofNat n).toNat).toNat := by
  have hbyte : (UInt8.ofNat n).toNat = n := UInt8.toNat_ofNat'.trans (Nat.mod_eq_of_lt h.2)
  have hvalid : n.isValidChar := .inl (by omega)
  rw [hbyte, Char.ofNat, dif_pos hvalid]
  exact h.1

theorem le_of_mem_charBytes {c : Char} (h : 128 ≤ c.toNat) : ∀ b ∈ charBytes c, 128 ≤ b.toNat := by
  have hgt : ¬ c.val.toNat ≤ 127 := Nat.not_le_of_lt h
  rw [charBytes, String.utf8EncodeChar]
  simp only [hgt, if_false]
  split
  · simp only [List.map_cons, List.map_nil, List.forall_mem_cons]
    exact ⟨le_toNat_byte (by omega), le_toNat_byte (by omega), List.forall_mem_nil _⟩
  · split
    · simp only [List.map_cons, List.map_nil, List.forall_mem_cons]
      exact ⟨le_toNat_byte (by omega), le_toNat_byte (by omega), le_toNat_byte (by omega),
        List.forall_mem_nil _⟩
    · simp only [List.map_cons, List.map_nil, List.forall_mem_cons]
      exact ⟨le_toNat_byte (by omega), le_toNat_byte (by omega), le_toNat_byte (by omega),
        le_toNat_byte (by omega), List.forall_mem_nil _⟩

namespace IsUtf8

variable {before after bs : List Char} {d : Char}

/-- Bytes can be cut on both sides of an ASCII character. -/
theorem cut (h : IsUtf8 (before ++ d :: after)) (hd : d.toNat < 128) : IsUtf8 before ∧ IsUtf8 after := by
  obtain ⟨cs, hcs⟩ := h
  induction cs generalizing before with
  | nil => cases (List.append_eq_nil_iff.mp hcs).2
  | cons c cs ih =>
      obtain ⟨rest, hc, hrest⟩ | ⟨rest, rfl, hrest⟩ := List.append_eq_append_iff.mp hcs
      · cases rest with
        | nil =>
            rw [List.append_nil] at hc
            have hbefore : before = textBytes [c] := by rw [← hc, textBytes, List.flatMap_singleton]
            have hnil : [] ++ d :: after = textBytes cs := hrest
            exact ⟨⟨[c], hbefore⟩, (ih hnil).2⟩
        | cons x rest =>
            obtain ⟨rfl, rfl⟩ := List.cons.inj hrest
            -- The ASCII character is in the bytes of `c`, so it is all of them.
            by_cases hascii : c.toNat < 128
            · rw [charBytes_of_ascii hascii, List.singleton_eq_append_iff] at hc
              obtain ⟨rfl, he⟩ | ⟨_, he⟩ := hc
              · obtain ⟨_, rfl⟩ := List.cons.inj he
                exact ⟨⟨[], rfl⟩, ⟨cs, rfl⟩⟩
              · cases he
            · have hmem : d ∈ charBytes c := hc ▸ List.mem_append_right before List.mem_cons_self
              exact absurd (le_of_mem_charBytes (Nat.le_of_not_lt hascii) d hmem) (Nat.not_le_of_lt hd)
      · obtain ⟨⟨cs', rfl⟩, hafter⟩ := ih hrest.symm
        exact ⟨⟨c :: cs', rfl⟩, hafter⟩

theorem cons (h : IsUtf8 bs) (hd : d.toNat < 128) : IsUtf8 (d :: bs) := by
  obtain ⟨cs, rfl⟩ := h
  exact ⟨d :: cs, by rw [textBytes, textBytes, List.flatMap_cons, charBytes_of_ascii hd]; rfl⟩

theorem tail (h : IsUtf8 (d :: bs)) (hd : d.toNat < 128) : IsUtf8 bs := by
  have hnil : IsUtf8 ([] ++ d :: bs) := h
  exact (hnil.cut hd).2

theorem of_ascii_append (h : IsUtf8 (before ++ after)) (hbefore : ∀ c ∈ before, c.toNat < 128) :
    IsUtf8 after := by
  induction before with
  | nil => exact h
  | cons c before ih =>
      obtain ⟨hc, hbefore⟩ := List.forall_mem_cons.mp hbefore
      exact ih (h.tail hc) hbefore

theorem takeWhile {p : Char → Bool} (h : IsUtf8 bs) (hp : ∀ c, p c = false → c.toNat < 128) :
    IsUtf8 (bs.takeWhile p) ∧ IsUtf8 (bs.dropWhile p) := by
  have hsplit : bs.takeWhile p ++ bs.dropWhile p = bs := List.takeWhile_append_dropWhile
  cases hdrop : bs.dropWhile p with
  | nil =>
      rw [hdrop, List.append_nil] at hsplit
      rw [hsplit]
      exact ⟨h, [], rfl⟩
  | cons d rest =>
      have hd : p d = false := by
        have hhead := List.head?_dropWhile_not p bs
        rw [hdrop] at hhead
        simpa using hhead
      rw [← hsplit, hdrop] at h
      obtain ⟨htake, hrest⟩ := h.cut (hp d hd)
      exact ⟨htake, hrest.cons (hp d hd)⟩

end IsUtf8

theorem toNat_of_isGap {c : Char} (h : isGap c) : c.toNat < 128 := by
  simp only [isGap, Bool.or_eq_true, decide_eq_true_eq] at h
  obtain ((rfl | rfl) | rfl) | rfl := h
  · decide
  · decide
  · decide
  · decide

theorem toNat_of_endsKey {c : Char} (h : endsKey c) : c.toNat < 128 := by
  simp only [endsKey, Bool.or_eq_true, decide_eq_true_eq] at h
  obtain rfl | h := h
  · decide
  · exact toNat_of_isGap h

theorem IsUtf8.dropGaps {bs : List Char} (h : IsUtf8 bs) : IsUtf8 (bs.dropWhile isGap) := by
  have hsplit : bs.takeWhile isGap ++ bs.dropWhile isGap = bs := List.takeWhile_append_dropWhile
  rw [← hsplit] at h
  exact h.of_ascii_append fun c hc => toNat_of_isGap (List.all_eq_true.mp List.all_takeWhile c hc)

/-! ## Keys -/

/-- The attributes are read up to the key, which has a value. -/
inductive ReadsKey : (cs key : List Char) → Prop
  | here {c : Char} {cs tail value rest : List Char} {size pos : Nat} :
    cs.dropWhile isGap = c :: tail →
      readValue size pos none (tail.dropWhile (!endsKey ·)) = .ok (value, rest) →
      ReadsKey cs (c :: tail.takeWhile (!endsKey ·))
  | later {c : Char} {cs tail value rest key : List Char} {size pos : Nat} :
    cs.dropWhile isGap = c :: tail →
      readValue size pos none (tail.dropWhile (!endsKey ·)) = .ok (value, rest) →
      ReadsKey rest key → ReadsKey cs key

namespace IsUtf8

theorem after_readValue {size pos : Nat} {cs value rest : List Char} (h : IsUtf8 cs)
    (hvalue : readValue size pos none cs = .ok (value, rest)) : IsUtf8 rest := by
  obtain ⟨_, afterEquals, q, afterQuote, hequals, hquote, hq, hsplit⟩ := readValue_eq_ok_iff.mp hvalue
  have hascii : q.toNat < 128 := by
    obtain rfl | rfl := hq
    · decide
    · decide
  have hsign : IsUtf8 ('=' :: afterEquals) := hequals ▸ h.dropGaps
  have hopen : IsUtf8 (q :: afterQuote) := hquote ▸ (hsign.tail (by decide)).dropGaps
  have hvalue : IsUtf8 (value ++ q :: rest) := Text.splitAt?_eq_some hsplit ▸ hopen.tail hascii
  exact (hvalue.cut hascii).2

theorem key {c : Char} {cs tail value rest : List Char} {size pos : Nat} (h : IsUtf8 cs)
    (hdrop : cs.dropWhile isGap = c :: tail)
    (hvalue : readValue size pos none (tail.dropWhile (!endsKey ·)) = .ok (value, rest)) :
    IsUtf8 (c :: tail.takeWhile (!endsKey ·)) ∧ IsUtf8 rest := by
  have hwhole : IsUtf8 (c :: tail) := hdrop ▸ h.dropGaps
  have hsplit : tail.takeWhile (!endsKey ·) ++ tail.dropWhile (!endsKey ·) = tail :=
    List.takeWhile_append_dropWhile
  cases hends : tail.dropWhile (!endsKey ·) with
  | nil =>
      rw [hends] at hvalue
      cases hvalue
  | cons d after =>
      have hd : endsKey d := by
        have hhead := List.head?_dropWhile_not (!endsKey ·) tail
        rw [hends] at hhead
        simpa using hhead
      rw [hends] at hvalue hsplit
      rw [← hsplit, ← List.cons_append] at hwhole
      obtain ⟨hkey, hafter⟩ := hwhole.cut (toNat_of_endsKey hd)
      exact ⟨hkey, (hafter.cons (toNat_of_endsKey hd)).after_readValue hvalue⟩

theorem readsKey {cs key : List Char} (h : IsUtf8 cs) (hkey : ReadsKey cs key) : IsUtf8 key := by
  induction hkey with
  | here hdrop hvalue => exact (h.key hdrop hvalue).1
  | later hdrop hvalue _ ih => exact ih (h.key hdrop hvalue).2

end IsUtf8

/-! ## Events -/

/-- The name of the tag and all keys that are read in it are UTF-8. -/
structure Tag.IsUtf8 (tag : Tag) : Prop where
  name : Markup.IsUtf8 tag.name
  keys : ∀ key, ReadsKey tag.rest key → Markup.IsUtf8 key

/-- Whatever of the event is taken as text is UTF-8. -/
def Event.IsUtf8 : Event → Prop
  | .opening tag => tag.IsUtf8
  | .empty tag => tag.IsUtf8
  | .closing name => Markup.IsUtf8 name
  | .text raw => Markup.IsUtf8 raw
  | .cdata content => Markup.IsUtf8 content
  | .aside => True

namespace IsUtf8

theorem tag {content : List Char} (h : IsUtf8 content) : (Tag.ofContent content).IsUtf8 := by
  obtain ⟨hname, hrest⟩ := h.takeWhile (p := (!isGap ·)) fun c hc => toNat_of_isGap (by simpa using hc)
  exact ⟨hname, fun _ => hrest.readsKey⟩

theorem tagEvent {content : List Char} (h : IsUtf8 content) : (tagEvent content).IsUtf8 := by
  obtain ⟨cs, rfl, he⟩ | ⟨_, he⟩ := tagEvent_cases content
  · rw [he]
    exact (h.cut (by decide)).1.tag
  · rw [he]
    exact h.tag

theorem closingName {content : List Char} (h : IsUtf8 content) : IsUtf8 (closingName content) := by
  obtain ⟨gaps, hcontent, hgaps⟩ := exists_closingName_append content
  cases gaps with
  | nil =>
      rw [List.append_nil] at hcontent
      exact hcontent ▸ h
  | cons gap gaps =>
      rw [hcontent] at h
      exact (h.cut (toNat_of_isGap (hgaps gap List.mem_cons_self))).1

/-- A section stands between `![CDATA[` and `]]`, which cannot overlap. -/
theorem cdata {content : List Char} {event : Event} (h : IsUtf8 content)
    (hends : endsCdata content.reverse) (hcheck : checkCdata content = .ok event) : event.IsUtf8 := by
  obtain ⟨⟨inside, rfl⟩, rfl⟩ := checkCdata_eq_ok hcheck
  have hreverse : ("![CDATA[".toList ++ inside).reverse = inside.reverse ++ '[' :: "ATADC[!".toList := by
    rw [List.reverse_append]
    rfl
  rw [hreverse] at hends
  obtain ⟨start, hstart⟩ := endsCdata_append hends
  have hinside : inside = start.reverse ++ ']' :: [']'] := by
    simpa using congrArg List.reverse hstart
  have hascii : ∀ c ∈ "![CDATA[".toList, c.toNat < 128 := by simp
  have hcut : IsUtf8 (start.reverse ++ ']' :: [']']) := hinside ▸ h.of_ascii_append hascii
  have hcontent : (List.drop 8 ("![CDATA[".toList ++ inside)).dropLast.dropLast = start.reverse := by
    simp [hinside]
  rw [hcontent]
  exact (hcut.cut (by decide)).1

theorem readMarkup {cs rest : List Char} {event : Event} (h : IsUtf8 cs)
    (hm : readMarkup cs = .ok (event, rest)) : event.IsUtf8 ∧ IsUtf8 rest := by
  obtain ⟨_, content, rfl, hevent⟩ | ⟨cs', content, rfl, hsplit, rfl⟩ | ⟨_, content, hsplit, rfl⟩ :=
    readMarkup_cases hm
  · obtain ⟨hcontent, hrest⟩ := h.cut (by decide)
    obtain rfl | ⟨hends, hcheck⟩ := hevent
    · exact ⟨trivial, hrest⟩
    · exact ⟨hcontent.cdata hends hcheck, hrest⟩
  · have hclosing := h.tail (by decide)
    rw [(closesQuotes_of_splitTag hsplit).2] at hclosing
    obtain ⟨hcontent, hrest⟩ := hclosing.cut (by decide)
    exact ⟨hcontent.closingName, hrest⟩
  · rw [(closesQuotes_of_splitTag hsplit).2] at h
    obtain ⟨hcontent, hrest⟩ := h.cut (by decide)
    exact ⟨hcontent.tagEvent, hrest⟩

/-- Nothing that is cut out of UTF-8 is anything else. -/
theorem readEvents {cs : List Char} (h : IsUtf8 cs) (names : List (List Char)) :
    ∀ event ∈ (readEvents names cs).events, event.IsUtf8 := by
  fun_induction Markup.readEvents names cs with
  | case1 => exact List.forall_mem_nil _
  | case2 => exact List.forall_mem_nil _
  | case3 => exact List.forall_mem_nil _
  | case4 names cs event rest hm names' ho ih =>
      obtain ⟨hevent, hrest⟩ := (h.tail (by decide)).readMarkup hm
      exact List.forall_mem_cons.mpr ⟨hevent, ih hrest⟩
  | case5 names c cs hc ih =>
      have hend : ∀ x : Char, decide (x ≠ '<') = false → x.toNat < 128 := by
        intro x hx
        obtain rfl := Decidable.not_not.mp (of_decide_eq_false hx)
        decide
      have hin : c ≠ '<' := hc
      obtain ⟨hraw, hrest⟩ := h.takeWhile hend
      simp only [List.takeWhile_cons, List.dropWhile_cons, hin, decide_true, if_true, ne_eq,
        not_false_eq_true] at hraw hrest
      exact List.forall_mem_cons.mpr ⟨hraw, ih hrest⟩

end IsUtf8

end Dialogue.Markup
