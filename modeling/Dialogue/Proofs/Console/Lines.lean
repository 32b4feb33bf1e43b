import Dialogue.Console.Conversation
import Dialogue.Proofs.Markup.Bytes

/-!
# Lines of an input

An input that is text falls into lines that are text. It is cut at line feeds, and carriage returns are cut
off, and the bytes of both are in no other character.
-/

namespace Dialogue.Console

open Markup (IsUtf8 textBytes charBytes)

/-! ## Bytes and texts -/

theorem textOf?_eq_some_iff {bytes : List UInt8} {text : String} :
    textOf? bytes = some text ↔ bytes = text.toList.flatMap String.utf8EncodeChar := by
  have hencode : (⟨bytes.toArray⟩ : ByteArray) = text.toByteArray ↔
      bytes = text.toList.flatMap String.utf8EncodeChar := by
    rw [← String.utf8Encode_toList, List.utf8Encode, ← List.toByteArray_inj]
    exact ⟨fun h => (ByteArray.ext List.data_toByteArray).trans h,
      fun h => (ByteArray.ext List.data_toByteArray.symm).trans h⟩
  rw [← hencode, textOf?, String.fromUTF8?]
  constructor
  · intro h
    split at h
    · rw [← Option.some.inj h]
      rfl
    · cases h
  · intro h
    rw [h, dif_pos text.isValidUTF8]
    rfl

/-- A byte as the character of its number. -/
def byteChar (b : UInt8) : Char :=
  Char.ofNat b.toNat

theorem toNat_byteChar (b : UInt8) : (byteChar b).toNat = b.toNat := by
  have hlt : b.toNat < 256 := b.toNat_lt
  have hvalid : b.toNat.isValidChar := .inl (by omega)
  rw [byteChar, Char.ofNat, dif_pos hvalid]
  rfl

theorem byteChar_inj {a b : UInt8} (h : byteChar a = byteChar b) : a = b := by
  rw [← UInt8.toNat_inj, ← toNat_byteChar, ← toNat_byteChar, h]

theorem isSome_textOf?_iff {bytes : List UInt8} :
    (textOf? bytes).isSome ↔ IsUtf8 (bytes.map byteChar) := by
  have hbytes (cs : List Char) : textBytes cs = (cs.flatMap String.utf8EncodeChar).map byteChar :=
    List.map_flatMap.symm
  rw [Option.isSome_iff_exists]
  constructor
  · rintro ⟨text, h⟩
    exact ⟨text.toList, by rw [hbytes, textOf?_eq_some_iff.mp h]⟩
  · rintro ⟨cs, h⟩
    rw [hbytes] at h
    have hcs := (List.map_inj_right fun _ _ => byteChar_inj).mp h
    exact ⟨String.ofList cs, textOf?_eq_some_iff.mpr (by rw [hcs, String.toList_ofList])⟩

/-- Bytes of a text are those of two texts on both sides of an ASCII character. -/
theorem isSome_textOf?_cut {before after : List UInt8} {b : UInt8} (hb : b.toNat < 128)
    (h : (textOf? (before ++ b :: after)).isSome) :
    (textOf? before).isSome ∧ (textOf? after).isSome := by
  rw [isSome_textOf?_iff, List.map_append, List.map_cons] at h
  simp only [isSome_textOf?_iff]
  exact h.cut (toNat_byteChar b ▸ hb)

/-! ## Lines -/

theorem isSome_textOf?_dropReturn {line : List UInt8} (h : (textOf? line).isSome) :
    (textOf? (dropReturn line)).isSome := by
  rw [dropReturn]
  split
  · next hlast =>
      obtain ⟨front, rfl⟩ := List.getLast?_eq_some_iff.mp hlast
      rw [List.dropLast_concat]
      exact (isSome_textOf?_cut (by decide) h).1
  · exact h

/-- An input is empty, or it is one line, or its first line ends in a line feed. -/
theorem splitLines_cases (bytes : List UInt8) :
    splitLines bytes = [] ∨ splitLines bytes = [bytes] ∨
      ∃ line rest, bytes = line ++ 10 :: rest ∧
        splitLines bytes = dropReturn line :: splitLines rest := by
  let inLine (b : UInt8) : Bool := decide (b ≠ 10)
  cases bytes with
  | nil => exact .inl (by rw [splitLines])
  | cons b bs =>
      have hwhole : (b :: bs).takeWhile inLine ++ (b :: bs).dropWhile inLine = b :: bs :=
        List.takeWhile_append_dropWhile
      rw [splitLines]
      split
      · next hdrop =>
          replace hdrop : (b :: bs).dropWhile inLine = [] := hdrop
          rw [hdrop, List.append_nil] at hwhole
          exact .inr (.inl (congrArg (fun line => [line]) hwhole))
      · next feed rest hdrop =>
          replace hdrop : (b :: bs).dropWhile inLine = feed :: rest := hdrop
          have hfeed := List.head?_dropWhile_not inLine (b :: bs)
          rw [hdrop] at hwhole hfeed
          obtain rfl : feed = 10 := by simpa [inLine] using hfeed
          exact .inr (.inr ⟨_, rest, hwhole.symm, rfl⟩)

theorem isSome_textOf?_of_mem_splitLines {bytes : List UInt8} (h : (textOf? bytes).isSome) :
    ∀ line ∈ splitLines bytes, (textOf? line).isSome := by
  obtain hlines | hlines | ⟨first, rest, hbytes, hlines⟩ := splitLines_cases bytes
  · rw [hlines]
    exact List.forall_mem_nil _
  · rw [hlines]
    exact List.forall_mem_singleton.mpr h
  · rw [hbytes] at h
    obtain ⟨hfirst, hrest⟩ := isSome_textOf?_cut (by decide) h
    rw [hlines]
    exact List.forall_mem_cons.mpr
      ⟨isSome_textOf?_dropReturn hfirst, isSome_textOf?_of_mem_splitLines hrest⟩
termination_by bytes.length
decreasing_by
  rw [hbytes, List.length_append, List.length_cons]
  omega

/-- A text falls into lines that are texts. -/
theorem exists_lines {input : List UInt8} (h : (textOf? input).isSome) :
    ∃ lines : List String, (splitLines input).map textOf? = lines.map some := by
  have hlines := isSome_textOf?_of_mem_splitLines h
  generalize splitLines input = byteLines at hlines
  induction byteLines with
  | nil => exact ⟨[], rfl⟩
  | cons line rest ih =>
      obtain ⟨hline, hrest⟩ := List.forall_mem_cons.mp hlines
      obtain ⟨text, htext⟩ := Option.isSome_iff_exists.mp hline
      obtain ⟨lines, hlines⟩ := ih hrest
      exact ⟨text :: lines, by rw [List.map_cons, htext, hlines, List.map_cons]⟩

end Dialogue.Console
