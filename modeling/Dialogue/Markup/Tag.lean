import Dialogue.Markup.Reference
import Dialogue.Text.Basic

/-! The inside of an opening tag: a name, then attributes. -/
namespace Dialogue.Markup

def isGap (c : Char) : Bool :=
  c = ' ' || c = '\t' || c = '\n' || c = '\r'

/-- An opening tag: its name and the unread text of its attributes. -/
structure Tag where
  name : List Char
  rest : List Char
deriving DecidableEq, Repr

/-- The name of a tag ends at the first white space. -/
def Tag.ofContent (content : List Char) : Tag :=
  ⟨content.takeWhile (!isGap ·), content.dropWhile (!isGap ·)⟩

/-- An attribute as written: where its key starts, the key, and the value before
references are resolved. -/
structure RawAttribute where
  start : Nat
  key : List Char
  value : List Char
deriving DecidableEq, Repr

/-- Whether a character ends a key. -/
def endsKey (c : Char) : Bool :=
  c = '=' || isGap c

/-- Reads what follows a key that ended at byte `pos` of a tag of `size` bytes:
`=`, a quoted value, the rest. -/
def readValue (size pos : Nat) (duplicate? : Option AttributeFault) (cs : List Char) :
    Except AttributeFault (List Char × List Char) :=
  let gap := cs.takeWhile isGap
  match cs.dropWhile isGap with
  | [] => .error (.expectedEquals size)
  | c :: cs =>
    if c ≠ '=' then .error (.expectedEquals (pos + byteCount gap))
    else match duplicate? with
      | some fault => .error fault
      | none =>
        let gap' := cs.takeWhile isGap
        match cs.dropWhile isGap with
        | [] => .error (.expectedValue size)
        | q :: cs =>
          if q ≠ '"' ∧ q ≠ '\'' then
            .error (.unquotedValue (pos + byteCount gap + 1 + byteCount gap'))
          else match Text.splitAt? q cs with
            | none => .error (.expectedQuote size q)
            | some r => .ok r

theorem readValue_length {size pos : Nat} {d : Option AttributeFault} {cs value rest : List Char}
    (h : readValue size pos d cs = .ok (value, rest)) : rest.length < cs.length := by
  have hd := (List.dropWhile_suffix isGap (l := cs)).length_le
  simp only [readValue] at h
  split at h
  · simp at h
  · rename_i c cs' hcs
    have hd' := (List.dropWhile_suffix isGap (l := cs')).length_le
    rw [hcs, List.length_cons] at hd
    split at h
    · simp at h
    · split at h
      · simp at h
      · split at h
        · simp at h
        · rename_i q cs'' hcs'
          rw [hcs', List.length_cons] at hd'
          split at h
          · simp at h
          · split at h
            · simp at h
            · rename_i r hr
              cases h
              have := Text.splitAt?_length hr
              omega

/-- Reads the attributes from byte `pos` of a tag of `size` bytes; `seen` are
those already read, latest first. -/
def readAttributes (size pos : Nat) (seen : List RawAttribute) (cs : List Char) :
    Except ReadFault (List (String × String)) :=
  match _hcs : cs.dropWhile isGap with
  | [] => .ok []
  | c :: tail => do
    let start := pos + byteCount (cs.takeWhile isGap)
    let key := c :: tail.takeWhile (!endsKey ·)
    let previous? := seen.find? (·.key == key)
    match _h : readValue size (start + byteCount key)
        (previous?.map fun a => .duplicated start a.start) (tail.dropWhile (!endsKey ·)) with
    | .error fault => .error (.attribute fault)
    | .ok (value, rest) =>
      let text ← (decode value).mapError .reference
      let others ← readAttributes size (size - byteCount rest) (⟨start, key, value⟩ :: seen) rest
      .ok ((String.ofList key, String.ofList text) :: others)
termination_by cs.length
decreasing_by
  have h₁ := readValue_length _h
  have h₂ := (List.dropWhile_suffix (fun c => !endsKey c) (l := tail)).length_le
  have h₃ := (List.dropWhile_suffix isGap (l := cs)).length_le
  rw [_hcs, List.length_cons] at h₃
  omega

/-- The attributes of a tag, keys and values in the order written. -/
def Tag.attributes (t : Tag) : Except ReadFault (List (String × String)) :=
  readAttributes (byteCount t.name + byteCount t.rest) (byteCount t.name) [] t.rest

end Dialogue.Markup
