import Dialogue.Expression.Escape

/-! Reading character classes in brackets, which nest and combine by set operations. -/
namespace Dialogue.Expression

/-- Items read so far: their union, their number and how deeply they nest. -/
structure Items where
  set : CharSet := .empty
  count : Nat := 0
  depth : Nat := 0
deriving DecidableEq, Repr

def Items.add (items : Items) (s : CharSet) (depth : Nat) : Items :=
  ⟨items.set.union s, items.count + 1, max items.depth depth⟩

/-- Two items or more are one level deeper than the deepest of them. -/
def Items.nesting (items : Items) : Nat :=
  if items.count < 2 then items.depth else items.depth + 1

inductive SetOperator where
  | inter
  | diff
  | symmDiff
deriving DecidableEq, Repr

def SetOperator.apply (op : SetOperator) (s t : CharSet) : CharSet :=
  match op with
  | .inter => s.inter t
  | .diff => s.diff t
  | .symmDiff => s.symmDiff t

/-- An open bracket: an operator with its left operand and depth, if one was read,
and the items since. -/
structure Bracket where
  negated : Bool := false
  left? : Option (SetOperator × CharSet × Nat) := none
  items : Items := {}
deriving DecidableEq, Repr

namespace Bracket

/-- The set written so far in a bracket and how deeply it nests; operators associate to the left. -/
def value (f : Flags) (b : Bracket) : CharSet × Nat :=
  match b.left? with
  | none => (b.items.set, b.items.nesting)
  | some (op, s, depth) =>
    (op.apply (f.closed s) (f.closed b.items.set), max depth b.items.nesting + 1)

def operator (f : Flags) (b : Bracket) (op : SetOperator) : Bracket :=
  let v := b.value f
  { b with left? := some (op, v.1, v.2), items := {} }

def add (b : Bracket) (s : CharSet) (depth : Nat) : Bracket :=
  { b with items := b.items.add s depth }

def close? (f : Flags) (b : Bracket) : Option (CharSet × Nat) :=
  let v := b.value f
  (f.negated? b.negated (f.closed v.1)).map (·, v.2 + 1)

end Bracket

def readCaret : List Char → Bool × List Char
  | '^' :: cs => (true, cs)
  | cs => (false, cs)

/-- Reads the rest of `[:name:]` or `[:^name:]` after its first bracket. -/
def readNamed (f : Flags) : List Char → Option (Option CharSet × List Char)
  | ':' :: cs =>
    match Text.splitAt? ':' (readCaret cs).2 with
    | some (name, ']' :: rest) =>
      (namedAscii? name).map fun s => (f.negated? (readCaret cs).1 (f.closed s), rest)
    | _ => none
  | _ => none

/-- Reads the start of a bracket: a negation, and hyphens or else one `]` as characters. -/
def openBracket (x : Bool) (cs : List Char) : Bracket × List Char :=
  let (negated, cs) := readCaret (skip x cs)
  match collect x (· = '-') (skip x cs) with
  | ([], ']' :: rest) => ({ negated, items := ({} : Items).add (.single ']') 0 }, skip x rest)
  | (hyphens, rest) =>
    ({ negated, items := hyphens.foldl (fun items c => items.add (.single c) 0) {} }, rest)

def readMember (f : Flags) : List Char → Option (Atom × List Char)
  | [] => none
  | '\\' :: cs => readEscape f cs
  | c :: cs => some (.char c false, cs)

/-- An atom as a class item; a condition is none. -/
def Atom.item? (f : Flags) : Atom → Option CharSet
  | .char c _ => (f.member? c).map .single
  | .set s => some s
  | .look _ => none

def Atom.range? (f : Flags) : Atom → Atom → Option CharSet
  | .char a _, .char b _ => do
    let a ← f.member? a
    let b ← f.member? b
    if a ≤ b then some (.span a b) else none
  | _, _ => none

/-- Reads an item or a range; a hyphen before `]` or another hyphen makes no range. -/
def readRange (f : Flags) (cs : List Char) : Option (CharSet × List Char) :=
  match readMember f cs with
  | none => none
  | some (a, rest) =>
    match skip f.extended rest with
    | '-' :: tail =>
      match skip f.extended tail with
      | ']' :: _ => (a.item? f).map (·, '-' :: tail)
      | '-' :: _ => (a.item? f).map (·, '-' :: tail)
      | next =>
        match readMember f next with
        | none => none
        | some (b, rest) => (a.range? f b).map (·, rest)
    | rest => (a.item? f).map (·, rest)

theorem readCaret_length (cs : List Char) : (readCaret cs).2.length ≤ cs.length := by
  unfold readCaret
  split
  · exact Nat.le_succ _
  · exact Nat.le_refl _

theorem readNamed_length {f : Flags} {cs rest : List Char} {s : Option CharSet}
    (h : readNamed f cs = some (s, rest)) : rest.length < cs.length := by
  unfold readNamed at h
  split at h
  · rename_i cs'
    split at h
    · rename_i hs
      have h₁ := Text.splitAt?_length hs
      have h₂ := readCaret_length cs'
      obtain ⟨t, _, he⟩ := Option.map_eq_some_iff.1 h
      cases he
      simp only [List.length_cons] at *
      omega
    · simp at h
  · simp at h

theorem openBracket_length (x : Bool) (cs : List Char) :
    (openBracket x cs).2.length ≤ cs.length := by
  have h₁ := skip_length x cs
  have h₂ := readCaret_length (skip x cs)
  have h₃ := skip_length x (readCaret (skip x cs)).2
  have h₄ := collect_length x (· = '-') (skip x (readCaret (skip x cs)).2)
  simp only [openBracket]
  split
  · rename_i rest hr
    rw [hr, List.length_cons] at h₄
    have := skip_length x rest
    simp only
    omega
  · rename_i rest _ hr
    rw [hr] at h₄
    simp only at h₄ ⊢
    omega

theorem readMember_length {f : Flags} {cs rest : List Char} {a : Atom}
    (h : readMember f cs = some (a, rest)) : rest.length < cs.length := by
  unfold readMember at h
  split at h
  · simp at h
  · exact Nat.lt_succ_of_lt (readEscape_length h)
  · cases h
    exact Nat.lt_succ_self _

theorem readRange_length {f : Flags} {cs rest : List Char} {s : CharSet}
    (h : readRange f cs = some (s, rest)) : rest.length < cs.length := by
  unfold readRange at h
  split at h
  · simp at h
  · rename_i a r ha
    have h₁ := readMember_length ha
    have h₂ := skip_length f.extended r
    split at h
    · rename_i tail ht
      rw [ht, List.length_cons] at h₂
      have h₃ := skip_length f.extended tail
      split at h
      · obtain ⟨t, _, he⟩ := Option.map_eq_some_iff.1 h
        cases he
        simp only [List.length_cons]
        omega
      · obtain ⟨t, _, he⟩ := Option.map_eq_some_iff.1 h
        cases he
        simp only [List.length_cons]
        omega
      · split at h
        · simp at h
        · rename_i b r' hb
          have h₄ := readMember_length hb
          obtain ⟨t, _, he⟩ := Option.map_eq_some_iff.1 h
          cases he
          omega
    · obtain ⟨t, _, he⟩ := Option.map_eq_some_iff.1 h
      cases he
      omega

/-- Reads on in a bracket inside `outer` ones, innermost first, to the end of the outermost. -/
def readBracket (f : Flags) (b : Bracket) (outer : List Bracket) (cs : List Char) :
    Option ((CharSet × Nat) × List Char) :=
  match _h : skip f.extended cs with
  | [] => none
  | '[' :: tail =>
    match _hn : readNamed f tail with
    | some (none, _) => none
    | some (some s, rest) => readBracket f (b.add s 0) outer rest
    | none => readBracket f (openBracket f.extended tail).1 (b :: outer) (openBracket f.extended tail).2
  | ']' :: tail =>
    match b.close? f, outer with
    | none, _ => none
    | some v, [] => some (v, tail)
    | some v, o :: outer => readBracket f (o.add v.1 v.2) outer tail
  | '&' :: '&' :: tail => readBracket f (b.operator f .inter) outer tail
  | '-' :: '-' :: tail => readBracket f (b.operator f .diff) outer tail
  | '~' :: '~' :: tail => readBracket f (b.operator f .symmDiff) outer tail
  | c :: tail =>
    match _hr : readRange f (c :: tail) with
    | none => none
    | some (s, rest) => readBracket f (b.add s 0) outer rest
termination_by cs.length
decreasing_by
  all_goals have h₁ := skip_length f.extended cs
  all_goals rw [_h] at h₁
  all_goals simp only [List.length_cons] at h₁
  · have := readNamed_length _hn
    omega
  · have := openBracket_length f.extended tail
    omega
  · omega
  · omega
  · omega
  · omega
  · have := readRange_length _hr
    simp only [List.length_cons] at this
    omega

end Dialogue.Expression
