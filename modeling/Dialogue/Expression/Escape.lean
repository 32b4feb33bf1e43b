import Dialogue.Expression.Flags
import Dialogue.Text.Basic
import Dialogue.Unicode.Lookup

/-! Reading what stands behind a backslash. -/
namespace Dialogue.Expression

mutual
/-- Drops white space and comments. -/
def dropIgnored : List Char → List Char
  | [] => []
  | c :: cs => if Text.isBlank c then dropIgnored cs else if c = '#' then dropComment cs else c :: cs

/-- Drops a comment, which ends with its line, and what may be dropped after it. -/
def dropComment : List Char → List Char
  | [] => []
  | c :: cs => if c = '\n' then dropIgnored cs else dropComment cs
end

mutual
theorem dropIgnored_length : (cs : List Char) → (dropIgnored cs).length ≤ cs.length
  | [] => Nat.le_refl _
  | c :: cs => by
    have h := dropIgnored_length cs
    have h' := dropComment_length cs
    simp only [dropIgnored]
    split
    · simp; omega
    · split
      · simp; omega
      · exact Nat.le_refl _

theorem dropComment_length : (cs : List Char) → (dropComment cs).length ≤ cs.length
  | [] => Nat.le_refl _
  | c :: cs => by
    have h := dropIgnored_length cs
    have h' := dropComment_length cs
    simp only [dropComment]
    split <;> simp <;> omega
end

/-- In extended text, white space and comments are skipped. -/
def skip (extended : Bool) (cs : List Char) : List Char :=
  if extended then dropIgnored cs else cs

theorem skip_length (x : Bool) (cs : List Char) : (skip x cs).length ≤ cs.length := by
  unfold skip
  split
  · exact dropIgnored_length cs
  · exact Nat.le_refl _

/-- The characters up to the first that is not `ok`, and the text from there; what
may be skipped is. -/
def collect (x : Bool) (ok : Char → Bool) : List Char → List Char × List Char
  | [] => ([], [])
  | c :: cs =>
    if ok c then
      let r := collect x ok (skip x cs)
      (c :: r.1, r.2)
    else ([], c :: cs)
termination_by cs => cs.length
decreasing_by exact Nat.lt_succ_of_le (skip_length x cs)

theorem collect_length (x : Bool) (ok : Char → Bool) (cs : List Char) :
    (collect x ok cs).2.length ≤ cs.length := by
  fun_induction collect x ok cs with
  | case1 => exact Nat.le_refl _
  | case2 c cs _ _ ih => exact Nat.le_succ_of_le (Nat.le_trans ih (skip_length x cs))
  | case3 => exact Nat.le_refl _

/-- A single thing that an expression text can name. -/
inductive Atom where
  /-- A character; `asByte` if it is written as two hexadecimal digits. -/
  | char (c : Char) (asByte : Bool)
  | set (s : CharSet)
  | look (l : Look)
deriving DecidableEq, Repr

def isHex (c : Char) : Bool :=
  (Text.digit? 16 c).isSome

def hexChar? (digits : List Char) : Option Char := do
  let n ← Text.number? 16 digits
  if h : n.isValidChar then some (Char.ofNatAux n h) else none

/-- Reads exactly `n` hexadecimal digits. -/
def readHex (x : Bool) : Nat → List Char → Option (List Char × List Char)
  | 0, cs => some ([], cs)
  | _ + 1, [] => none
  | n + 1, c :: cs =>
    if isHex c then (readHex x n (skip x cs)).map fun r => (c :: r.1, r.2) else none

theorem readHex_length {x : Bool} {n : Nat} {cs digits rest : List Char}
    (h : readHex x n cs = some (digits, rest)) : rest.length ≤ cs.length := by
  induction n generalizing cs digits with
  | zero => simp_all [readHex]
  | succ n ih =>
    match cs with
    | [] => simp [readHex] at h
    | c :: cs =>
      simp only [readHex] at h
      split at h
      · obtain ⟨r, hr, he⟩ := Option.map_eq_some_iff.1 h
        cases he
        have := ih hr
        have := skip_length x cs
        simp only [List.length_cons]
        omega
      · simp at h

/-- Reads a character's number: digits in braces, or `n` digits. -/
def readCode (x : Bool) (n : Nat) (cs : List Char) : Option (Atom × List Char) :=
  match skip x cs with
  | '{' :: cs =>
    match collect x isHex (skip x cs) with
    | (digits, '}' :: rest) => (hexChar? digits).map (.char · false, skip x rest)
    | _ => none
  | cs =>
    match readHex x n cs with
    | some (digits, rest) => (hexChar? digits).map (.char · (n == 2), rest)
    | none => none

/-- The text before the first `!=` and the text after it. -/
def splitUnequal? : List Char → Option (List Char × List Char)
  | [] => none
  | '!' :: '=' :: cs => some ([], cs)
  | c :: cs => (splitUnequal? cs).map fun r => (c :: r.1, r.2)

/-- The set of a property in braces: a name, or a name and a value. -/
def bracedProperty? (f : Flags) (negated : Bool) (text : List Char) : Option CharSet :=
  match splitUnequal? text with
  | some (name, value) => do f.negated? (!negated) (f.closed (← Unicode.valued? name value))
  | none =>
    match Text.splitAt? ':' text <|> Text.splitAt? '=' text with
    | some (name, value) => do f.negated? negated (f.closed (← Unicode.valued? name value))
    | none => do f.negated? negated (f.closed (← Unicode.named? text))

/-- Reads the property named behind `\p` or `\P`; properties exist only in Unicode. -/
def readProperty (f : Flags) (negated : Bool) (cs : List Char) : Option (Atom × List Char) :=
  if !f.unicode then none
  else match skip f.extended cs with
    | [] => none
    | '{' :: cs =>
      match collect f.extended (· ≠ '}') (skip f.extended cs) with
      | (_, []) => none
      | (text, _ :: rest) => (bracedProperty? f negated text).map (.set ·, rest)
    | c :: cs =>
      if c = '\\' then none
      else do
        let s ← Unicode.named? [c]
        (f.negated? negated (f.closed s)).map (.set ·, skip f.extended cs)

/-- Characters of a word condition's name. -/
def isEdgeChar (c : Char) : Bool :=
  c.isAlpha || c = '-'

def edge? (f : Flags) : List Char → Option Look
  | ['s', 't', 'a', 'r', 't'] => some (.wordStart f.unicode)
  | ['e', 'n', 'd'] => some (.wordStop f.unicode)
  | ['s', 't', 'a', 'r', 't', '-', 'h', 'a', 'l', 'f'] => some (.notAfterWord f.unicode)
  | ['e', 'n', 'd', '-', 'h', 'a', 'l', 'f'] => some (.notBeforeWord f.unicode)
  | _ => none

/-- Reads what follows `\b`: a name in braces narrows the condition, other braces
count repetitions. -/
def readEdge (f : Flags) : List Char → Option (Atom × List Char)
  | '{' :: cs =>
    match skip f.extended cs with
    | [] => none
    | c :: tail =>
      if isEdgeChar c then
        match collect f.extended isEdgeChar (c :: tail) with
        | (name, '}' :: rest) => (edge? f name).map (.look ·, rest)
        | _ => none
      else some (.look (.wordEdge f.unicode), '{' :: cs)
  | cs => some (.look (.wordEdge f.unicode), cs)

/-- ASCII punctuation and controls stand for themselves behind a backslash. -/
def isEscapable (c : Char) : Bool :=
  c.toNat < 0x80 && !c.isAlphanum && c ≠ '<' && c ≠ '>'

/-- What one letter stands for behind a backslash. -/
def control? (f : Flags) : Char → Option Atom
  | 'a' => some (.char '\x07' false)
  | 'f' => some (.char '\x0C' false)
  | 't' => some (.char '\t' false)
  | 'n' => some (.char '\n' false)
  | 'r' => some (.char '\r' false)
  | 'v' => some (.char '\x0B' false)
  | 'A' => some (.look .start)
  | 'z' => some (.look .stop)
  | 'B' => some (.look (.notWordEdge f.unicode))
  | '<' => some (.look (.wordStart f.unicode))
  | '>' => some (.look (.wordStop f.unicode))
  | _ => none

/-- Reads what stands behind a backslash, and the text after it. -/
def readEscape (f : Flags) : List Char → Option (Atom × List Char)
  | [] => none
  | 'x' :: cs => readCode f.extended 2 cs
  | 'u' :: cs => readCode f.extended 4 cs
  | 'U' :: cs => readCode f.extended 8 cs
  | 'p' :: cs => readProperty f false cs
  | 'P' :: cs => readProperty f true cs
  | 'b' :: cs => readEdge f cs
  | c :: cs =>
    if "dswDSW".toList.contains c then (f.shorthand? c).map (.set ·, cs)
    else if isEscapable c then some (.char c false, cs)
    else (control? f c).map (·, cs)

theorem readCode_length {x : Bool} {n : Nat} {cs rest : List Char} {a : Atom}
    (h : readCode x n cs = some (a, rest)) : rest.length ≤ cs.length := by
  have h₁ := skip_length x cs
  unfold readCode at h
  split at h
  · rename_i cs' hcs
    rw [hcs, List.length_cons] at h₁
    have h₂ := skip_length x cs'
    have h₃ := collect_length x isHex (skip x cs')
    split at h
    · rename_i rest' hr
      rw [hr, List.length_cons] at h₃
      have h₄ := skip_length x rest'
      obtain ⟨c, _, he⟩ := Option.map_eq_some_iff.1 h
      cases he
      omega
    · simp at h
  · split at h
    · rename_i digits rest' hr
      have := readHex_length hr
      obtain ⟨c, _, he⟩ := Option.map_eq_some_iff.1 h
      cases he
      omega
    · simp at h

theorem readProperty_length {f : Flags} {negated : Bool} {cs rest : List Char} {a : Atom}
    (h : readProperty f negated cs = some (a, rest)) : rest.length ≤ cs.length := by
  have h₁ := skip_length f.extended cs
  unfold readProperty at h
  split at h
  · simp at h
  · split at h
    · simp at h
    · rename_i cs' hcs
      rw [hcs, List.length_cons] at h₁
      have h₂ := skip_length f.extended cs'
      have h₃ := collect_length f.extended (· ≠ '}') (skip f.extended cs')
      split at h
      · simp at h
      · rename_i hr
        rw [hr, List.length_cons] at h₃
        obtain ⟨c, _, he⟩ := Option.map_eq_some_iff.1 h
        cases he
        omega
    · rename_i c cs' _ hcs
      rw [hcs, List.length_cons] at h₁
      split at h
      · simp at h
      · obtain ⟨s, _, hs⟩ := Option.bind_eq_some_iff.1 h
        obtain ⟨t, _, he⟩ := Option.map_eq_some_iff.1 hs
        cases he
        have := skip_length f.extended cs'
        omega

theorem readEdge_length {f : Flags} {cs rest : List Char} {a : Atom}
    (h : readEdge f cs = some (a, rest)) : rest.length ≤ cs.length := by
  unfold readEdge at h
  split at h
  · rename_i cs'
    have h₁ := skip_length f.extended cs'
    split at h
    · simp at h
    · rename_i c tail hcs
      rw [hcs] at h₁
      have h₂ := collect_length f.extended isEdgeChar (c :: tail)
      split at h
      · split at h
        · rename_i hr
          rw [hr, List.length_cons] at h₂
          obtain ⟨l, _, he⟩ := Option.map_eq_some_iff.1 h
          cases he
          simp only [List.length_cons] at *
          omega
        · simp at h
      · cases h
        exact Nat.le_refl _
  · cases h
    exact Nat.le_refl _

theorem readEscape_length {f : Flags} {cs rest : List Char} {a : Atom}
    (h : readEscape f cs = some (a, rest)) : rest.length < cs.length := by
  unfold readEscape at h
  split at h
  · simp at h
  · exact Nat.lt_succ_of_le (readCode_length h)
  · exact Nat.lt_succ_of_le (readCode_length h)
  · exact Nat.lt_succ_of_le (readCode_length h)
  · exact Nat.lt_succ_of_le (readProperty_length h)
  · exact Nat.lt_succ_of_le (readProperty_length h)
  · exact Nat.lt_succ_of_le (readEdge_length h)
  · split at h
    · obtain ⟨s, _, he⟩ := Option.map_eq_some_iff.1 h
      cases he
      exact Nat.lt_succ_self _
    · split at h
      · cases h
        exact Nat.lt_succ_self _
      · obtain ⟨s, _, he⟩ := Option.map_eq_some_iff.1 h
        cases he
        exact Nat.lt_succ_self _

end Dialogue.Expression
