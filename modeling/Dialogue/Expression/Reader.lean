import Dialogue.Expression.Bracket
import Dialogue.Unicode.Property

/-!
Reading an expression text. The text is read item by item; open groups wait on a stack, each with
what was read before it.
-/
namespace Dialogue.Expression

/-- A piece of an expression and how deeply it nests; a switch is a piece that
cannot be repeated. -/
structure Part where
  expression : Expression
  depth : Nat := 0
  repeatable : Bool := true
deriving DecidableEq, Repr

namespace Part

/-- One part of several, one level deeper than the deepest unless it is alone. -/
def join (make : List Expression → Expression) (parts : List Part) : Part :=
  match parts with
  | [p] => { p with repeatable := true }
  | [] => { expression := make [] }
  | ps =>
    { expression := make (ps.map (·.expression)), depth := (ps.map (·.depth)).foldl max 0 + 1 }

/-- Parts in a row, latest first. -/
def sequence (latest : List Part) : Part :=
  join Expression.ofList latest.reverse

/-- Alternatives, latest first. -/
def choice (latest : List Part) : Part :=
  join Expression.anyOf latest.reverse

end Part

/-- An open group: the switches to restore, what was read before it, and its number if it captures. -/
structure Level where
  flags : Flags
  items : List Part
  branches : List Part
  number : Option Nat
deriving DecidableEq, Repr

/-- What has been read: in the innermost group the items of the last branch and
the branches before it. -/
structure Progress where
  flags : Flags := {}
  items : List Part := []
  branches : List Part := []
  levels : List Level := []
  names : List (List Char) := []
  captures : Nat := 0
deriving DecidableEq, Repr

namespace Progress

def push (p : Progress) (part : Part) : Progress :=
  { p with items := part :: p.items }

def pushSet (p : Progress) (s : CharSet) : Progress :=
  p.push { expression := .one s }

def pushLook (p : Progress) (l : Look) : Progress :=
  p.push { expression := .look l }

def group (p : Progress) : Part :=
  Part.choice (Part.sequence p.items :: p.branches)

def branch (p : Progress) : Progress :=
  { p with items := [], branches := Part.sequence p.items :: p.branches }

def enter (p : Progress) (flags : Flags) : Progress :=
  { p with
    flags, items := [], branches := []
    levels := ⟨p.flags, p.items, p.branches, none⟩ :: p.levels }

def enterCapture (p : Progress) : Progress :=
  { p with
    items := [], branches := [], captures := p.captures + 1
    levels := ⟨p.flags, p.items, p.branches, some p.captures⟩ :: p.levels }

/-- Closes the innermost group. -/
def leave? (p : Progress) : Option Progress :=
  match p.levels with
  | [] => none
  | level :: levels =>
    let inner := p.group
    let e := .group level.number inner.expression
    some { p with
      flags := level.flags, branches := level.branches, levels
      items := { expression := e, depth := inner.depth + 1 } :: level.items }

/-- Repeats the last item, if there is one that can be repeated; `marked` turns its
preference around. -/
def repeat? (p : Progress) (min : Nat) (max : Option Nat) (marked : Bool) : Option Progress :=
  match p.items with
  | [] => none
  | part :: items =>
    if part.repeatable then
      let e := .many part.expression min max (marked != p.flags.preferFew)
      some { p with items := { expression := e, depth := part.depth + 1 } :: items }
    else none

def pushAtom? (p : Progress) : Atom → Option Progress
  | .char c asByte => (p.flags.literal? asByte c).map p.pushSet
  | .set s => some (p.pushSet s)
  | .look l => some (p.pushLook l)

end Progress

def maxCount : Nat := UInt32.size - 1

def count? (digits : List Char) : Option Nat :=
  (Text.number? 10 digits).filter (· ≤ maxCount)

/-- Reads digits with white space on either side. -/
def readDigits (x : Bool) (cs : List Char) : List Char × List Char :=
  let r := collect x Char.isDigit (cs.dropWhile Text.isBlank)
  (r.1, (collect x Text.isBlank r.2).2)

/-- Reads the counts of `{min}`, `{min,}` or `{min,max}` after the brace that opens them. -/
def readCounts (x : Bool) (cs : List Char) : Option ((Nat × Option Nat) × List Char) :=
  let least := readDigits x (skip x cs)
  match least.2 with
  | '}' :: rest => (count? least.1).map fun n => ((n, some n), rest)
  | ',' :: tail =>
    match skip x tail with
    | '}' :: rest => (count? least.1).map fun n => ((n, none), rest)
    | tail =>
      let most := readDigits x tail
      match count? least.1, count? most.1, most.2 with
      | some n, some m, '}' :: rest => if n ≤ m then some ((n, some m), rest) else none
      | _, _, _ => none
  | _ => none

/-- Reads the mark that turns the preference of a repetition around, if there is one. -/
def readMark : List Char → Bool × List Char
  | '?' :: cs => (true, cs)
  | cs => (false, cs)

/-- Repeats the last item and reads a mark behind the repetition. -/
def readRepeat (p : Progress) (min : Nat) (max : Option Nat) (cs : List Char) :
    Option (Progress × List Char) :=
  (p.repeat? min max (readMark cs).1).map (·, (readMark cs).2)

/-- Whether a character may stand in a group's name, or begin it. -/
def isNameChar (first : Bool) (c : Char) : Bool :=
  c = '_' || Unicode.nameLetter.contains c ||
    (!first && (c = '.' || c = '[' || c = ']' || Unicode.nameNumber.contains c))

/-- Reads a group's name, which must be new, and the bracket that closes it. -/
def readName (names : List (List Char)) (cs : List Char) : Option (List Char × List Char) :=
  match Text.splitAt? '>' cs with
  | some (c :: name, rest) =>
    if isNameChar true c && name.all (isNameChar false) && !names.contains (c :: name) then
      some (c :: name, rest)
    else none
  | _ => none

/-- Reads switches up to `:` or `)`; a letter may occur once, and so may `-`, with
a letter behind it. -/
def readFlags (f : Flags) (seen : List Char) (on : Bool) : List Char → Option (Flags × Char × List Char)
  | [] => none
  | c :: cs =>
    if c = ':' ∨ c = ')' then
      if seen.head? = some '-' ∨ (c = ')' ∧ seen = []) then none else some (f, c, cs)
    else if seen.contains c then none
    else if c = '-' then readFlags f (c :: seen) false cs
    else match f.set? on c with
      | some f => readFlags f (c :: seen) on cs
      | none => none

/-- Reads what follows a parenthesis that opens: a group, or switches for the rest
of the group around. -/
def openGroup (p : Progress) (cs : List Char) : Option (Progress × List Char) :=
  match skip p.flags.extended cs with
  | '?' :: '=' :: _ | '?' :: '!' :: _ | '?' :: '<' :: '=' :: _ | '?' :: '<' :: '!' :: _ => none
  | '?' :: 'P' :: '<' :: cs | '?' :: '<' :: cs =>
    (readName p.names cs).map fun r =>
      ({ p with names := r.1 :: p.names }.enterCapture, r.2)
  | '?' :: cs =>
    match readFlags p.flags [] true cs with
    | none => none
    | some (flags, c, rest) =>
      if c = ':' then some (p.enter flags, rest)
      else some ({ p with flags }.push { expression := .empty, repeatable := false }, rest)
  | cs => some (p.enterCapture, cs)

/-- Reads one item that begins with `c`. -/
def readItem (p : Progress) (c : Char) (cs : List Char) : Option (Progress × List Char) :=
  match c with
  | '(' => openGroup p cs
  | ')' => p.leave?.map (·, cs)
  | '|' => some (p.branch, cs)
  | '[' =>
    let b := openBracket p.flags.extended cs
    (readBracket p.flags b.1 [] b.2).map fun r =>
      (p.push { expression := .one r.1.1, depth := r.1.2 }, r.2)
  | '?' => readRepeat p 0 (some 1) cs
  | '*' => readRepeat p 0 none cs
  | '+' => readRepeat p 1 none cs
  | '{' =>
    match readCounts p.flags.extended cs with
    | none => none
    | some ((min, max), rest) => readRepeat p min max (skip p.flags.extended rest)
  | '\\' =>
    match readEscape p.flags cs with
    | none => none
    | some (a, rest) => (p.pushAtom? a).map (·, rest)
  | '.' => p.flags.dot?.map fun s => (p.pushSet s, cs)
  | '^' => some (p.pushLook p.flags.lineStart, cs)
  | '$' => some (p.pushLook p.flags.lineStop, cs)
  | c => (p.pushAtom? (.char c false)).map (·, cs)

theorem readDigits_length (x : Bool) (cs : List Char) :
    (readDigits x cs).2.length ≤ cs.length := by
  have h₁ := (List.dropWhile_suffix Text.isBlank (l := cs)).length_le
  have h₂ := collect_length x Char.isDigit (cs.dropWhile Text.isBlank)
  have h₃ := collect_length x Text.isBlank (collect x Char.isDigit (cs.dropWhile Text.isBlank)).2
  simp only [readDigits]
  omega

theorem readCounts_length {x : Bool} {cs rest : List Char} {n : Nat × Option Nat}
    (h : readCounts x cs = some (n, rest)) : rest.length < cs.length := by
  have h₁ := skip_length x cs
  have h₂ := readDigits_length x (skip x cs)
  simp only [readCounts] at h
  split at h
  · rename_i r hr
    rw [hr, List.length_cons] at h₂
    obtain ⟨m, _, he⟩ := Option.map_eq_some_iff.1 h
    cases he
    omega
  · rename_i tail hr
    rw [hr, List.length_cons] at h₂
    have h₃ := skip_length x tail
    split at h
    · rename_i hs
      rw [hs, List.length_cons] at h₃
      obtain ⟨m, _, he⟩ := Option.map_eq_some_iff.1 h
      cases he
      omega
    · rename_i tail' _
      have h₄ := readDigits_length x (skip x tail)
      split at h
      · rename_i hm
        rw [hm, List.length_cons] at h₄
        split at h
        · cases h
          omega
        · simp at h
      · simp at h
  · simp at h

theorem readRepeat_length {p p' : Progress} {min : Nat} {max : Option Nat} {cs rest : List Char}
    (h : readRepeat p min max cs = some (p', rest)) : rest.length ≤ cs.length := by
  obtain ⟨r, _, he⟩ := Option.map_eq_some_iff.1 h
  cases he
  unfold readMark
  split
  · exact Nat.le_succ _
  · exact Nat.le_refl _

theorem readName_length {names : List (List Char)} {cs name rest : List Char}
    (h : readName names cs = some (name, rest)) : rest.length < cs.length := by
  unfold readName at h
  split at h
  · rename_i hs
    split at h
    · cases h
      exact Text.splitAt?_length hs
    · simp at h
  · simp at h

theorem readFlags_length {f f' : Flags} {seen cs rest : List Char} {on : Bool} {c : Char}
    (h : readFlags f seen on cs = some (f', c, rest)) : rest.length < cs.length := by
  fun_induction readFlags f seen on cs with
  | case1 => simp at h
  | case2 => simp at h
  | case3 => cases h; exact Nat.lt_succ_self _
  | case4 => simp at h
  | case5 _ _ _ _ _ _ ih => exact Nat.lt_succ_of_lt (ih h)
  | case6 _ _ _ _ _ _ _ _ _ _ ih => exact Nat.lt_succ_of_lt (ih h)
  | case7 => simp at h

theorem openGroup_length {p p' : Progress} {cs rest : List Char}
    (h : openGroup p cs = some (p', rest)) : rest.length ≤ cs.length := by
  have h₁ := skip_length p.flags.extended cs
  unfold openGroup at h
  split at h
  · simp at h
  · simp at h
  · simp at h
  · simp at h
  · rename_i hs
    rw [hs] at h₁
    obtain ⟨r, hr, he⟩ := Option.map_eq_some_iff.1 h
    cases he
    have := readName_length hr
    simp only [List.length_cons] at h₁
    omega
  · rename_i hs
    rw [hs] at h₁
    obtain ⟨r, hr, he⟩ := Option.map_eq_some_iff.1 h
    cases he
    have := readName_length hr
    simp only [List.length_cons] at h₁
    omega
  · rename_i hs
    rw [hs, List.length_cons] at h₁
    split at h
    · simp at h
    · rename_i hf
      have := readFlags_length hf
      split at h
      · cases h
        omega
      · cases h
        omega
  · cases h
    exact h₁

theorem readBracket_length {f : Flags} {b : Bracket} {outer : List Bracket} {cs rest : List Char}
    {v : CharSet × Nat} (h : readBracket f b outer cs = some (v, rest)) : rest.length ≤ cs.length := by
  fun_induction readBracket f b outer cs with
  | case1 => simp at h
  | case2 => simp at h
  | case3 b outer cs tail hs s rest' hn ih =>
    have h₁ := skip_length f.extended cs
    have h₂ := readNamed_length hn
    have h₃ := ih h
    rw [hs, List.length_cons] at h₁
    omega
  | case4 b outer cs tail hs hn ih =>
    have h₁ := skip_length f.extended cs
    have h₂ := openBracket_length f.extended tail
    have h₃ := ih h
    rw [hs, List.length_cons] at h₁
    omega
  | case5 => simp at h
  | case6 b cs tail hs w hc =>
    have h₁ := skip_length f.extended cs
    rw [hs, List.length_cons] at h₁
    cases h
    omega
  | case7 b cs tail hs w o outer hc ih =>
    have h₁ := skip_length f.extended cs
    have h₃ := ih h
    rw [hs, List.length_cons] at h₁
    omega
  | case8 b outer cs tail hs ih =>
    have h₁ := skip_length f.extended cs
    have h₃ := ih h
    simp only [hs, List.length_cons] at h₁
    omega
  | case9 b outer cs tail hs ih =>
    have h₁ := skip_length f.extended cs
    have h₃ := ih h
    simp only [hs, List.length_cons] at h₁
    omega
  | case10 b outer cs tail hs ih =>
    have h₁ := skip_length f.extended cs
    have h₃ := ih h
    simp only [hs, List.length_cons] at h₁
    omega
  | case11 => simp at h
  | case12 b outer cs c tail _ _ _ _ _ hs s rest' hr ih =>
    have h₁ := skip_length f.extended cs
    have h₂ := readRange_length hr
    have h₃ := ih h
    rw [hs] at h₁
    omega

theorem readItem_length {p p' : Progress} {c : Char} {cs rest : List Char}
    (h : readItem p c cs = some (p', rest)) : rest.length ≤ cs.length := by
  unfold readItem at h
  split at h
  · exact openGroup_length h
  · obtain ⟨r, _, he⟩ := Option.map_eq_some_iff.1 h
    cases he
    exact Nat.le_refl _
  · cases h
    exact Nat.le_refl _
  · obtain ⟨r, hr, he⟩ := Option.map_eq_some_iff.1 h
    cases he
    exact Nat.le_trans (readBracket_length hr) (openBracket_length _ _)
  · exact readRepeat_length h
  · exact readRepeat_length h
  · exact readRepeat_length h
  · split at h
    · simp at h
    · rename_i hc
      exact Nat.le_trans (readRepeat_length h)
        (Nat.le_trans (skip_length _ _) (Nat.le_of_lt (readCounts_length hc)))
  · split at h
    · simp at h
    · rename_i ha
      obtain ⟨r, _, he⟩ := Option.map_eq_some_iff.1 h
      cases he
      exact Nat.le_of_lt (readEscape_length ha)
  · obtain ⟨r, _, he⟩ := Option.map_eq_some_iff.1 h
    cases he
    exact Nat.le_refl _
  · cases h
    exact Nat.le_refl _
  · cases h
    exact Nat.le_refl _
  · obtain ⟨r, _, he⟩ := Option.map_eq_some_iff.1 h
    cases he
    exact Nat.le_refl _

def readItems (p : Progress) (cs : List Char) : Option Progress :=
  match _h : skip p.flags.extended cs with
  | [] => some p
  | c :: tail =>
    match _hi : readItem p c tail with
    | none => none
    | some (p', rest) => readItems p' rest
termination_by cs.length
decreasing_by
  have h₁ := skip_length p.flags.extended cs
  rw [_h, List.length_cons] at h₁
  have h₂ := readItem_length _hi
  omega

def maxDepth : Nat := 250

/-- The expression of a text in which every group is closed and that nests no
deeper than allowed. -/
def read (cs : List Char) : Option Expression := do
  let p ← readItems {} cs
  if p.levels.isEmpty && p.group.depth ≤ maxDepth then some p.group.expression else none

end Dialogue.Expression
