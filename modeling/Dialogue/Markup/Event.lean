import Dialogue.Markup.Tag

/-!
Source text as a sequence of events. Reading checks that closing tags match the open ones; it stops
at the first fault and keeps the events before it.
-/
namespace Dialogue.Markup

inductive Event where
  | opening (tag : Tag)
  | empty (tag : Tag)
  | closing (name : List Char)
  | text (raw : List Char)
  | cdata (content : List Char)
  /-- A comment, a processing instruction or a declaration. -/
  | aside
deriving DecidableEq, Repr

/-- Splits a tag from what follows its `>`; a `>` between quotes does not count. -/
def splitTag : Option Char → List Char → Option (List Char × List Char)
  | _, [] => none
  | none, c :: cs =>
    if c = '>' then some ([], cs)
    else (splitTag (if c = '"' ∨ c = '\'' then some c else none) cs).map fun r => (c :: r.1, r.2)
  | some q, c :: cs =>
    (splitTag (if c = q then none else some q) cs).map fun r => (c :: r.1, r.2)

/-- Splits at the first `>` that ends the text `seen` before it, which is given
latest character first. -/
def splitClose (ends : List Char → Bool) (seen : List Char) : List Char → Option (List Char × List Char)
  | [] => none
  | c :: cs => if c = '>' ∧ ends seen then some (seen.reverse, cs) else splitClose ends (c :: seen) cs

/-- Five characters at least, the last two `--`. -/
def endsComment : List Char → Bool
  | '-' :: '-' :: seen => 3 ≤ seen.length
  | _ => false

def endsCdata : List Char → Bool
  | ']' :: ']' :: _ => true
  | _ => false

/-- As many `<` as `>` so far. -/
def endsDoctype (seen : List Char) : Bool :=
  seen.count '<' == seen.count '>'

def endsInstruction : List Char → Bool
  | '?' :: _ => true
  | _ => false

/-- The text after `pattern`, letters of either case taken as equal. -/
def dropIgnoringCase? : List Char → List Char → Option (List Char)
  | [], cs => some cs
  | p :: ps, c :: cs => if p.toLower = c.toLower then dropIgnoringCase? ps cs else none
  | _ :: _, [] => none

/-- A declaration without its `!DOCTYPE` must name the document type. -/
def checkDoctype (content : List Char) : Except ReadFault Event :=
  match dropIgnoringCase? "!DOCTYPE".toList content with
  | none => .error (.badSyntax .doctypeNotClosed)
  | some rest => if rest.all isGap then .error (.illFormed .missingDoctypeName) else .ok .aside

def checkComment (content : List Char) : Except ReadFault Event :=
  if "!--".toList.isPrefixOf content then .ok .aside else .error (.badSyntax .commentNotClosed)

/-- The content stands between `![CDATA[` and the last two characters. -/
def checkCdata (content : List Char) : Except ReadFault Event :=
  if "![CDATA[".toList.isPrefixOf content then .ok (.cdata (content.drop 8).dropLast.dropLast)
  else .error (.badSyntax .cdataNotClosed)

/-- A lone `?` opens and closes nothing. -/
def checkInstruction (content : List Char) : Except ReadFault Event :=
  if 1 < content.length then .ok .aside else .error (.badSyntax .instructionNotClosed)

/-- Reads one delimited item: its text up to the closing `>`, checked, and the input after it. -/
def delimited (ends : List Char → Bool) (fault : SyntaxFault)
    (check : List Char → Except ReadFault Event) (opening : Char) (cs : List Char) :
    Except ReadFault (Event × List Char) :=
  match splitClose ends [opening] cs with
  | none => .error (.badSyntax fault)
  | some (content, rest) => (check content).map (·, rest)

/-- The end of a closing tag's name: white space after it is dropped, unless there
is nothing else. -/
def closingName (content : List Char) : List Char :=
  match content.reverse.dropWhile isGap with
  | [] => content
  | cs => cs.reverse

/-- A tag that ends in `/` is empty. -/
def tagEvent (content : List Char) : Event :=
  match content.reverse with
  | '/' :: cs => .empty (.ofContent cs.reverse)
  | _ => .opening (.ofContent content)

/-- Reads the markup that stands after a `<`, and the input after it. -/
def readMarkup : List Char → Except ReadFault (Event × List Char)
  | '!' :: cs =>
    match cs with
    | '[' :: _ => delimited endsCdata .cdataNotClosed checkCdata '!' cs
    | '-' :: _ => delimited endsComment .commentNotClosed checkComment '!' cs
    | 'D' :: _ | 'd' :: _ => delimited endsDoctype .doctypeNotClosed checkDoctype '!' cs
    | _ => .error (.badSyntax .unknownMarkup)
  | '?' :: cs => delimited endsInstruction .instructionNotClosed checkInstruction '?' cs
  | '/' :: cs =>
    match splitTag none cs with
    | none => .error (.badSyntax .tagNotClosed)
    | some (content, rest) => .ok (.closing (closingName content), rest)
  | cs =>
    match splitTag none cs with
    | none => .error (.badSyntax .tagNotClosed)
    | some (content, rest) => .ok (tagEvent content, rest)

theorem splitTag_length {q : Option Char} {cs content rest : List Char}
    (h : splitTag q cs = some (content, rest)) : rest.length < cs.length := by
  fun_induction splitTag q cs generalizing content with
  | case1 => simp at h
  | case2 => simp_all
  | case3 _ _ _ ih =>
    obtain ⟨r, hr, he⟩ := Option.map_eq_some_iff.1 h
    cases he
    simpa using Nat.lt_succ_of_lt (ih hr)
  | case4 _ _ _ ih =>
    obtain ⟨r, hr, he⟩ := Option.map_eq_some_iff.1 h
    cases he
    simpa using Nat.lt_succ_of_lt (ih hr)

theorem splitClose_length {ends : List Char → Bool} {seen cs content rest : List Char}
    (h : splitClose ends seen cs = some (content, rest)) : rest.length < cs.length := by
  fun_induction splitClose ends seen cs with
  | case1 => simp at h
  | case2 => simp_all
  | case3 _ _ _ _ ih => simpa using Nat.lt_succ_of_lt (ih h)

theorem delimited_length {ends : List Char → Bool} {fault : SyntaxFault}
    {check : List Char → Except ReadFault Event} {c : Char} {cs rest : List Char} {e : Event}
    (h : delimited ends fault check c cs = .ok (e, rest)) : rest.length < cs.length := by
  simp only [delimited] at h
  split at h
  · simp at h
  · rename_i content r hs
    cases hc : check content with
    | error f => simp [hc, Except.map] at h
    | ok e' =>
      simp only [hc, Except.map, Except.ok.injEq, Prod.mk.injEq] at h
      exact h.2 ▸ splitClose_length hs

theorem readMarkup_length {cs rest : List Char} {e : Event}
    (h : readMarkup cs = .ok (e, rest)) : rest.length < cs.length := by
  unfold readMarkup at h
  split at h
  · split at h
    · exact Nat.lt_succ_of_lt (delimited_length h)
    · exact Nat.lt_succ_of_lt (delimited_length h)
    · exact Nat.lt_succ_of_lt (delimited_length h)
    · exact Nat.lt_succ_of_lt (delimited_length h)
    · simp at h
  · exact Nat.lt_succ_of_lt (delimited_length h)
  · split at h
    · simp at h
    · rename_i hs
      simp only [Except.ok.injEq, Prod.mk.injEq] at h
      exact Nat.lt_succ_of_lt (h.2 ▸ splitTag_length hs)
  · split at h
    · simp at h
    · rename_i hs
      simp only [Except.ok.injEq, Prod.mk.injEq] at h
      exact h.2 ▸ splitTag_length hs

/-- The names of open tags, innermost first, after an event; a closing tag must
name the innermost. -/
def trackOpen (names : List (List Char)) : Event → Except FormFault (List (List Char))
  | .opening tag => .ok (tag.name :: names)
  | .closing name =>
    match names with
    | [] => .error (.unmatchedClose (String.ofList name))
    | expected :: names =>
      if expected = name then .ok names
      else .error (.mismatchedClose (String.ofList expected) (String.ofList name))
  | _ => .ok names

/-- Events, and the fault that ends them if the source does not end well. -/
structure Reading where
  events : List Event
  fault? : Option ReadFault := none
deriving DecidableEq, Repr

def Reading.cons (e : Event) (r : Reading) : Reading :=
  { r with events := e :: r.events }

/-- Reads on with the names of the tags that are open. -/
def readEvents (names : List (List Char)) : List Char → Reading
  | [] => ⟨[], none⟩
  | '<' :: cs =>
    match _h : readMarkup cs with
    | .error fault => ⟨[], some fault⟩
    | .ok (event, rest) =>
      match trackOpen names event with
      | .error fault => ⟨[], some (.illFormed fault)⟩
      | .ok names => (readEvents names rest).cons event
  | c :: cs => (readEvents names (cs.dropWhile (· ≠ '<'))).cons (.text (c :: cs.takeWhile (· ≠ '<')))
termination_by cs => cs.length
decreasing_by
  · exact Nat.lt_succ_of_lt (readMarkup_length _h)
  · exact Nat.lt_succ_of_le (List.dropWhile_suffix _).length_le

end Dialogue.Markup
