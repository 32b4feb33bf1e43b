import Dialogue.Proofs.Markup.Bytes

/-!
# Open tags and open elements

The reader keeps the names of the tags that are open, the draft keeps the elements that are. They are the
same at every event, so a draft never meets a closing tag that does not fit: the reader has refused it.
-/

namespace Dialogue.Markup

namespace Draft

/-- The names of the open elements, innermost first. -/
def openNames (d : Draft) : List (List Char) :=
  d.opened.map (·.name.toList)

theorem elementOf_error {tag : Tag} {fault : Fault} (h : elementOf tag = .error fault) :
    ∃ f, fault = .unreadable f := by
  unfold elementOf at h
  cases ha : tag.attributes with
  | error f =>
      rw [ha] at h
      cases h
      exact ⟨f, rfl⟩
  | ok attributes => rw [ha] at h; cases h

theorem attach_openNames {d d' : Draft} {e : Element} (h : d.attach e = .ok d') :
    d'.openNames = d.openNames := by
  obtain ⟨_ | ⟨parent, opened⟩, root?⟩ := d
  · cases root? with
    | none => cases h; rfl
    | some root => cases h
  · cases h
    rfl

theorem attach_error {d : Draft} {e : Element} {fault : Fault} (h : d.attach e = .error fault) :
    fault = .malformed (.secondRoot e.name) ∧ d.opened = [] ∧ ∃ root, d.root? = some root := by
  obtain ⟨_ | ⟨parent, opened⟩, root?⟩ := d
  · cases root? with
    | none => cases h
    | some root =>
        cases h
        exact ⟨rfl, rfl, root, rfl⟩
  · cases h

theorem write_openNames (d : Draft) (value : String) : (d.write value).openNames = d.openNames := by
  obtain ⟨_ | ⟨parent, opened⟩, root?⟩ := d
  · rfl
  · rfl

/-- A closing tag that the reader lets pass names the innermost open element. -/
theorem close_of_trackOpen {d : Draft} {name : List Char} {names : List (List Char)}
    (h : trackOpen d.openNames (.closing name) = .ok names) :
    ∃ e opened, d.opened = e :: opened ∧ names = opened.map (·.name.toList) ∧
      d.close (String.ofList name) =
        attach { d with opened } { e with children := e.children.reverse } := by
  obtain ⟨_ | ⟨e, opened⟩, root?⟩ := d
  · cases h
  · simp only [openNames, List.map_cons, trackOpen] at h
    split at h
    · rename_i hname
      cases h
      refine ⟨e, opened, rfl, rfl, ?_⟩
      rw [close]
      exact if_pos (by rw [← hname, String.ofList_toList])
    · cases h

/-- The open elements follow the open tags through an event that the reader lets pass. -/
theorem step_openNames {d d' : Draft} {event : Event} {names : List (List Char)}
    (ho : trackOpen d.openNames event = .ok names) (hs : d.step event = .ok d') :
    d'.openNames = names := by
  cases event with
  | opening tag =>
      cases ho
      obtain ⟨e, he, hopen⟩ := exists_of_bind_eq_ok hs
      cases hopen
      exact congrArg (· :: d.openNames) (elementOf_eq_ok he).1
  | empty tag =>
      cases ho
      obtain ⟨e, _, hattach⟩ := exists_of_bind_eq_ok hs
      exact attach_openNames hattach
  | closing name =>
      obtain ⟨e, opened, _, rfl, hclose⟩ := close_of_trackOpen ho
      rw [step, hclose] at hs
      exact attach_openNames hs
  | text raw =>
      cases ho
      rw [step] at hs
      split at hs
      · cases hs
        rfl
      · obtain ⟨cs, _, hwrite⟩ := exists_of_bind_eq_ok hs
        cases hwrite
        exact write_openNames d _
  | cdata content =>
      cases ho
      cases hs
      exact write_openNames d _
  | aside =>
      cases ho
      cases hs
      rfl

/-- What makes a draft malformed is a second root, and nothing else. -/
theorem step_malformed {d : Draft} {event : Event} {names : List (List Char)} {f : DocumentFault}
    (ho : trackOpen d.openNames event = .ok names) (hs : d.step event = .error (.malformed f)) :
    (∃ name, f = .secondRoot name) ∧ ∃ root, d.root? = some root := by
  have hattach {d : Draft} {e : Element} (h : d.attach e = .error (.malformed f)) :
      (∃ name, f = .secondRoot name) ∧ ∃ root, d.root? = some root := by
    obtain ⟨hf, _, hroot⟩ := attach_error h
    cases hf
    exact ⟨⟨e.name, rfl⟩, hroot⟩
  cases event with
  | opening tag =>
      cases he : elementOf tag with
      | error fault =>
          obtain ⟨_, rfl⟩ := elementOf_error he
          rw [step, he] at hs
          cases hs
      | ok e =>
          rw [step, he] at hs
          cases hs
  | empty tag =>
      cases he : elementOf tag with
      | error fault =>
          obtain ⟨_, rfl⟩ := elementOf_error he
          rw [step, he] at hs
          cases hs
      | ok e =>
          rw [step, he] at hs
          exact hattach hs
  | closing name =>
      obtain ⟨e, opened, _, _, hclose⟩ := close_of_trackOpen ho
      rw [step, hclose] at hs
      exact hattach (d := { d with opened }) hs
  | text raw =>
      rw [step] at hs
      split at hs
      · cases hs
      · cases hdecode : decode raw with
        | error fault => rw [hdecode] at hs; cases hs
        | ok cs => rw [hdecode] at hs; cases hs
  | cdata content => cases hs
  | aside => cases hs

end Draft

/-! ## Whole readings -/

theorem Reaches.openNames {names names' : List (List Char)} {cs rest : List Char}
    {events : List Event} (h : Reaches names cs events names' rest) {d d' : Draft}
    (hd : d.openNames = names) (hs : events.foldlM Draft.step d = .ok d') : d'.openNames = names' := by
  induction h generalizing d with
  | here =>
      cases hs
      exact hd
  | @markup _ _ _ _ _ _ event events hm ho _ ih =>
      rw [List.foldlM_cons] at hs
      obtain ⟨next, hstep, hrest⟩ := exists_of_bind_eq_ok hs
      exact ih (Draft.step_openNames (hd ▸ ho) hstep) hrest
  | @text names _ c cs _ events hc _ ih =>
      rw [List.foldlM_cons] at hs
      obtain ⟨next, hstep, hrest⟩ := exists_of_bind_eq_ok hs
      have ho : trackOpen d.openNames (.text (c :: cs.takeWhile (· ≠ '<'))) = .ok d.openNames := rfl
      exact ih ((Draft.step_openNames ho hstep).trans hd) hrest

theorem finish_error {d : Draft} {fault : Fault} (h : d.finish = .error fault) :
    (∃ e opened, d.opened = e :: opened ∧ fault = .malformed (.unclosed e.name)) ∨
      d.opened = [] ∧ d.root? = none ∧ fault = .malformed .noRoot := by
  obtain ⟨_ | ⟨e, opened⟩, _ | root⟩ := d
  · cases h
    exact .inr ⟨rfl, rfl, rfl⟩
  · cases h
  · cases h
    exact .inl ⟨e, opened, rfl, rfl⟩
  · cases h
    exact .inl ⟨e, opened, rfl, rfl⟩

/-- Why a draft is malformed at a place: the input ends and leaves an element open or has had none, or
there is a root and one more element. -/
def Draft.Malformed (d : Draft) (rest : List Char) (f : DocumentFault) : Prop :=
  (rest = [] ∧ ∃ e opened, d.opened = e :: opened ∧ f = .unclosed e.name) ∨
    (rest = [] ∧ d.opened = [] ∧ d.root? = none ∧ f = .noRoot) ∨
    ∃ root name, d.root? = some root ∧ f = .secondRoot name

theorem exists_malformed {names : List (List Char)} {cs : List Char} {d : Draft} {f : DocumentFault}
    (hd : d.openNames = names) (h : (readEvents names cs).treeFrom d = .error (.malformed f)) :
    ∃ events names' rest d', Reaches names cs events names' rest ∧
      events.foldlM Draft.step d = .ok d' ∧ d'.Malformed rest f := by
  -- Each step keeps the open elements equal to the open tags, so none fails for a closing tag.
  fun_induction readEvents names cs generalizing d with
  | case1 names =>
      refine ⟨[], names, [], d, .here, rfl, ?_⟩
      obtain ⟨e, opened, hopened, hf⟩ | ⟨hopened, hroot, hf⟩ := finish_error h
      · exact .inl ⟨rfl, e, opened, hopened, Fault.malformed.inj hf⟩
      · exact .inr (.inl ⟨rfl, hopened, hroot, Fault.malformed.inj hf⟩)
  | case2 => cases h
  | case3 => cases h
  | case4 names cs event rest hm names' ho ih =>
      cases hstep : d.step event with
      | error fault =>
          simp only [Reading.treeFrom, Reading.cons, List.foldlM_cons, hstep] at h
          cases h
          obtain ⟨⟨name, hf⟩, root, hroot⟩ := Draft.step_malformed (hd ▸ ho) hstep
          exact ⟨[], names, _, d, .here, rfl, .inr (.inr ⟨root, name, hroot, hf⟩)⟩
      | ok next =>
          rw [Reading.treeFrom_cons hstep] at h
          obtain ⟨events, names'', rest', d', hreach, hs, hmal⟩ :=
            ih (Draft.step_openNames (hd ▸ ho) hstep) h
          refine ⟨event :: events, names'', rest', d', .markup hm ho hreach, ?_, hmal⟩
          rw [List.foldlM_cons, hstep]
          exact hs
  | case5 names c cs hc ih =>
      let raw := c :: cs.takeWhile (· ≠ '<')
      have ho : trackOpen d.openNames (.text raw) = .ok d.openNames := rfl
      cases hstep : d.step (.text raw) with
      | error fault =>
          simp only [Reading.treeFrom, Reading.cons, List.foldlM_cons, raw, hstep] at h
          cases h
          obtain ⟨⟨name, hf⟩, root, hroot⟩ := Draft.step_malformed ho hstep
          exact ⟨[], names, _, d, .here, rfl, .inr (.inr ⟨root, name, hroot, hf⟩)⟩
      | ok next =>
          rw [Reading.treeFrom_cons hstep] at h
          obtain ⟨events, names', rest', d', hreach, hs, hmal⟩ :=
            ih ((Draft.step_openNames ho hstep).trans hd) h
          refine ⟨.text raw :: events, names', rest', d', .text hc hreach, ?_, hmal⟩
          rw [List.foldlM_cons, hstep]
          exact hs

theorem exists_trackOpen_error {names : List (List Char)} {name : List Char}
    (h : names.head? ≠ some name) : ∃ f, trackOpen names (.closing name) = .error f := by
  cases names with
  | nil => exact ⟨_, rfl⟩
  | cons expected names =>
      have hne : expected ≠ name := fun he => h (congrArg some he)
      exact ⟨_, if_neg hne⟩

/-- A closing tag that does not name the innermost open tag ends the reading. -/
theorem Reaches.parse_of_misplaced {source : String} {events : List Event} {names : List (List Char)}
    {cs content after : List Char} {d : Draft} {f : FormFault}
    (h : Reaches [] source.toList events names ('<' :: '/' :: cs))
    (hs : events.foldlM Draft.step {} = .ok d) (hsplit : splitTag none cs = some (content, after))
    (ho : trackOpen names (.closing (closingName content)) = .error f) :
    parse source = .error (.unreadable (.illFormed f)) := by
  have hm : readMarkup ('/' :: cs) = .ok (.closing (closingName content), after) := by
    simp only [readMarkup, hsplit]
  rw [parse, Reading.tree, h.readEvents_eq, readEvents_misplaced hm ho, List.append_nil, hs]
  rfl

/-- At every event the open elements are the open tags of the reader. A closing tag that does not name the
innermost of them is refused by the reader, and a source that can be read is malformed only by an element
that is open at its end, by having no root, or by a second one. It is never malformed by bytes: what the
reader cuts out of the bytes of the source is UTF-8. -/
theorem parse_follows_open_tags (source : String) :
    (∀ before after, (readEvents [] source.toList).events = before ++ after →
      ∃ names rest, Reaches [] source.toList before names rest ∧
        ∀ d, before.foldlM Draft.step {} = .ok d → d.opened.map (·.name.toList) = names) ∧
      (∀ events names cs content after d,
        Reaches [] source.toList events names ('<' :: '/' :: cs) →
        events.foldlM Draft.step {} = .ok d → splitTag none cs = some (content, after) →
        names.head? ≠ some (closingName content) →
          ∃ f, trackOpen names (.closing (closingName content)) = .error f ∧
            parse source = .error (.unreadable (.illFormed f))) ∧
      (∀ f, parse source = .error (.malformed f) →
        ∃ events names rest d, Reaches [] source.toList events names rest ∧
          events.foldlM Draft.step {} = .ok d ∧ d.Malformed rest f) ∧
      ∀ event ∈ (readEvents [] (textBytes source.toList)).events, event.IsUtf8 := by
  refine ⟨?_, ?_, fun f h => exists_malformed rfl h, IsUtf8.readEvents ⟨source.toList, rfl⟩ []⟩
  · intro before after hevents
    obtain ⟨names, rest, hreach, _⟩ := exists_reaches hevents
    exact ⟨names, rest, hreach, fun d hs => hreach.openNames rfl hs⟩
  · intro events names cs content after d hreach hs hsplit hname
    obtain ⟨f, ho⟩ := exists_trackOpen_error hname
    exact ⟨f, ho, hreach.parse_of_misplaced hs hsplit ho⟩

end Dialogue.Markup
