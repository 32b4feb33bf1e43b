import Dialogue.Markup.Document

/-!
# Readings in parts

A reading can be stopped between two events and taken up again with the tags that are open there.
-/

namespace Dialogue.Markup

theorem exists_of_bind_eq_ok {ε α β : Type} {r : Except ε α} {f : α → Except ε β} {b : β}
    (h : r >>= f = .ok b) : ∃ a, r = .ok a ∧ f a = .ok b := by
  cases r with
  | error e => cases h
  | ok a => exact ⟨a, rfl, h⟩

/-- The tree of a reading that goes on with a draft. -/
def Reading.treeFrom (d : Draft) (r : Reading) : Except Fault Element := do
  let d ← r.events.foldlM Draft.step d
  match r.fault? with
  | some fault => .error (.unreadable fault)
  | none => d.finish

theorem Reading.treeFrom_cons {d d' : Draft} {event : Event} (h : d.step event = .ok d')
    (r : Reading) : (r.cons event).treeFrom d = r.treeFrom d' := by
  simp [Reading.treeFrom, Reading.cons, h, bind, Except.bind]

/-- Reading comes to `rest` with the tags `names'` open, after some events. -/
inductive Reaches : List (List Char) → List Char → List Event → List (List Char) → List Char → Prop
  | here {names : List (List Char)} {cs : List Char} : Reaches names cs [] names cs
  | markup {names names' names'' : List (List Char)} {cs rest rest' : List Char} {event : Event}
      {events : List Event} :
    readMarkup cs = .ok (event, rest) → trackOpen names event = .ok names' →
      Reaches names' rest events names'' rest' → Reaches names ('<' :: cs) (event :: events) names'' rest'
  | text {names names' : List (List Char)} {c : Char} {cs rest : List Char} {events : List Event} :
    c ≠ '<' → Reaches names (cs.dropWhile (· ≠ '<')) events names' rest →
      Reaches names (c :: cs) (.text (c :: cs.takeWhile (· ≠ '<')) :: events) names' rest

/-! ## One event at a time -/

theorem readEvents_markup {names names' : List (List Char)} {cs rest : List Char} {event : Event}
    (hm : readMarkup cs = .ok (event, rest)) (ho : trackOpen names event = .ok names') :
    readEvents names ('<' :: cs) = (readEvents names' rest).cons event := by
  rw [readEvents]
  split
  · next hm' => rw [hm] at hm'; cases hm'
  · next hm' =>
      rw [hm] at hm'
      cases hm'
      simp only [ho]

theorem readEvents_unreadable {names : List (List Char)} {cs : List Char} {fault : ReadFault}
    (hm : readMarkup cs = .error fault) : readEvents names ('<' :: cs) = ⟨[], some fault⟩ := by
  rw [readEvents]
  split
  · next hm' =>
      rw [hm] at hm'
      cases hm'
      rfl
  · next hm' => rw [hm] at hm'; cases hm'

theorem readEvents_misplaced {names : List (List Char)} {cs rest : List Char} {event : Event}
    {fault : FormFault} (hm : readMarkup cs = .ok (event, rest))
    (ho : trackOpen names event = .error fault) :
    readEvents names ('<' :: cs) = ⟨[], some (.illFormed fault)⟩ := by
  rw [readEvents]
  split
  · next hm' => rw [hm] at hm'; cases hm'
  · next hm' =>
      rw [hm] at hm'
      cases hm'
      simp only [ho]

/-- A reading begins with the events that were read up to any place. -/
theorem Reaches.readEvents_eq {names names' : List (List Char)} {cs rest : List Char}
    {events : List Event} (h : Reaches names cs events names' rest) :
    readEvents names cs =
      ⟨events ++ (readEvents names' rest).events, (readEvents names' rest).fault?⟩ := by
  induction h with
  | here => rfl
  | markup hm ho _ ih =>
      rw [readEvents_markup hm ho, ih]
      rfl
  | text hc _ ih =>
      rw [readEvents.eq_3 _ _ _ hc, ih]
      rfl

/-- Every beginning of the events of a reading is reached at some place. -/
theorem exists_reaches {names : List (List Char)} {cs : List Char} {events after : List Event}
    (h : (readEvents names cs).events = events ++ after) :
    ∃ names' rest, Reaches names cs events names' rest ∧ (readEvents names' rest).events = after := by
  fun_induction readEvents names cs generalizing events with
  | case1 names =>
      obtain ⟨rfl, rfl⟩ := List.append_eq_nil_iff.mp h.symm
      exact ⟨names, [], .here, by rw [readEvents]⟩
  | case2 names cs fault hm =>
      obtain ⟨rfl, rfl⟩ := List.append_eq_nil_iff.mp h.symm
      exact ⟨names, '<' :: cs, .here, by rw [readEvents_unreadable hm]⟩
  | case3 names cs event rest hm fault ho =>
      obtain ⟨rfl, rfl⟩ := List.append_eq_nil_iff.mp h.symm
      exact ⟨names, '<' :: cs, .here, by rw [readEvents_misplaced hm ho]⟩
  | case4 names cs event rest hm names' ho ih =>
      cases events with
      | nil => exact ⟨names, '<' :: cs, .here, by rw [readEvents_markup hm ho]; exact h⟩
      | cons e events =>
          obtain ⟨rfl, hrest⟩ := List.cons.inj h
          obtain ⟨names'', rest', hreach, hafter⟩ := ih hrest
          exact ⟨names'', rest', .markup hm ho hreach, hafter⟩
  | case5 names c cs hc ih =>
      cases events with
      | nil => exact ⟨names, c :: cs, .here, by rw [readEvents.eq_3 _ _ _ hc]; exact h⟩
      | cons e events =>
          obtain ⟨rfl, hrest⟩ := List.cons.inj h
          obtain ⟨names', rest, hreach, hafter⟩ := ih hrest
          exact ⟨names', rest, .text hc hreach, hafter⟩

end Dialogue.Markup
