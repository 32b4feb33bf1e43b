/-! What a conversation remembers: values under names. -/
namespace Dialogue

/-- Values under distinct names, sorted by name. -/
structure Predicates where
  entries : List (String × String) := []
  sorted : entries.Pairwise (·.1 < ·.1) := by exact List.Pairwise.nil
deriving DecidableEq, Repr

namespace Predicates

def empty : Predicates := {}

def get? (p : Predicates) (name : String) : Option String :=
  p.entries.lookup name

def size (p : Predicates) : Nat :=
  p.entries.length

def isEmpty (p : Predicates) : Bool :=
  p.entries.isEmpty

/-- Sorted entries with a value under a name. -/
def place (name value : String) : List (String × String) → List (String × String)
  | [] => [(name, value)]
  | (n, v) :: rest =>
    if name < n then (name, value) :: (n, v) :: rest
    else if name = n then (name, value) :: rest
    else (n, v) :: place name value rest

theorem mem_place {name value : String} {a : String × String} {es : List (String × String)}
    (h : a ∈ place name value es) : a = (name, value) ∨ a ∈ es := by
  induction es with
  | nil => simpa [place] using h
  | cons e es ih =>
    obtain ⟨n, v⟩ := e
    simp only [place] at h
    split at h
    · simpa using h
    · split at h
      · rcases List.mem_cons.1 h with h | h
        · exact .inl h
        · exact .inr (List.mem_cons_of_mem _ h)
      · rcases List.mem_cons.1 h with h | h
        · exact .inr (h ▸ List.mem_cons_self)
        · exact (ih h).imp_right (List.mem_cons_of_mem _)

theorem lookup_entry (name value other : String) (es : List (String × String)) :
    ((name, value) :: es).lookup other = if other = name then some value else es.lookup other := by
  rw [List.lookup_cons]
  by_cases h : other = name
  · simp [h]
  · simp [h, beq_false_of_ne h]

theorem lookup_place (name value other : String) (es : List (String × String)) :
    (place name value es).lookup other = if other = name then some value else es.lookup other := by
  induction es with
  | nil => exact lookup_entry name value other []
  | cons e es ih =>
    obtain ⟨n, v⟩ := e
    simp only [place]
    split
    · exact lookup_entry name value other _
    · split
      · rename_i hn
        subst hn
        rw [lookup_entry, lookup_entry]
        split <;> rfl
      · rename_i hn
        rw [lookup_entry, lookup_entry, ih]
        by_cases h : other = n
        · have : ¬other = name := fun h' => hn (h'.symm.trans h)
          rw [if_pos h, if_neg this, if_pos h]
        · rw [if_neg h, if_neg h]

theorem lt_of_not_lt_of_ne {a b : String} (h : ¬a < b) (hn : a ≠ b) : b < a :=
  Decidable.by_contra fun h' => hn (String.le_antisymm (String.not_lt.1 h') (String.not_lt.1 h))

theorem sorted_place (name value : String) {es : List (String × String)}
    (h : es.Pairwise (·.1 < ·.1)) : (place name value es).Pairwise (·.1 < ·.1) := by
  induction es with
  | nil => exact List.pairwise_singleton _ _
  | cons e es ih =>
    obtain ⟨n, v⟩ := e
    obtain ⟨hn, hs⟩ := List.pairwise_cons.1 h
    simp only [place]
    split
    · rename_i hlt
      refine List.pairwise_cons.2 ⟨?_, h⟩
      intro a ha
      rcases List.mem_cons.1 ha with rfl | ha
      · exact hlt
      · exact String.lt_trans hlt (hn a ha)
    · rename_i hlt
      split
      · rename_i he
        exact List.pairwise_cons.2 ⟨fun a ha => he ▸ hn a ha, hs⟩
      · rename_i hne
        refine List.pairwise_cons.2 ⟨?_, ih hs⟩
        intro a ha
        rcases mem_place ha with rfl | ha
        · exact lt_of_not_lt_of_ne hlt hne
        · exact hn a ha

/-- Stores a value, over the one that was there. -/
def set (p : Predicates) (name value : String) : Predicates :=
  ⟨place name value p.entries, sorted_place name value p.sorted⟩

theorem get?_set (p : Predicates) (name value other : String) :
    (p.set name value).get? other = if other = name then some value else p.get? other :=
  lookup_place name value other p.entries

/-- Stores values in order, so that the last under a name stays. -/
def setAll (p : Predicates) (assignments : List (String × String)) : Predicates :=
  assignments.foldl (fun p a => p.set a.1 a.2) p

theorem setAll_append (p : Predicates) (before after : List (String × String)) :
    p.setAll (before ++ after) = (p.setAll before).setAll after :=
  List.foldl_append

theorem setAll_concat (p : Predicates) (before : List (String × String)) (name value : String) :
    p.setAll (before ++ [(name, value)]) = (p.setAll before).set name value :=
  setAll_append p before [(name, value)]

/-- The last value assigned to a name, or else the one that was there. -/
theorem get?_setAll (p : Predicates) (assignments : List (String × String)) (name : String) :
    (p.setAll assignments).get? name = (assignments.reverse.lookup name).or (p.get? name) := by
  induction assignments generalizing p with
  | nil => rfl
  | cons a assignments ih =>
    obtain ⟨n, v⟩ := a
    have h : p.setAll ((n, v) :: assignments) = (p.set n v).setAll assignments := rfl
    rw [h, ih, get?_set, List.reverse_cons, List.lookup_append, Option.or_assoc, lookup_entry]
    split <;> rfl

def ofList (assignments : List (String × String)) : Predicates :=
  setAll empty assignments

end Predicates

end Dialogue
