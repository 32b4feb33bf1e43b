import Mathlib.Algebra.BigOperators.Group.List.Basic
import Mathlib.Algebra.GroupWithZero.Nat
import Mathlib.Data.List.Induction
import Mathlib.Data.List.Nodup
import Mathlib.Data.String.Basic
import Dialogue.Rules.Index

/-!
# Indexes and their histories

An index that was filled one rule after another answers by its history: with the last rule that came under
a key, with the patterns of a topic in the order in which they first came, and with the sorted topics. Its
two counts are the numbers of different topics and of different keys in the history.
-/

namespace Dialogue

/-! ## First occurrences -/

section
variable {α : Type} [BEq α] [LawfulBEq α]

theorem eraseDups_concat (as : List α) (b : α) :
    (as ++ [b]).eraseDups = if b ∈ as then as.eraseDups else as.eraseDups ++ [b] := by
  rw [List.eraseDups_append]
  by_cases h : b ∈ as <;> simp [List.removeAll, List.eraseDups_cons, h]

theorem nodup_eraseDups (as : List α) : as.eraseDups.Nodup := by
  induction as using List.reverseRecOn with
  | nil => exact .nil
  | append_singleton as b ih =>
      rw [eraseDups_concat]
      split
      · exact ih
      · rename_i hb
        refine List.nodup_append.mpr ⟨ih, List.nodup_singleton b, ?_⟩
        rintro a ha c hc rfl
        rw [List.mem_singleton.mp hc] at ha
        exact hb (List.mem_eraseDups.mp ha)

theorem filter_eraseDups (p : α → Bool) (as : List α) :
    as.eraseDups.filter p = (as.filter p).eraseDups := by
  induction as using List.reverseRecOn with
  | nil => rfl
  | append_singleton as b ih =>
      rw [eraseDups_concat, List.filter_append]
      by_cases hb : p b
      · rw [List.filter_cons_of_pos hb, List.filter_nil, eraseDups_concat, ← ih]
        by_cases hmem : b ∈ as
        · rw [if_pos hmem, if_pos (List.mem_filter.mpr ⟨hmem, hb⟩)]
        · rw [if_neg hmem, if_neg fun h => hmem (List.mem_of_mem_filter h), List.filter_append,
            List.filter_cons_of_pos hb, List.filter_nil]
      · rw [List.filter_cons_of_neg hb, List.filter_nil, List.append_nil, ← ih]
        split
        · rfl
        · rw [List.filter_append, List.filter_cons_of_neg hb, List.filter_nil, List.append_nil]

theorem eraseDups_map {β : Type} [BEq β] [LawfulBEq β] {f : α → β} {as : List α}
    (hf : ∀ a ∈ as, ∀ b ∈ as, f a = f b → a = b) : (as.map f).eraseDups = as.eraseDups.map f := by
  induction as using List.reverseRecOn with
  | nil => rfl
  | append_singleton as b ih =>
      simp only [List.mem_append, List.mem_singleton] at hf
      have hmem : f b ∈ as.map f ↔ b ∈ as := by
        constructor
        · intro h
          rcases List.mem_map.mp h with ⟨a, ha, hab⟩
          have heq : a = b := hf a (.inl ha) b (.inr rfl) hab
          rwa [← heq]
        · exact List.mem_map_of_mem
      rw [List.map_append, List.map_singleton, eraseDups_concat, eraseDups_concat,
        ih fun a ha b hb => hf a (.inl ha) b (.inl hb)]
      simp only [hmem]
      split
      · rfl
      · rw [List.map_append, List.map_singleton]

end

/-! ## What an index shows of its shelves -/

theorem Shelf.size_rules (s : Shelf) : s.rules.size = s.order.length := by
  rw [← Std.HashMap.length_keys]
  refine ((List.perm_ext_iff_of_nodup Std.HashMap.nodup_keys s.distinct).mpr ?_).length_eq
  intro pattern
  rw [Std.HashMap.mem_keys, s.inStep]

namespace Index

variable (index : Index)

theorem mem_topics {topic : String} : topic ∈ index.topics ↔ topic ∈ index.shelves := by
  rw [topics, List.mem_mergeSort, Std.HashMap.mem_keys]

theorem mem_topics_insert (c : Category) {topic : String} :
    topic ∈ (index.insert c).topics ↔ topic = c.topic ∨ topic ∈ index.topics := by
  rw [mem_topics, mem_topics, insert, Std.HashMap.mem_insert, beq_iff_eq, eq_comm]

theorem mem_patterns_insert (c : Category) {topic pattern : String} :
    pattern ∈ (index.insert c).patterns topic ↔ (topic, pattern) = c.key ∨ pattern ∈ index.patterns topic := by
  rw [patterns_insert]
  split
  · next h => simp [h.1, Category.key, or_comm]
  · next h =>
      refine ⟨.inr, ?_⟩
      rintro (hkey | hmem)
      · obtain ⟨rfl, rfl⟩ := Prod.mk.inj hkey
        exact not_not.mp fun hn => h ⟨rfl, hn⟩
      · exact hmem

theorem nodup_topics : index.topics.Nodup :=
  (List.mergeSort_perm _ _).nodup_iff.mpr Std.HashMap.nodup_keys

theorem sorted_topics : index.topics.Pairwise (· < ·) := by
  have hsort : index.topics.Pairwise fun a b => (!decide (b < a)) = true := by
    refine List.pairwise_mergeSort ?_ ?_ _
    · intro a b c hab hbc
      simp only [Bool.not_eq_true', decide_eq_false_iff_not, String.not_lt] at *
      exact String.le_trans hab hbc
    · intro a b
      simp only [Bool.or_eq_true, Bool.not_eq_true', decide_eq_false_iff_not, String.not_lt]
      exact String.le_total a b
  refine hsort.imp₂ ?_ index.nodup_topics
  intro a b hle hne
  simp only [Bool.not_eq_true', decide_eq_false_iff_not] at hle
  by_contra hlt
  exact hne (String.le_antisymm (String.not_lt.mp hle) (String.not_lt.mp hlt))

theorem topicCount_eq : index.topicCount = index.topics.length := by
  rw [topicCount, topics, List.length_mergeSort, Std.HashMap.length_keys]

theorem categoryCount_eq :
    index.categoryCount = (index.topics.map fun topic => (index.patterns topic).length).sum := by
  have hshelf : ∀ entry ∈ index.shelves.toList,
      entry.2.rules.size = (index.patterns entry.1).length := by
    intro entry he
    have hs : index.shelf entry.1 = entry.2 := by
      rw [shelf, Std.HashMap.getD_eq_getD_getElem?,
        Std.HashMap.mem_toList_iff_getElem?_eq_some.mp he, Option.getD_some]
    rw [patterns, hs, Shelf.size_rules]
  calc index.categoryCount
    _ = (index.shelves.toList.map fun entry => entry.2.rules.size).sum := by
      rw [categoryCount, Std.HashMap.fold_eq_foldl_toList, List.sum_eq_foldl, List.foldl_map]
    _ = (index.shelves.toList.map fun entry => (index.patterns entry.1).length).sum := by
      rw [List.map_congr_left hshelf]
    _ = (index.shelves.keys.map fun topic => (index.patterns topic).length).sum := by
      rw [← Std.HashMap.map_fst_toList_eq_keys, List.map_map]
      rfl
    _ = (index.topics.map fun topic => (index.patterns topic).length).sum :=
      ((List.mergeSort_perm _ _).symm.map _).sum_eq

/-- The keys under which there are rules, topic by topic. -/
def keys : List (String × String) :=
  index.topics.flatMap fun topic => (index.patterns topic).map (topic, ·)

theorem length_keys : index.keys.length = index.categoryCount := by
  rw [keys, List.length_flatMap, categoryCount_eq]
  simp only [List.length_map]

theorem nodup_keys : index.keys.Nodup := by
  refine List.nodup_flatMap.mpr ⟨?_, index.nodup_topics.imp ?_⟩
  · intro topic _
    exact (index.shelf topic).distinct.map fun p q h => (Prod.mk.inj h).2
  · intro a b hne key ha hb
    obtain ⟨p, _, rfl⟩ := List.mem_map.mp ha
    obtain ⟨q, _, he⟩ := List.mem_map.mp hb
    exact hne (Prod.mk.inj he).1.symm

theorem mem_topics_of_mem_patterns {topic pattern : String} (h : pattern ∈ index.patterns topic) :
    topic ∈ index.topics := by
  rw [mem_topics]
  by_contra hn
  rw [patterns, shelf, Std.HashMap.getD_eq_fallback hn] at h
  cases h

theorem mem_keys {topic pattern : String} :
    (topic, pattern) ∈ index.keys ↔ pattern ∈ index.patterns topic := by
  simp only [keys, List.mem_flatMap, List.mem_map, Prod.mk.injEq]
  constructor
  · rintro ⟨_, _, _, hp, rfl, rfl⟩
    exact hp
  · intro hp
    exact ⟨topic, index.mem_topics_of_mem_patterns hp, pattern, hp, rfl, rfl⟩

/-! ## Histories -/

/-- Of the rules that are added under a key, the last is found there, before any that was there. -/
theorem category?_foldl_insert (rules : List Category) (topic pattern : String) :
    (rules.foldl insert index).category? topic pattern =
      (rules.filter (·.key = (topic, pattern))).getLast?.or (index.category? topic pattern) := by
  induction rules using List.reverseRecOn with
  | nil => rfl
  | append_singleton rules c ih =>
      rw [List.foldl_append, List.foldl_cons, List.foldl_nil, category?_insert, ih, List.filter_append]
      by_cases h : (topic, pattern) = c.key
      · simp [← h]
      · simp [h, Ne.symm h]

theorem mem_topics_foldl_insert (rules : List Category) {topic : String} :
    topic ∈ (rules.foldl insert index).topics ↔ (∃ c ∈ rules, c.topic = topic) ∨ topic ∈ index.topics := by
  induction rules generalizing index with
  | nil => simp
  | cons c rules ih =>
      rw [List.foldl_cons, ih, mem_topics_insert, List.exists_mem_cons_iff, eq_comm (a := topic)]
      exact or_left_comm.trans or_assoc.symm

theorem mem_patterns_foldl_insert (rules : List Category) {topic pattern : String} :
    pattern ∈ (rules.foldl insert index).patterns topic ↔
      (∃ c ∈ rules, c.key = (topic, pattern)) ∨ pattern ∈ index.patterns topic := by
  induction rules generalizing index with
  | nil => simp
  | cons c rules ih =>
      rw [List.foldl_cons, ih, mem_patterns_insert, List.exists_mem_cons_iff, eq_comm (a := c.key)]
      exact or_left_comm.trans or_assoc.symm

/-- The index of rules that were added one after another. -/
def ofHistory (history : List Category) : Index :=
  history.foldl insert empty

theorem ofHistory_concat (history : List Category) (c : Category) :
    ofHistory (history ++ [c]) = (ofHistory history).insert c := by
  rw [ofHistory, List.foldl_append]
  rfl

theorem category?_ofHistory (history : List Category) (topic pattern : String) :
    (ofHistory history).category? topic pattern =
      (history.filter (·.key = (topic, pattern))).getLast? := by
  rw [ofHistory, category?_foldl_insert, category?_empty, Option.or_none]

theorem patterns_ofHistory (history : List Category) (topic : String) :
    (ofHistory history).patterns topic =
      ((history.filter (·.topic = topic)).map (·.pattern)).eraseDups := by
  induction history using List.reverseRecOn with
  | nil => exact patterns_empty topic
  | append_singleton history c ih =>
      rw [ofHistory_concat, patterns_insert, ih, List.filter_append, List.map_append]
      by_cases h : topic = c.topic
      · subst h
        have hc : [c].filter (·.topic = c.topic) = [c] := by simp
        rw [hc, List.map_singleton, eraseDups_concat]
        simp only [true_and, List.mem_eraseDups, ite_not]
      · simp [h, Ne.symm h]

theorem mem_topics_ofHistory (history : List Category) (topic : String) :
    topic ∈ (ofHistory history).topics ↔ ∃ c ∈ history, c.topic = topic := by
  rw [ofHistory, mem_topics_foldl_insert]
  simp [mem_topics, empty]

theorem mem_keys_ofHistory (history : List Category) (key : String × String) :
    key ∈ (ofHistory history).keys ↔ key ∈ history.map Category.key := by
  obtain ⟨topic, pattern⟩ := key
  rw [mem_keys, ofHistory, mem_patterns_foldl_insert, patterns_empty, List.mem_map]
  simp

theorem categoryCount_ofHistory (history : List Category) :
    (ofHistory history).categoryCount = (history.map Category.key).eraseDups.length := by
  rw [← length_keys]
  refine ((List.perm_ext_iff_of_nodup (nodup_keys _) (nodup_eraseDups _)).mpr ?_).length_eq
  intro key
  rw [mem_keys_ofHistory, List.mem_eraseDups]

/-- All that an index shows is determined by the rules that were added to it, in their order: of several
under a key the last, in each topic the different patterns by their first coming, the different topics in
their order, and how many there are. -/
theorem ofHistory_shows (history : List Category) :
    let index := ofHistory history
    (∀ topic pattern, index.category? topic pattern =
        (history.filter (·.key = (topic, pattern))).getLast?) ∧
      (∀ topic, index.patterns topic =
        ((history.filter (·.topic = topic)).map (·.pattern)).eraseDups) ∧
      (∀ topic, (index.patterns topic).Nodup) ∧
      index.topics.Pairwise (· < ·) ∧
      (∀ topic, topic ∈ index.topics ↔ ∃ c ∈ history, c.topic = topic) ∧
      index.topicCount = index.topics.length ∧
      index.categoryCount = (history.map Category.key).eraseDups.length ∧
      index.categoryCount = (index.topics.map fun topic => (index.patterns topic).length).sum ∧
      ∀ topic pattern, pattern ∈ index.patterns topic ↔
        ∃ c, index.category? topic pattern = some c ∧ c.topic = topic ∧ c.pattern = pattern := by
  intro index
  exact ⟨category?_ofHistory history, patterns_ofHistory history,
    fun topic => (index.shelf topic).distinct, index.sorted_topics, mem_topics_ofHistory history,
    index.topicCount_eq, categoryCount_ofHistory history, index.categoryCount_eq,
    index.mem_patterns_iff⟩

end Index

end Dialogue
