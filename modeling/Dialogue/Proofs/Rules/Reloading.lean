import Mathlib.Data.List.Sort
import Dialogue.Proofs.Rules.History
import Dialogue.Proofs.Rules.Loading

/-!
# Loading a document again

A document loaded twice, one time after the other, leaves what it left the first time. On the second way
through the document an earlier rule of a pattern comes back for a while, until the last one is inserted
again; no pattern is new, so none moves.
-/

namespace Dialogue

namespace Index

/-- The indexes show the same: topics, patterns in their order, rules and counts. -/
structure Alike (a b : Index) : Prop where
  topics : a.topics = b.topics
  patterns (topic : String) : a.patterns topic = b.patterns topic
  category? (topic pattern : String) : a.category? topic pattern = b.category? topic pattern
  topicCount : a.topicCount = b.topicCount
  categoryCount : a.categoryCount = b.categoryCount

theorem Alike.of_shelves {a b : Index} (htopics : ∀ topic, topic ∈ a.topics ↔ topic ∈ b.topics)
    (hpatterns : ∀ topic, a.patterns topic = b.patterns topic)
    (hrules : ∀ topic pattern, a.category? topic pattern = b.category? topic pattern) : a.Alike b := by
  have hsame : a.topics = b.topics := a.sorted_topics.eq_of_mem_iff b.sorted_topics htopics
  refine ⟨hsame, hpatterns, hrules, ?_, ?_⟩
  · rw [topicCount_eq, topicCount_eq, hsame]
  · simp only [categoryCount_eq, hsame, hpatterns]

variable (index : Index)

/-- Rules whose patterns are all there move nothing. -/
theorem patterns_foldl_insert_of_mem {rules : List Category}
    (h : ∀ c ∈ rules, c.pattern ∈ index.patterns c.topic) (topic : String) :
    (rules.foldl insert index).patterns topic = index.patterns topic := by
  induction rules generalizing index with
  | nil => rfl
  | cons c rules ih =>
      obtain ⟨hc, hrules⟩ := List.forall_mem_cons.mp h
      have hthere : ∀ d ∈ rules, d.pattern ∈ (index.insert c).patterns d.topic := fun d hd =>
        (index.mem_patterns_insert c).mpr (.inr (hrules d hd))
      rw [List.foldl_cons, ih _ hthere, patterns_insert, if_neg]
      rintro ⟨rfl, hn⟩
      exact hn hc

theorem alike_foldl_insert_again (rules : List Category) :
    (rules.foldl insert (rules.foldl insert index)).Alike (rules.foldl insert index) := by
  refine .of_shelves (fun topic => ?_) ?_ (fun topic pattern => ?_)
  · rw [mem_topics_foldl_insert, mem_topics_foldl_insert, ← or_assoc, or_self]
  · refine patterns_foldl_insert_of_mem _ fun c hc => ?_
    exact (index.mem_patterns_foldl_insert rules).mpr (.inl ⟨c, hc, rfl⟩)
  · -- In between an earlier rule may be back, but the last one of the key decides.
    rw [category?_foldl_insert, category?_foldl_insert, ← Option.or_assoc, Option.or_self]

/-- What a source gives, and the rules that it inserts, do not depend on the index. -/
theorem exists_load_eq (defaultTopic source : String) :
    ∃ (result : Except Error Nat) (rules : List Category), ∀ index : Index,
      index.load defaultTopic source = (result, rules.foldl insert index) := by
  cases hentries : entries defaultTopic source with
  | error e => exact ⟨.error e, [], fun index => by rw [load, hentries]; rfl⟩
  | ok es =>
      obtain ⟨rules, rfl | ⟨e, rest, rfl⟩⟩ := exists_rules es
      · exact ⟨.ok (0 + rules.length), rules, fun index => by rw [load, hentries]; exact insertAll_ok ..⟩
      · exact ⟨.error e, rules, fun index => by rw [load, hentries]; exact insertAll_error ..⟩

/-- A source that is loaded again right after it was loaded gives the same number or the same fault, and
leaves an index that shows the same, whatever was in the index before, wherever the source fails and
however often it has a pattern. -/
theorem load_again (defaultTopic source : String) :
    let first := index.load defaultTopic source
    let second := first.2.load defaultTopic source
    second.1 = first.1 ∧ second.2.Alike first.2 := by
  intro first second
  obtain ⟨result, rules, hload⟩ := exists_load_eq defaultTopic source
  have hfirst : first = (result, rules.foldl insert index) := hload index
  have hsecond : second = (result, rules.foldl insert first.2) := hload first.2
  rw [hsecond, hfirst]
  exact ⟨rfl, index.alike_foldl_insert_again rules⟩

end Index

end Dialogue
