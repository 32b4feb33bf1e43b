import Dialogue.Markup.Tree
import Dialogue.Pattern.Wildcard
import Std.Data.HashMap

/-!
Rules of dialogue and indexes of them. The rules of a topic stand on one shelf, which finds them by their
patterns and keeps the order in which the patterns first came.
-/
namespace Dialogue

/-- A rule: the topic and pattern it is found under, the answer it follows, and
its whole element. -/
structure Category where
  topic : String
  pattern : String
  that : String
  node : Markup.Element
deriving DecidableEq, Repr

namespace Category

/-- What a rule is found under. -/
def key (c : Category) : String × String :=
  (c.topic, c.pattern)

/-- The response to render: of several, the last. -/
def template? (node : Markup.Element) : Option Markup.Element :=
  (node.elementsNamed "template").getLast?

/-- A rule around a bare response. -/
def ofTemplate (topic pattern : String) (template : Markup.Element) : Category :=
  { topic, pattern, that := "", node := { name := "category", children := [template.toNode] } }

def wildcards (c : Category) : WildcardSet :=
  .ofPattern c.pattern

end Category

/-! ## Indexes -/

/-- The rules of one topic. -/
structure Shelf where
  order : List String := []
  rules : Std.HashMap String Category := {}
  distinct : order.Nodup := by decide
  inStep (pattern : String) : pattern ∈ order ↔ pattern ∈ rules := by simp

namespace Shelf

/-- The patterns in order after a rule came under `pattern`. -/
def orderWith (s : Shelf) (pattern : String) : List String :=
  if pattern ∈ s.rules then s.order else s.order ++ [pattern]

theorem nodup_orderWith (s : Shelf) (pattern : String) : (s.orderWith pattern).Nodup := by
  unfold orderWith
  split
  · exact s.distinct
  · rename_i hn
    refine List.nodup_append.2 ⟨s.distinct, by simp, ?_⟩
    rintro p hp q hq rfl
    exact hn ((s.inStep _).1 (List.mem_singleton.1 hq ▸ hp))

theorem mem_orderWith (s : Shelf) (pattern p : String) :
    p ∈ s.orderWith pattern ↔ pattern = p ∨ p ∈ s.rules := by
  unfold orderWith
  split
  · rename_i h
    rw [s.inStep]
    exact ⟨.inr, fun hp => hp.elim (· ▸ h) id⟩
  · rw [List.mem_append, s.inStep, List.mem_singleton, or_comm, eq_comm]

/-- Puts a rule under its pattern. One that was there gives up its place to it. -/
def insert (s : Shelf) (c : Category) : Shelf where
  order := s.orderWith c.pattern
  rules := s.rules.insert c.pattern c
  distinct := s.nodup_orderWith c.pattern
  inStep p := by rw [s.mem_orderWith, Std.HashMap.mem_insert, beq_iff_eq]

end Shelf

/-- Shelves by topic, on which every rule stands under its own topic and pattern. -/
structure Index where
  shelves : Std.HashMap String Shelf := {}
  filed (topic pattern : String) (c : Category) :
    (shelves.getD topic {}).rules[pattern]? = some c → c.key = (topic, pattern) := by simp

namespace Index

def empty : Index := {}

/-- The shelf of a topic, or one to begin it with. -/
def shelf (index : Index) (topic : String) : Shelf :=
  index.shelves.getD topic {}

/-- The rule under a topic and a pattern. -/
def category? (index : Index) (topic pattern : String) : Option Category :=
  (index.shelf topic).rules[pattern]?

/-- The patterns of a topic. -/
def patterns (index : Index) (topic : String) : List String :=
  (index.shelf topic).order

@[simp] theorem category?_empty (topic pattern : String) : empty.category? topic pattern = none := by
  simp [category?, shelf, empty]

@[simp] theorem patterns_empty (topic : String) : empty.patterns topic = [] := by
  simp [patterns, shelf, empty]

/-- The topics, sorted. -/
def topics (index : Index) : List String :=
  index.shelves.keys.mergeSort fun a b => !decide (b < a)

def topicCount (index : Index) : Nat :=
  index.shelves.size

def categoryCount (index : Index) : Nat :=
  index.shelves.fold (fun count _ shelf => count + shelf.rules.size) 0

/-- Adds a rule on the shelf of its topic. -/
def insert (index : Index) (c : Category) : Index where
  shelves := index.shelves.insert c.topic ((index.shelf c.topic).insert c)
  filed topic pattern d h := by
    rw [Std.HashMap.getD_insert] at h
    split at h
    · rename_i ht
      rw [Shelf.insert, Std.HashMap.getElem?_insert] at h
      split at h
      · rename_i hp
        rw [← Option.some.inj h, Category.key, eq_of_beq ht, eq_of_beq hp]
      · exact eq_of_beq ht ▸ index.filed c.topic pattern d h
    · exact index.filed topic pattern d h

theorem shelf_insert (index : Index) (c : Category) (topic : String) :
    (index.insert c).shelf topic =
      if topic = c.topic then (index.shelf topic).insert c else index.shelf topic := by
  simp only [shelf, insert, Std.HashMap.getD_insert, beq_iff_eq]
  by_cases h : topic = c.topic
  · rw [if_pos h.symm, if_pos h, h]
  · rw [if_neg (Ne.symm h), if_neg h]

theorem category?_insert (index : Index) (c : Category) (topic pattern : String) :
    (index.insert c).category? topic pattern =
      if (topic, pattern) = c.key then some c else index.category? topic pattern := by
  simp only [category?, shelf_insert, Category.key, Prod.mk.injEq]
  by_cases ht : topic = c.topic
  · rw [if_pos ht, Shelf.insert, Std.HashMap.getElem?_insert]
    simp only [ht, true_and, beq_iff_eq, eq_comm (a := c.pattern)]
  · rw [if_neg ht, if_neg fun h => ht h.1]

/-- A new pattern comes last in its topic; nothing else moves. -/
theorem patterns_insert (index : Index) (c : Category) (topic : String) :
    (index.insert c).patterns topic =
      if topic = c.topic ∧ c.pattern ∉ index.patterns topic then index.patterns topic ++ [c.pattern]
      else index.patterns topic := by
  simp only [patterns, shelf_insert, (index.shelf topic).inStep]
  by_cases ht : topic = c.topic
  · simp only [if_pos ht, Shelf.insert, Shelf.orderWith]
    by_cases hp : c.pattern ∈ (index.shelf topic).rules
    · rw [if_pos hp, if_neg fun h => h.2 hp]
    · rw [if_neg hp, if_pos ⟨ht, hp⟩]
  · rw [if_neg ht, if_neg fun h => ht h.1]

/-- The patterns of a topic are those that have a rule there, each under its own key. -/
theorem mem_patterns_iff (index : Index) (topic pattern : String) :
    pattern ∈ index.patterns topic ↔
      ∃ c, index.category? topic pattern = some c ∧ c.topic = topic ∧ c.pattern = pattern := by
  rw [patterns, (index.shelf topic).inStep, ← Std.HashMap.isSome_getElem?_iff_mem,
    Option.isSome_iff_exists]
  refine exists_congr fun c => ⟨fun h => ⟨h, ?_⟩, And.left⟩
  exact Prod.mk.inj (index.filed topic pattern c h)

end Index

/-- A collection of rules; nothing ties its patterns to the rules that it has. -/
class RuleStore (σ : Type) where
  /-- The patterns of a topic, in the order in which they are tried. -/
  patterns : σ → String → List String
  /-- The rule under a topic and a pattern. -/
  category? : σ → String → String → Option Category

instance : RuleStore Index where
  patterns := Index.patterns
  category? := Index.category?

end Dialogue
