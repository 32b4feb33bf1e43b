import Dialogue.Rules.Loading

/-!
# Loading item by item

The items of a document are its categories and the categories directly in its topics, in document order;
a topic without a name is an item that fails. Loading inserts the rules of the items one after another
and stops at the first item that fails, with the fault of that item.
-/

namespace Dialogue

open Markup (Element)

/-! ## Items of a document -/

/-- A place in a document where a rule is expected. -/
inductive Item where
  /-- A category element, in a topic. -/
  | category (topic : String) (e : Element)
  | unnamedTopic

namespace Item

/-- The rule of an item, or the fault in its place. -/
def read : Item → Except Error Category
  | .category topic e => Category.read topic e
  | .unnamedTopic => .error (.source (.malformed .unnamedTopic))

/-- The items of a topic element: the categories directly in it. -/
def ofTopic (e : Element) : List Item :=
  match e.attribute? "name" with
  | some name => (e.elementsNamed "category").map (.category name)
  | none => [.unnamedTopic]

/-- The items of a document, in document order. -/
def ofRoot (defaultTopic : String) (root : Element) : List Item :=
  root.elements.flatMap fun e =>
    if e.name = "category" then [.category defaultTopic e]
    else if e.name = "topic" then ofTopic e
    else []

/-- The rules of a document, in document order. -/
def rules (defaultTopic : String) (root : Element) : List Category :=
  (ofRoot defaultTopic root).filterMap fun item => item.read.toOption

theorem rules_eq {defaultTopic : String} {root : Element} {rules : List Category}
    (h : (ofRoot defaultTopic root).map read = rules.map .ok) : Item.rules defaultTopic root = rules := by
  have hmap := congrArg (List.filterMap Except.toOption) h
  rw [List.filterMap_map, List.filterMap_map] at hmap
  exact hmap.trans (List.filterMap_some)

theorem mem_rules {defaultTopic : String} {root : Element} {c : Category} :
    c ∈ Item.rules defaultTopic root ↔ ∃ item ∈ ofRoot defaultTopic root, item.read = .ok c := by
  rw [Item.rules, List.mem_filterMap]
  refine exists_congr fun item => and_congr_right fun _ => ?_
  cases item.read <;> simp [Except.toOption]

/-- The entries of a document are what its items give. -/
theorem flatMap_entriesOf (defaultTopic : String) (root : Element) :
    root.elements.flatMap (entriesOf defaultTopic) = (ofRoot defaultTopic root).map read := by
  have hchild : ∀ e : Element, entriesOf defaultTopic e =
      (if e.name = "category" then [.category defaultTopic e]
        else if e.name = "topic" then ofTopic e else [] : List Item).map read := by
    intro e
    rw [entriesOf]
    split
    · rfl
    · split
      · rw [ofTopic]
        cases e.attribute? "name" with
        | none => rfl
        | some name => simp only [List.map_map, Function.comp_def, read]
      · rfl
  rw [ofRoot, List.map_flatMap]
  exact congrArg root.elements.flatMap (funext hchild)

theorem entries_of_parse {defaultTopic source : String} {root : Element}
    (hparse : Markup.parse source = .ok root) (hname : root.name = "aiml") :
    entries defaultTopic source = .ok ((ofRoot defaultTopic root).map read) := by
  rw [entries, hparse, ← flatMap_entriesOf]
  exact if_pos hname

theorem mem_ofTopic (topic : String) (e t : Element) :
    .category topic e ∈ ofTopic t ↔
      t.attribute? "name" = some topic ∧ e ∈ t.elementsNamed "category" := by
  rw [ofTopic]
  cases t.attribute? "name" with
  | none => simp
  | some name =>
      simp only [List.mem_map, Item.category.injEq, Option.some.injEq]
      constructor
      · rintro ⟨_, he, rfl, rfl⟩
        exact ⟨rfl, he⟩
      · rintro ⟨rfl, he⟩
        exact ⟨e, he, rfl, rfl⟩

/-- A category is an item if it stands in the root, or directly in a topic there that has a name. -/
theorem mem_ofRoot (defaultTopic topic : String) (e root : Element) :
    .category topic e ∈ ofRoot defaultTopic root ↔
      (topic = defaultTopic ∧ e ∈ root.elementsNamed "category") ∨
        ∃ t ∈ root.elementsNamed "topic",
          t.attribute? "name" = some topic ∧ e ∈ t.elementsNamed "category" := by
  rw [ofRoot, List.mem_flatMap]
  constructor
  · rintro ⟨x, hx, h⟩
    split at h
    · rename_i hc
      obtain ⟨rfl, rfl⟩ := Item.category.inj (List.mem_singleton.mp h)
      exact .inl ⟨rfl, List.mem_filter.mpr ⟨hx, beq_iff_eq.mpr hc⟩⟩
    · split at h
      · rename_i ht
        exact .inr ⟨x, List.mem_filter.mpr ⟨hx, beq_iff_eq.mpr ht⟩, (mem_ofTopic topic e x).mp h⟩
      · cases h
  · rintro (⟨rfl, he⟩ | ⟨t, ht, h⟩)
    · obtain ⟨he, hc⟩ := List.mem_filter.mp he
      refine ⟨e, he, ?_⟩
      rw [if_pos (beq_iff_eq.mp hc)]
      exact List.mem_singleton.mpr rfl
    · obtain ⟨hr, hn⟩ := List.mem_filter.mp ht
      refine ⟨t, hr, ?_⟩
      rw [beq_iff_eq.mp hn, if_neg (by decide), if_pos rfl]
      exact (mem_ofTopic topic e t).mpr h

end Item

/-! ## The rule of a category -/

theorem Category.read_eq_ok_iff (topic : String) (e : Element) (c : Category) :
    Category.read topic e = .ok c ↔
      ∃ p t, e.firstNamed? "pattern" = some p ∧ e.firstNamed? "template" = some t ∧
        c = { topic := ((e.firstNamed? "topic").map trimmedText).getD topic
              pattern := trimmedText p
              that := ((e.firstNamed? "that").map trimmedText).getD ""
              node := e } := by
  rw [Category.read]
  cases e.firstNamed? "pattern" with
  | none => simp
  | some p =>
      cases e.firstNamed? "template" with
      | none => simp
      | some t => simp [eq_comm]

/-- A rule of a document has the text of its first pattern. -/
theorem Item.pattern_of_mem_rules {defaultTopic : String} {root p : Element} {c : Category}
    (h : c ∈ Item.rules defaultTopic root) (hp : c.node.firstNamed? "pattern" = some p) :
    c.pattern = trimmedText p := by
  obtain ⟨item, _, hread⟩ := Item.mem_rules.mp h
  cases item with
  | unnamedTopic => cases hread
  | category topic e =>
      obtain ⟨p', t, hp', _, rfl⟩ := (Category.read_eq_ok_iff topic e c).mp hread
      rw [Option.some.inj (hp.symm.trans hp')]

theorem Markup.Element.exists_firstNamed?_iff (e : Element) (name : String) :
    (∃ child, e.firstNamed? name = some child) ↔ ∃ child ∈ e.elements, child.name = name := by
  rw [Element.firstNamed?, ← Option.isSome_iff_exists, List.find?_isSome]
  simp only [beq_iff_eq]

/-! ## Insertion up to the first fault -/

namespace Index

theorem insertAll_ok (index : Index) (count : Nat) (rules : List Category) :
    index.insertAll count (rules.map .ok) = (.ok (count + rules.length), rules.foldl insert index) := by
  induction rules generalizing index count with
  | nil => rfl
  | cons c rules ih =>
      rw [List.map_cons, insertAll, ih, List.length_cons, List.foldl_cons, Nat.add_right_comm,
        Nat.add_assoc]

theorem insertAll_error (index : Index) (count : Nat) (rules : List Category) (e : Error)
    (rest : List (Except Error Category)) :
    index.insertAll count (rules.map .ok ++ .error e :: rest) =
      (.error e, rules.foldl insert index) := by
  induction rules generalizing index count with
  | nil => rfl
  | cons c rules ih => exact ih (index.insert c) (count + 1)

theorem load_of_entries (index : Index) {defaultTopic source : String} {rules : List Category}
    (h : entries defaultTopic source = .ok (rules.map .ok)) :
    index.load defaultTopic source = (.ok rules.length, rules.foldl insert index) := by
  have hload : index.load defaultTopic source = index.insertAll 0 (rules.map .ok) := by
    rw [load, h]
  rw [hload, insertAll_ok, Nat.zero_add]

/-- A list of entries begins with rules, which are all of it or stand before a fault. -/
theorem exists_rules (entries : List (Except Error Category)) :
    ∃ rules : List Category, entries = rules.map .ok ∨
      ∃ e rest, entries = rules.map .ok ++ .error e :: rest := by
  induction entries with
  | nil => exact ⟨[], .inl rfl⟩
  | cons entry entries ih =>
      cases entry with
      | error e => exact ⟨[], .inr ⟨e, entries, rfl⟩⟩
      | ok c =>
          obtain ⟨rules, rfl | ⟨e, rest, rfl⟩⟩ := ih
          · exact ⟨c :: rules, .inl rfl⟩
          · exact ⟨c :: rules, .inr ⟨e, rest, rfl⟩⟩

/-- Loading a document inserts the rules before the first fault and answers the fault, or inserts all
rules and answers their number. -/
theorem load_items (index : Index) {defaultTopic source : String} {root : Element}
    (hparse : Markup.parse source = .ok root) (hname : root.name = "aiml") :
    let items := Item.ofRoot defaultTopic root
    ∃ rules : List Category,
      (items.map Item.read = rules.map .ok ∧
        index.load defaultTopic source = (.ok items.length, rules.foldl insert index)) ∨
      ∃ fault rest, items.map Item.read = rules.map .ok ++ .error fault :: rest ∧
        index.load defaultTopic source = (.error fault, rules.foldl insert index) := by
  intro items
  have hload : index.load defaultTopic source = index.insertAll 0 (items.map Item.read) := by
    rw [load, Item.entries_of_parse hparse hname]
  obtain ⟨rules, hrules | ⟨fault, rest, hrules⟩⟩ := exists_rules (items.map Item.read)
  · have hlength : items.length = rules.length := by
      simpa using congrArg List.length hrules
    refine ⟨rules, .inl ⟨hrules, ?_⟩⟩
    rw [hload, hrules, insertAll_ok, hlength, Nat.zero_add]
  · refine ⟨rules, .inr ⟨fault, rest, hrules, ?_⟩⟩
    rw [hload, hrules, insertAll_error]

/-- What is left behind when a document is loaded to its end. -/
theorem load_ok {index index' : Index} {defaultTopic source : String} {root : Element} {n : Nat}
    (hparse : Markup.parse source = .ok root)
    (hload : index.load defaultTopic source = (.ok n, index')) :
    index' = (Item.rules defaultTopic root).foldl insert index := by
  by_cases hname : root.name = "aiml"
  · obtain ⟨rules, ⟨hrules, hl⟩ | ⟨fault, rest, _, hl⟩⟩ := index.load_items hparse hname
    · rw [Item.rules_eq hrules]
      exact (Prod.mk.inj (hload.symm.trans hl)).2
    · cases hload.symm.trans hl
  · simp only [load, entries, hparse, if_neg hname] at hload
    cases hload

/-- A source that is no document of rules is refused and changes nothing. Of a document, loading inserts
the rules of the items in order: of all items, and answers how many they are, or of those before the first
item that fails, and answers the fault of that item. An item that is a category gives a rule exactly if it
has a pattern and a template. -/
theorem load_inserts_items (index : Index) (defaultTopic source : String) :
    (match Markup.parse source with
      | .error fault => index.load defaultTopic source = (.error (.source fault), index)
      | .ok root =>
          let items := Item.ofRoot defaultTopic root
          if root.name = "aiml" then
            ∃ rules : List Category,
              (items.map Item.read = rules.map .ok ∧
                index.load defaultTopic source = (.ok items.length, rules.foldl insert index)) ∨
              ∃ fault rest, items.map Item.read = rules.map .ok ++ .error fault :: rest ∧
                index.load defaultTopic source = (.error fault, rules.foldl insert index)
          else
            index.load defaultTopic source =
              (.error (.source (.malformed (.wrongRoot root.name))), index)) ∧
      (∀ root topic e, .category topic e ∈ Item.ofRoot defaultTopic root ↔
        (topic = defaultTopic ∧ e ∈ root.elementsNamed "category") ∨
          ∃ t ∈ root.elementsNamed "topic",
            t.attribute? "name" = some topic ∧ e ∈ t.elementsNamed "category") ∧
      (∀ topic e, (∃ c, (Item.category topic e).read = .ok c) ↔
        (∃ p ∈ e.elements, p.name = "pattern") ∧ ∃ t ∈ e.elements, t.name = "template") ∧
      ∀ topic e c, (Item.category topic e).read = .ok c ↔
        ∃ p t, e.firstNamed? "pattern" = some p ∧ e.firstNamed? "template" = some t ∧
          c = { topic := ((e.firstNamed? "topic").map trimmedText).getD topic
                pattern := trimmedText p
                that := ((e.firstNamed? "that").map trimmedText).getD ""
                node := e } := by
  refine ⟨?_, fun root topic e => Item.mem_ofRoot defaultTopic topic e root, ?_, Category.read_eq_ok_iff⟩
  · cases hparse : Markup.parse source with
    | error fault =>
        simp only [load, entries, hparse]
    | ok root =>
        show if root.name = "aiml" then _ else _
        split
        · rename_i hname
          exact index.load_items hparse hname
        · rename_i hname
          simp only [load, entries, hparse, if_neg hname]
  · intro topic e
    rw [← Element.exists_firstNamed?_iff, ← Element.exists_firstNamed?_iff]
    simp only [Item.read, Category.read_eq_ok_iff]
    constructor
    · rintro ⟨_, p, t, hp, ht, _⟩
      exact ⟨⟨p, hp⟩, ⟨t, ht⟩⟩
    · rintro ⟨⟨p, hp⟩, ⟨t, ht⟩⟩
      exact ⟨_, p, t, hp, ht, rfl⟩

end Index

end Dialogue
