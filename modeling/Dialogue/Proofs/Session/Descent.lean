import Dialogue.Proofs.Session.Cutoff

/-!
# Rules that refer downwards

A rule refers to what the `<srai>` elements in its response ask for. If the rules of the default topic
have ranks and refer only to rules of lower rank, then no more rules are entered inside each other than
the rank of the first one says, and one level more for a text that no rule has. So a limit above the rank
is never exceeded, however many references stand side by side.
-/

namespace Dialogue

open Markup (Node Element)

/-- What the `<srai>` elements of a task ask for, wherever they stand in it. -/
def Task.AsksFor (task : Task) (target : String) : Prop :=
  ∃ e ∈ task.elements, e.name = "srai" ∧ sraiTarget e.children = target

section
variable {σ : Type} [RuleStore σ] (store : σ) (options : Options) (rank : String → Nat)

/-- Whatever a rule of the default topic asks for has a lower rank than its pattern, unless no rule of this
topic has it. -/
def RuleStore.Descends : Prop :=
  ∀ pattern rule target, RuleStore.category? store options.defaultTopic pattern = some rule →
    (Task.rule (some rule.node)).AsksFor target →
      (RuleStore.category? store options.defaultTopic target).isSome → rank target < rank pattern

/-- Whatever the task asks for inside `depth` rules, the limit leaves room to look for it, and
for as many rules more as the rank of a rule says that is found. -/
def Task.HasRoom (depth : Nat) (task : Task) : Prop :=
  ∀ target, task.AsksFor target → depth < options.maxSraiDepth ∧
    ((RuleStore.category? store options.defaultTopic target).isSome →
      depth + 1 + rank target < options.maxSraiDepth)

end

/-! ## Room for the parts of a task -/

namespace Task

variable {σ : Type} [RuleStore σ] {store : σ} {options : Options} {rank : String → Nat} {depth : Nat}

theorem HasRoom.part {task part : Task} (h : task.HasRoom store options rank depth)
    (hpart : part.elements ⊆ task.elements) : part.HasRoom store options rank depth := by
  rintro target ⟨e, he, hname, htarget⟩
  exact h target ⟨e, hpart he, hname, htarget⟩

/-- A rule refers downwards, so it has the room that its rank says. -/
theorem HasRoom.of_rule (hdown : RuleStore.Descends store options rank) {pattern : String}
    {rule : Category} (hrule : RuleStore.category? store options.defaultTopic pattern = some rule)
    (hroom : depth + rank pattern < options.maxSraiDepth) :
    (Task.rule (some rule.node)).HasRoom store options rank depth := by
  intro target htarget
  refine ⟨by omega, fun hstored => ?_⟩
  have hlower : rank target < rank pattern := hdown pattern rule target hrule htarget hstored
  omega

end Task

/-! ## Courses with room -/

theorem map_ne_error {r : Except Error String} {e : Error} (f : String → String) (h : r ≠ .error e) :
    r.map f ≠ .error e := by
  cases r with
  | ok text => exact nofun
  | error e' => exact fun he => h (congrArg Except.error (Except.error.inj he))

section
variable {σ : Type} [RuleStore σ] {store : σ} {options : Options} {rank : String → Nat} {depth : Nat}
  {task : Task} {s s' : Scene} {r : Except Error String} {w : List (String × String)}

/-- A course with room for its task never comes to the limit. -/
theorem Course.ne_tooDeep (hdown : RuleStore.Descends store options rank)
    (h : Course store options depth task s r s' w) (hroom : task.HasRoom store options rank depth)
    (reached most : Nat) : r ≠ .error (.tooDeep reached most) := by
  induction h with
  | nil => exact nofun
  | cons _ _ _ ih => exact map_ne_error _ (ih (hroom.part Task.tail_subset))
  | consFault _ ih => exact ih (hroom.part Task.head_subset)
  | text => exact nofun
  | template _ ih => exact ih (hroom.part Task.children_subset)
  | @random _ _ _ items s =>
      cases items with
      | nil => exact nofun
      | cons item items => exact nofun
  | think _ ih => exact map_ne_error _ (ih (hroom.part Task.children_subset))
  | set => exact nofun
  | setFault _ ih => exact ih (hroom.part Task.children_subset)
  | setUnnamed => exact nofun
  | @sraiTooDeep depth attributes children s hlimit =>
      have hasks := hroom (sraiTarget children) ⟨_, List.mem_cons_self, rfl, rfl⟩
      omega
  | sraiUnknown => exact nofun
  | @srai depth attributes children rule _ _ _ _ _ hrule _ ih =>
      -- The rule is entered one level deeper, where the room for its rank is left.
      have hasks := hroom (sraiTarget children) ⟨_, List.mem_cons_self, rfl, rfl⟩
      exact ih (.of_rule hdown hrule (hasks.2 (hrule ▸ rfl)))
  | unknown => exact nofun
  | noRule => exact nofun
  | noTemplate => exact nofun
  | rule ht _ ih => exact map_ne_error _ (ih (hroom.part (Task.response_subset ht)))

end

namespace Interpreter

variable {σ : Type} [RuleStore σ]

/-- Rules of the default topic that refer downwards are rendered without coming to the limit, if their rank
is below it. -/
theorem perform_descends (bot : Interpreter σ) {rank : String → Nat}
    (hdown : RuleStore.Descends bot.index bot.options rank) {pattern : String} {rule : Category}
    (hrule : RuleStore.category? bot.index bot.options.defaultTopic pattern = some rule)
    (hlimit : rank pattern < bot.options.maxSraiDepth) {call : Call}
    (hcall : bot.task call = .rule (some rule.node)) (predicates : Predicates) (depth most : Nat) :
    (bot.perform predicates call).result ≠ .error (.tooDeep depth most) := by
  have hrenders : call.onlyMatches = false := by
    cases call with
    | matchPattern | explain => cases hcall
    | _ => rfl
  have hcourse := bot.course_of_perform predicates hrenders
  rw [hcall] at hcourse
  have hroom : (Task.rule (some rule.node)).HasRoom bot.index bot.options rank 0 :=
    .of_rule hdown hrule ((Nat.zero_add _).symm ▸ hlimit)
  rw [ne_eq, bot.perform_tooDeep_iff predicates hrenders]
  exact hcourse.ne_tooDeep hdown hroom depth most

/-- A rule asks twice for another one, which asks for a text that no rule has: two levels in all. -/
theorem perform_descends_twice :
    let ask (target : String) : Node := .element "srai" [] [.text target]
    let greet := Category.ofTemplate "default" "GREET"
      { name := "template", children := [ask "HI", ask "HI"] }
    let hi := Category.ofTemplate "default" "HI" { name := "template", children := [ask "NOTHING"] }
    let index := (Index.empty.insert greet).insert hi
    let bot : Interpreter := { index, options := { maxSraiDepth := 2 } }
    let rank (pattern : String) : Nat := if pattern = "GREET" then 1 else 0
    let call : Call := .renderPattern "GREET" "default" ""
    (RuleStore.Descends bot.index bot.options rank ∧
        RuleStore.category? bot.index bot.options.defaultTopic "GREET" = some greet ∧
        rank "GREET" < bot.options.maxSraiDepth ∧ bot.task call = .rule (some greet.node)) ∧
      ∀ depth most, (bot.perform .empty call).result ≠ .error (.tooDeep depth most) := by
  intro ask greet hi index bot rank call
  have hcategory (pattern : String) : RuleStore.category? index "default" pattern =
      if pattern = "HI" then some hi else if pattern = "GREET" then some greet else none := by
    show Index.category? index "default" pattern = _
    simp only [index, Index.category?_insert, Index.category?_empty, Category.key, greet, hi,
      Category.ofTemplate, Prod.mk.injEq, true_and]
  have hgreet : RuleStore.category? index "default" "GREET" = some greet := by
    rw [hcategory]
    rfl
  have hdown : RuleStore.Descends index bot.options rank := by
    have hasks : ∀ e ∈ (Task.rule (some greet.node)).elements,
        e.name = "srai" → sraiTarget e.children = "HI" := by decide
    have hasksNothing : ∀ e ∈ (Task.rule (some hi.node)).elements,
        e.name = "srai" → sraiTarget e.children = "NOTHING" := by decide
    rintro pattern rule target hrule ⟨e, he, hname, rfl⟩ hstored
    replace hrule : RuleStore.category? index "default" pattern = some rule := hrule
    rw [hcategory] at hrule
    split at hrule
    · cases hrule
      rw [hasksNothing e he hname] at hstored
      replace hstored : (RuleStore.category? index "default" "NOTHING").isSome := hstored
      rw [hcategory] at hstored
      cases hstored
    · split at hrule
      · next hpattern =>
          cases hrule
          rw [hasks e he hname, hpattern]
          decide
      · cases hrule
  have htask : bot.task call = .rule (some greet.node) := by
    have hrule : (RuleStore.category? index "default" "GREET" <|>
        RuleStore.category? index "default" catchAll).map (·.node) = some greet.node := by
      rw [hgreet]
      rfl
    exact congrArg Task.rule hrule
  exact ⟨⟨hdown, hgreet, by decide, htask⟩,
    bot.perform_descends hdown hgreet (by decide) htask .empty⟩

end Interpreter

end Dialogue
