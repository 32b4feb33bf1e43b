import Mathlib.Data.List.Infix
import Dialogue.Console.Arguments

/-!
# Spellings of options

An option and its value are two arguments, or one with an equals sign between them. Both are read alike as
long as the value does not begin with the option and the equals sign itself: of an argument that holds both,
every copy of that beginning is taken away.
-/

namespace Dialogue.Console

/-- The arguments that have a meaning as a whole. -/
def reservedArguments : List String :=
  ["-h", "--help", "-V", "--version", "--color", "--no-color", "--trace", "-a"] ++
    ValueOption.all.map ValueOption.name

/-- Whether the argument after these is read as one of its own, and not as the value of an option. -/
def endsBeforeOption : List String → Bool
  | [] => true
  | argument :: rest =>
    match ValueOption.ofArgument? argument, rest with
    | some _, [] => false
    | some _, _ :: rest => endsBeforeOption rest
    | none, rest => endsBeforeOption rest

namespace ValueOption

/-- What an argument that holds the option and its value begins with. -/
def start (o : ValueOption) : List Char :=
  o.name.toList ++ ['=']

/-- The option and a value in one argument. -/
def joined (o : ValueOption) (value : String) : String :=
  o.name ++ "=" ++ value

/-- The value that is read from an argument that holds the option and a value. -/
def bareValue (o : ValueOption) (value : String) : String :=
  String.ofList (dropCopies o.start value.toList)

theorem toList_joined (o : ValueOption) (value : String) :
    (o.joined value).toList = o.start ++ value.toList := by
  rw [joined, start, String.toList_append, String.toList_append]
  rfl

end ValueOption

/-! ## Copies of a beginning -/

theorem dropCopies_append {start : List Char} (h : start ≠ []) (cs : List Char) :
    dropCopies start (start ++ cs) = dropCopies start cs := by
  have hprefix : start.isPrefixOf (start ++ cs) := List.isPrefixOf_iff_prefix.mpr (List.prefix_append start cs)
  rw [dropCopies, dif_pos ⟨h, hprefix⟩, List.drop_left]

theorem dropCopies_of_not_prefix {start cs : List Char} (h : ¬start <+: cs) : dropCopies start cs = cs := by
  rw [dropCopies, dif_neg]
  rintro ⟨-, hprefix⟩
  exact h (List.isPrefixOf_iff_prefix.mp hprefix)

/-! ## One argument -/

theorem not_mem_reservedArguments {argument : String} (h : '=' ∈ argument.toList) :
    argument ∉ reservedArguments := by
  have hreserved : ∀ word ∈ reservedArguments, '=' ∉ word.toList := by decide
  exact fun hmem => hreserved argument hmem h

namespace ValueOption

theorem ofArgument?_name (o : ValueOption) : ofArgument? o.name = some o := by
  cases o <;> decide

theorem ofArgument?_of_not_reserved {argument : String} (h : argument ∉ reservedArguments) :
    ofArgument? argument = none := by
  have hshort : argument ≠ "-a" := by
    rintro rfl
    exact h (by decide)
  rw [ofArgument?, if_neg hshort, List.find?_eq_none]
  rintro o ho hname
  exact h (List.mem_append_right _ (List.mem_map.mpr ⟨o, ho, beq_iff_eq.mp hname⟩))

theorem not_mem_reserved_joined (o : ValueOption) (value : String) :
    o.joined value ∉ reservedArguments := by
  refine not_mem_reservedArguments ?_
  rw [toList_joined, start]
  simp

theorem isPrefixOf_start (o o' : ValueOption) (cs : List Char) :
    o'.start.isPrefixOf (o.start ++ cs) = decide (o = o') := by
  cases o <;> cases o' <;> rfl

theorem joinedValue?_joined (o o' : ValueOption) (value : String) :
    joinedValue? o'.name (o.joined value) = if o = o' then some (o.bareValue value) else none := by
  have hstart : o.start ≠ [] := by simp [start]
  simp only [joinedValue?, toList_joined]
  rw [← start, isPrefixOf_start]
  by_cases ho : o = o'
  · subst ho
    simp only [decide_true, if_true, dropCopies_append hstart, bareValue]
  · simp only [ho, decide_false, Bool.false_eq_true, if_false]

theorem ofJoined?_joined (o : ValueOption) (value : String) :
    ofJoined? (o.joined value) = some (o, o.bareValue value) := by
  simp only [ofJoined?, all, List.findSome?_cons, joinedValue?_joined]
  cases o <;> rfl

end ValueOption

namespace Draft

variable (d : Draft)

theorem read_of_not_reserved {argument : String} (h : argument ∉ reservedArguments) (rest : List String) :
    d.read (argument :: rest) = d.single argument >>= fun d => d.read rest := by
  have hhelp : ¬(argument = "-h" ∨ argument = "--help") := by
    rintro (rfl | rfl) <;> exact h (by decide)
  have hversion : ¬(argument = "-V" ∨ argument = "--version") := by
    rintro (rfl | rfl) <;> exact h (by decide)
  rw [read.eq_4 d argument rest (ValueOption.ofArgument?_of_not_reserved h), if_neg hhelp, if_neg hversion]

/-- An argument that is neither reserved nor holds an option is a file, or a fault. -/
theorem single_of_not_reserved {argument : String} (h : argument ∉ reservedArguments) :
    d.single argument =
      match ValueOption.ofJoined? argument with
      | some (o, value) => d.set o value
      | none =>
        if argument.toList.head? = some '-' then .error (.unknownOption argument)
        else if d.file?.isSome then .error .severalFiles
        else .ok { d with file? := some argument } := by
  have hcolor : argument ≠ "--color" := by
    rintro rfl
    exact h (by decide)
  have hnoColor : argument ≠ "--no-color" := by
    rintro rfl
    exact h (by decide)
  have htrace : argument ≠ "--trace" := by
    rintro rfl
    exact h (by decide)
  have hsingle := single.eq_1 d argument
  rw [if_neg hcolor, if_neg hnoColor, if_neg htrace] at hsingle
  exact hsingle

theorem read_joined (o : ValueOption) (value : String) (rest : List String) :
    d.read (o.joined value :: rest) = d.set o (o.bareValue value) >>= fun d => d.read rest := by
  have hreserved := o.not_mem_reserved_joined value
  rw [d.read_of_not_reserved hreserved, d.single_of_not_reserved hreserved, o.ofJoined?_joined]

theorem read_apart {argument : String} {o : ValueOption} (h : ValueOption.ofArgument? argument = some o)
    (value : String) (rest : List String) :
    d.read (argument :: value :: rest) = d.set o value >>= fun d => d.read rest := by
  have hhelp : ¬(argument = "-h" ∨ argument = "--help") := by
    rintro (rfl | rfl) <;> exact absurd h (by cases o <;> decide)
  have hversion : ¬(argument = "-V" ∨ argument = "--version") := by
    rintro (rfl | rfl) <;> exact absurd h (by cases o <;> decide)
  rw [read.eq_3 d argument o value rest h, if_neg hhelp, if_neg hversion]

/-! ## Command lines -/

/-- What is read alike by every draft is read alike behind arguments that do not end in the middle of an
option and its value. -/
theorem read_append {before : List String} (h : endsBeforeOption before) {rest rest' : List String}
    (hrest : ∀ d : Draft, d.read rest = d.read rest') :
    d.read (before ++ rest) = d.read (before ++ rest') := by
  induction before using endsBeforeOption.induct generalizing d with
  | case1 => exact hrest d
  | case2 argument o ho =>
      rw [endsBeforeOption.eq_2 _ _ ho] at h
      cases h
  | case3 argument o value before ho ih =>
      rw [endsBeforeOption.eq_3 _ _ _ _ ho] at h
      simp only [List.cons_append, d.read_apart ho, ih _ h]
  | case4 argument before ho ih =>
      rw [endsBeforeOption.eq_4 _ _ ho] at h
      simp only [List.cons_append, read.eq_4 _ _ _ ho, ih _ h]

end Draft

/-- An option and a value in one argument give the option the value without any copies of what the argument
begins with, and then the rest is read. So behind any arguments that leave no option without its value, they
are read as the option and, as an argument of its own, that value; and the two spellings are read alike, to
the same request or the same fault, unless the value begins with the option and an equals sign. -/
theorem read_spellings (color : Bool) (o : ValueOption) (value : String) {before : List String}
    (hbefore : endsBeforeOption before) (after : List String) :
    (∀ d : Draft, d.read (o.joined value :: after) =
        d.set o (o.bareValue value) >>= fun d => d.read after) ∧
      Request.read color (before ++ o.joined value :: after) =
        Request.read color (before ++ o.name :: o.bareValue value :: after) ∧
      (¬o.start <+: value.toList →
        Request.read color (before ++ o.joined value :: after) =
          Request.read color (before ++ o.name :: value :: after)) := by
  have hread : Request.read color (before ++ o.joined value :: after) =
      Request.read color (before ++ o.name :: o.bareValue value :: after) := by
    refine Draft.read_append _ hbefore fun d => ?_
    rw [d.read_joined, d.read_apart o.ofArgument?_name]
  refine ⟨fun d => d.read_joined o value after, hread, fun hvalue => ?_⟩
  rw [hread, ValueOption.bareValue, dropCopies_of_not_prefix hvalue, String.ofList_toList]

/-- The first `--seed` is the value of `--topic`, the second is read as an option. -/
theorem read_spellings_seed :
    let before := ["--topic", "--seed"]
    (endsBeforeOption before ∧ ¬ValueOption.seed.start <+: "7".toList) ∧
      Request.read false (before ++ ["--seed=7", "rules.aiml"]) =
        Request.read false (before ++ ["--seed", "7", "rules.aiml"]) := by
  intro before
  have hbefore : endsBeforeOption before := by decide
  have hvalue : ¬ValueOption.seed.start <+: "7".toList := by decide
  exact ⟨⟨hbefore, hvalue⟩, (read_spellings false .seed "7" hbefore ["rules.aiml"]).2.2 hvalue⟩

/-- A value that begins with the option and an equals sign is not the same in both spellings. -/
theorem read_strips_copies :
    Request.read false ["--seed=--seed=1", "rules.aiml"] =
        .ok (.talk { file := "rules.aiml", seed? := some 1, topic? := none, trace := false, color := false }) ∧
      Request.read false ["--seed", "--seed=1", "rules.aiml"] = .error (.invalidSeed "--seed=1") := by
  have hvalue : ValueOption.seed.bareValue "--seed=1" = "1" := by
    have hcopy : "--seed=1".toList = ValueOption.seed.start ++ ['1'] := by decide
    have hrest : ¬ValueOption.seed.start <+: ['1'] := by decide
    rw [ValueOption.bareValue, hcopy, dropCopies_append (by decide), dropCopies_of_not_prefix hrest]
  constructor
  · have hread := Draft.read_joined { color := false } .seed "--seed=1" ["rules.aiml"]
    rw [hvalue] at hread
    refine Eq.trans hread ?_
    decide
  · decide

end Dialogue.Console
