import Mathlib.Data.List.Perm.Basic
import Dialogue.Proofs.Console.Spelling

/-!
# The order of arguments

A command line is read group by group: a switch, an option with its value, or a file. What a group settles is
put into a draft, and most settings can be put there in any order. The exception is the file of rules, which a
file by itself and an option both name: a file is refused if one has been named before, an option is not.
-/

namespace Dialogue.Console

/-- What one part of a command line settles. -/
inductive Setting where
  | trace
  | color (on : Bool)
  | option (o : ValueOption) (value : String)
  | file (name : String)
deriving DecidableEq, Repr

/-- What a setting is about. -/
inductive Setting.Kind where
  | trace
  | color
  | option (o : ValueOption)
  | file
deriving DecidableEq, Repr

/-- A part of a command line that is read as a whole: a switch, an option with its value, or a file. -/
inductive Group where
  | trace
  | color (on : Bool)
  | apart (o : ValueOption) (value : String)
  | short (value : String)
  | joined (o : ValueOption) (value : String)
  | file (name : String) (noOption : name.toList.head? ≠ some '-')
deriving DecidableEq, Repr

namespace Setting

/-- The kind of a setting, without its value. -/
def kind : Setting → Kind
  | .trace => .trace
  | .color _ => .color
  | .option o _ => .option o
  | .file _ => .file

/-- Whether the setting names the file of rules. -/
def names (s : Setting) : Bool :=
  s.kind = .option .aiml || s.kind = .file

/-- A seed may not be a number; all other values can be read. -/
def isReadable : Setting → Bool
  | .option .seed value => (parseSeed? value).isSome
  | _ => true

end Setting

namespace Group

/-- The arguments that a group is spelled with. -/
def arguments : Group → List String
  | .trace => ["--trace"]
  | .color on => [if on then "--color" else "--no-color"]
  | .apart o value => [o.name, value]
  | .short value => ["-a", value]
  | .joined o value => [o.joined value]
  | .file name _ => [name]

/-- The setting that a group is read as. -/
def setting : Group → Setting
  | .trace => .trace
  | .color on => .color on
  | .apart o value => .option o value
  | .short value => .option .aiml value
  | .joined o value => .option o (o.bareValue value)
  | .file name _ => .file name

end Group

/-- The arguments of groups, one group after another. -/
def commandLine (gs : List Group) : List String :=
  gs.flatMap Group.arguments

namespace Draft

/-- Whether a setting can be taken: a seed must be a number, and a file that is named by itself must be the
first that is named. -/
def accepts (d : Draft) : Setting → Bool
  | .option .seed value => (parseSeed? value).isSome
  | .file _ => d.file?.isNone
  | _ => true

/-- The draft with a setting that can be taken. -/
def put (d : Draft) : Setting → Draft
  | .trace => { d with trace := true }
  | .color on => { d with color := on }
  | .option .aiml value => { d with file? := some value }
  | .option .seed value => { d with seed? := parseSeed? value }
  | .option .topic value => { d with topic? := some value }
  | .file name => { d with file? := some name }

/-- The draft with a setting, if it can be taken. -/
def settle? (d : Draft) (s : Setting) : Option Draft :=
  if d.accepts s then some (d.put s) else none

/-- Takes settings one after another, if all can be taken. -/
def settleAll? (d : Draft) (settings : List Setting) : Option Draft :=
  settings.foldlM settle? d

end Draft

/-! ## Groups are read as settings -/

theorem toOption_bind {ε α β : Type} (r : Except ε α) (f : α → Except ε β) :
    (r >>= f).toOption = r.toOption.bind fun a => (f a).toOption := by
  cases r <;> rfl

theorem not_mem_reserved_of_head {argument : String} (h : argument.toList.head? ≠ some '-') :
    argument ∉ reservedArguments := by
  have hreserved : ∀ word ∈ reservedArguments, word.toList.head? = some '-' := by decide
  exact fun hmem => h (hreserved argument hmem)

theorem ValueOption.ofJoined?_of_head {argument : String} (h : argument.toList.head? ≠ some '-') :
    ofJoined? argument = none := by
  rw [ofJoined?, List.findSome?_eq_none_iff]
  intro o _
  have hprefix : ¬o.start.isPrefixOf argument.toList := by
    rw [List.isPrefixOf_iff_prefix]
    rintro ⟨rest, hrest⟩
    refine h ?_
    rw [← hrest]
    cases o <;> rfl
  simp only [joinedValue?]
  rw [← start, if_neg hprefix, Option.map_none]

namespace Draft

variable (d : Draft)

theorem toOption_set (o : ValueOption) (value : String) :
    (d.set o value).toOption = d.settle? (.option o value) := by
  cases o with
  | aiml => rfl
  | topic => rfl
  | seed =>
      rw [set, settle?, accepts, put]
      cases parseSeed? value <;> rfl

theorem toOption_set_bind (o : ValueOption) (value : String) (rest : List String) :
    (d.set o value >>= fun d => d.read rest).toOption =
      (d.settle? (.option o value)).bind fun d => (d.read rest).toOption := by
  rw [toOption_bind, toOption_set]

/-- Without its fault, reading a group is taking what it settles. -/
theorem read_group (g : Group) (rest : List String) :
    (d.read (g.arguments ++ rest)).toOption =
      (d.settle? g.setting).bind fun d => (d.read rest).toOption := by
  cases g with
  | trace => exact congrArg Except.toOption (read.eq_4 d _ rest (by decide))
  | color on => cases on <;> exact congrArg Except.toOption (read.eq_4 d _ rest (by decide))
  | apart o value =>
      have hread := d.read_apart o.ofArgument?_name value rest
      exact (congrArg Except.toOption hread).trans (d.toOption_set_bind o value rest)
  | short value =>
      have hshort : ValueOption.ofArgument? "-a" = some .aiml := by decide
      have hread := d.read_apart hshort value rest
      exact (congrArg Except.toOption hread).trans (d.toOption_set_bind .aiml value rest)
  | joined o value =>
      have hread := d.read_joined o value rest
      exact (congrArg Except.toOption hread).trans (d.toOption_set_bind o (o.bareValue value) rest)
  | file name h =>
      have hreserved := not_mem_reserved_of_head h
      have hread := d.read_of_not_reserved hreserved rest
      rw [d.single_of_not_reserved hreserved, ValueOption.ofJoined?_of_head h] at hread
      dsimp only at hread
      rw [if_neg h] at hread
      rw [Group.arguments, List.singleton_append, hread, toOption_bind, settle?]
      cases hfile : d.file? <;> simp [accepts, put, hfile, Group.setting, Except.toOption]

theorem settleAll?_cons (s : Setting) (settings : List Setting) :
    d.settleAll? (s :: settings) = (d.settle? s).bind (·.settleAll? settings) :=
  List.foldlM_cons ..

theorem read_commandLine (gs : List Group) :
    (d.read (commandLine gs)).toOption =
      (d.settleAll? (gs.map Group.setting)).bind fun d => (d.read []).toOption := by
  induction gs generalizing d with
  | nil => rfl
  | cons g gs ih =>
      have hcons : commandLine (g :: gs) = g.arguments ++ commandLine gs := List.flatMap_cons ..
      rw [hcons, read_group, List.map_cons, settleAll?_cons, Option.bind_assoc]
      simp only [ih]

end Draft

/-! ## Settings in another order -/

namespace Setting

/-- Taken one after the other, the settings come to the same in both orders. -/
def Commutes (s s' : Setting) : Prop :=
  ∀ d : Draft, (d.settle? s).bind (·.settle? s') = (d.settle? s').bind (·.settle? s)

variable {s s' : Setting}

theorem Commutes.symm (h : s.Commutes s') : s'.Commutes s :=
  fun d => (h d).symm

theorem accepts_put (hnames : ¬(s.names ∧ s'.names)) (d : Draft) : (d.put s).accepts s' = d.accepts s' := by
  rcases s with _ | on | ⟨_ | _ | _, v⟩ | name <;> rcases s' with _ | on' | ⟨_ | _ | _, v'⟩ | name' <;>
    first
      | rfl
      | exact absurd ⟨rfl, rfl⟩ hnames

theorem put_comm (hkind : s.kind ≠ s'.kind) (hnames : ¬(s.names ∧ s'.names)) (d : Draft) :
    (d.put s).put s' = (d.put s').put s := by
  rcases s with _ | on | ⟨_ | _ | _, v⟩ | name <;> rcases s' with _ | on' | ⟨_ | _ | _, v'⟩ | name' <;>
    first
      | rfl
      | exact absurd rfl hkind
      | exact absurd ⟨rfl, rfl⟩ hnames

/-- Settings about different things can change places, unless both name the file. -/
theorem commutes_of_kind_ne (hkind : s.kind ≠ s'.kind) (hnames : ¬(s.names ∧ s'.names)) :
    s.Commutes s' := by
  intro d
  have haccepts := accepts_put hnames d
  have haccepts' := accepts_put (fun h => hnames h.symm) d
  have hput := put_comm hkind hnames d
  simp only [Draft.settle?]
  cases hs : d.accepts s <;> cases hs' : d.accepts s' <;> simp_all

theorem commutes_self (s : Setting) : s.Commutes s :=
  fun _ => rfl

end Setting

namespace Draft

variable (d : Draft)

theorem settleAll?_move {s : Setting} {before : List Setting} (h : ∀ s' ∈ before, s'.Commutes s)
    (after : List Setting) : d.settleAll? (before ++ s :: after) = d.settleAll? (s :: (before ++ after)) := by
  induction before generalizing d with
  | nil => rfl
  | cons s' before ih =>
      have hbefore := fun t ht => h t (List.mem_cons_of_mem _ ht)
      simp only [List.cons_append, settleAll?_cons, ih _ hbefore]
      rw [← Option.bind_assoc, h s' List.mem_cons_self d, Option.bind_assoc]

/-- Settings can be taken in another order if those that change places commute. -/
theorem settleAll?_perm {settings settings' : List Setting} (h : settings.Perm settings')
    (hcommutes : ∀ s s', [s, s'].Sublist settings → [s', s].Sublist settings' → s.Commutes s') :
    d.settleAll? settings = d.settleAll? settings' := by
  induction settings generalizing d settings' with
  | nil => rw [h.nil_eq]
  | cons s settings ih =>
      obtain ⟨before, after, rfl, hfirst⟩ := List.eq_append_cons_of_mem (h.subset List.mem_cons_self)
      -- Whatever stands before `s` in the second order stands behind it in the first.
      have hbefore : ∀ s' ∈ before, s'.Commutes s := by
        intro s' hs'
        have hne : s' ≠ s := fun heq => hfirst (heq ▸ hs')
        have hmem : s' ∈ settings := by
          have hmem' := h.symm.subset (List.mem_append_left _ hs')
          exact (List.mem_cons.mp hmem').resolve_left hne
        refine (hcommutes s s' ?_ ?_).symm
        · exact (List.singleton_sublist.mpr hmem).cons_cons s
        · exact (List.singleton_sublist.mpr hs').append
            (List.singleton_sublist.mpr List.mem_cons_self)
      have hrest : settings.Perm (before ++ after) := (h.trans List.perm_middle).cons_inv
      rw [settleAll?_move d hbefore, settleAll?_cons, settleAll?_cons]
      refine congrArg _ (funext fun d => ih d hrest fun t t' ht ht' => hcommutes t t' (ht.cons s) ?_)
      exact ht'.trans ((List.sublist_cons_self s after).append_left before)

end Draft

/-! ## Settings that are each made once -/

namespace Setting

/-- No two of the settings are about the same thing, but output may be coloured, or not, any number of times. -/
def Separate (settings : List Setting) : Prop :=
  settings.Pairwise fun s s' => s.kind = s'.kind → ∃ on, s = .color on ∧ s' = .color on

/-- A setting about one thing stands before a setting about another. -/
def Before (k k' : Kind) (settings : List Setting) : Prop :=
  [k, k'].Sublist (settings.map kind)

instance (settings : List Setting) : Decidable (Separate settings) :=
  inferInstanceAs (Decidable (List.Pairwise _ _))

instance (k k' : Kind) (settings : List Setting) : Decidable (Before k k' settings) :=
  inferInstanceAs (Decidable (List.Sublist _ _))

variable {s : Setting} {settings settings' : List Setting} {k k' : Kind}

theorem Separate.perm (h : Separate settings) (hperm : settings.Perm settings') : Separate settings' := by
  refine hperm.pairwise h ?_
  rintro s s' hss' hkind
  obtain ⟨on, hs, hs'⟩ := hss' hkind.symm
  exact ⟨on, hs', hs⟩

/-- Only the colouring may be settled twice. -/
theorem Separate.eq_color (h : Separate settings) (hbefore : Before k k settings) : k = .color := by
  have hkinds : (settings.map kind).Pairwise fun k k' => k = k' → k = .color := by
    refine List.pairwise_map.mpr (h.imp ?_)
    rintro s s' hss' hkind
    obtain ⟨on, rfl, -⟩ := hss' hkind
    rfl
  exact List.pairwise_iff_forall_sublist.mp hkinds hbefore rfl

/-- Of two things in both orders, one stands there twice. -/
theorem twice_of_both_orders {α : Type} {a b : α} {as : List α} (h : [a, b].Sublist as)
    (h' : [b, a].Sublist as) : [a, a].Sublist as ∨ [b, b].Sublist as := by
  induction as with
  | nil => cases h
  | cons c as ih =>
      cases h with
      | cons _ h =>
          cases h' with
          | cons _ h' => exact (ih h h').imp (.cons c) (.cons c)
          | cons_cons _ h' => exact .inr (((List.sublist_cons_self a [b]).trans h).cons_cons b)
      | cons_cons _ h =>
          cases h' with
          | cons _ h' => exact .inl (((List.sublist_cons_self b [a]).trans h').cons_cons a)
          | cons_cons _ h' => exact .inl (h.cons_cons a)

/-- Two things that are each settled once stand in one order only. -/
theorem Separate.not_both_orders (h : Separate settings) (hk : k ≠ .color) (hk' : k' ≠ .color)
    (hbefore : Before k k' settings) : ¬Before k' k settings := by
  intro hafter
  rcases twice_of_both_orders hbefore hafter with htwice | htwice
  · exact hk (h.eq_color htwice)
  · exact hk' (h.eq_color htwice)

theorem before_of_sublist {s s' : Setting} (h : [s, s'].Sublist settings) : Before s.kind s'.kind settings :=
  h.map kind

theorem Before.exists_sublist (h : Before k k' settings) :
    ∃ s s', [s, s'].Sublist settings ∧ s.kind = k ∧ s'.kind = k' := by
  obtain ⟨pair, hpair, hkinds⟩ := List.sublist_map_iff.mp h
  obtain ⟨s, rest, rfl, hs, hrest⟩ := List.map_eq_cons_iff.mp hkinds.symm
  obtain ⟨s', rfl, hs'⟩ := List.map_eq_singleton_iff.mp hrest
  exact ⟨s, s', hpair, hs, hs'⟩

theorem before_cons : Before k k' (s :: settings) ↔ Before k k' settings ∨ s.kind = k ∧ k' ∈ settings.map kind := by
  rw [Before, List.map_cons, List.sublist_cons_iff]
  refine or_congr_right ⟨?_, ?_⟩
  · rintro ⟨rest, hkinds, hrest⟩
    injection hkinds with hk hk'
    exact ⟨hk.symm, List.singleton_sublist.mp (hk' ▸ hrest)⟩
  · rintro ⟨rfl, hk'⟩
    exact ⟨[k'], rfl, List.singleton_sublist.mpr hk'⟩

theorem not_before_of_forall_ne (h : ∀ s ∈ settings, s.kind ≠ k') : ¬Before k k' settings := by
  intro hbefore
  obtain ⟨_, s', hpair, -, rfl⟩ := hbefore.exists_sublist
  exact h s' (hpair.subset (List.mem_cons_of_mem _ List.mem_cons_self)) rfl

/-- Behind a setting that may be made once, no other is about the same thing. -/
theorem Separate.kind_ne (h : Separate (s :: settings)) (hs : s.kind ≠ .color) :
    ∀ s' ∈ settings, s'.kind ≠ s.kind := by
  intro s' hs' hkind
  obtain ⟨on, rfl, -⟩ := (List.pairwise_cons.mp h).1 s' hs' hkind.symm
  exact hs rfl

theorem Separate.filter_perm {rest : List Setting} (h : Separate (s :: rest)) (hs : s.kind ≠ .color)
    (hperm : settings.Perm (s :: rest)) : (settings.filter (·.kind ≠ s.kind)).Perm rest := by
  have hall : rest.filter (·.kind ≠ s.kind) = rest :=
    List.filter_eq_self.mpr fun t ht => decide_eq_true (h.kind_ne hs t ht)
  have hfilter := hperm.filter (·.kind ≠ s.kind)
  rwa [List.filter_cons_of_neg (by simp), hall] at hfilter

/-- The settings that change places commute if it is not the file and the option that names one. -/
theorem Separate.commutes (h : Separate settings) (hperm : settings.Perm settings')
    (hfile : Before (.option .aiml) .file settings ↔ Before (.option .aiml) .file settings')
    {s s' : Setting} (hs : [s, s'].Sublist settings) (hs' : [s', s].Sublist settings') : s.Commutes s' := by
  by_cases hkind : s.kind = s'.kind
  · obtain ⟨on, rfl, rfl⟩ := List.pairwise_iff_forall_sublist.mp h hs hkind
    exact commutes_self _
  refine commutes_of_kind_ne hkind fun ⟨hnames, hnames'⟩ => ?_
  have hbefore := before_of_sublist hs
  have hbefore' := before_of_sublist hs'
  simp only [names, Bool.or_eq_true, decide_eq_true_eq] at hnames hnames'
  rcases hnames with hopt | hopt <;> rcases hnames' with hopt' | hopt' <;> rw [hopt, hopt'] at hbefore hbefore'
  · exact hkind (hopt.trans hopt'.symm)
  · exact (h.perm hperm).not_both_orders (by decide) (by decide) (hfile.mp hbefore) hbefore'
  · exact h.not_both_orders (by decide) (by decide) (hfile.mpr hbefore') hbefore
  · exact hkind (hopt.trans hopt'.symm)

end Setting

namespace Draft

variable (d : Draft) {settings settings' : List Setting}

theorem settleAll?_perm_of_separate (h : Setting.Separate settings) (hperm : settings.Perm settings')
    (hfile : Setting.Before (.option .aiml) .file settings ↔ Setting.Before (.option .aiml) .file settings') :
    d.settleAll? settings = d.settleAll? settings' :=
  d.settleAll?_perm hperm fun _ _ hs hs' => h.commutes hperm hfile hs hs'

/-! ## What is taken -/

theorem accepts_iff (s : Setting) : d.accepts s ↔ s.isReadable ∧ (s.kind = .file → ¬d.file?.isSome) := by
  rcases s with _ | on | ⟨_ | _ | _, v⟩ | name <;>
    simp [accepts, Setting.isReadable, Setting.kind]

theorem isSome_file?_put (s : Setting) : (d.put s).file?.isSome ↔ d.file?.isSome ∨ s.names := by
  rcases s with _ | on | ⟨_ | _ | _, v⟩ | name <;> simp [put, Setting.names, Setting.kind]

theorem isSome_settleAll?_cons (s : Setting) (settings : List Setting) :
    (d.settleAll? (s :: settings)).isSome ↔ d.accepts s ∧ ((d.put s).settleAll? settings).isSome := by
  rw [settleAll?_cons, settle?]
  split <;> simp [*]

/-- Settings can be taken if their values can be read and no file stands behind what names one. -/
theorem isSome_settleAll?_iff (h : Setting.Separate settings) :
    (d.settleAll? settings).isSome ↔
      (∀ s ∈ settings, s.isReadable) ∧ ¬Setting.Before (.option .aiml) .file settings ∧
        (d.file?.isSome → .file ∉ settings.map Setting.kind) := by
  induction settings generalizing d with
  | nil => simp [settleAll?, Setting.Before]
  | cons s settings ih =>
      have honce : s.kind = .file → .file ∉ settings.map Setting.kind := by
        intro hs hmem
        obtain ⟨s', hs', hkind⟩ := List.mem_map.mp hmem
        exact h.kind_ne (by rw [hs]; decide) s' hs' (hkind.trans hs.symm)
      have hnames : s.names ↔ s.kind = .option .aiml ∨ s.kind = .file := by simp [Setting.names]
      rw [isSome_settleAll?_cons, ih _ (List.pairwise_cons.mp h).2, accepts_iff, isSome_file?_put,
        Setting.before_cons, List.forall_mem_cons, List.map_cons, List.mem_cons, hnames]
      grind

theorem isSome_read_nil : (d.read []).toOption.isSome ↔ d.file?.isSome := by
  rw [read]
  cases d.file? <;> simp [Except.toOption]

/-- At the end of the command line, the file must have been named. -/
theorem isSome_read_settled (settings : List Setting) :
    ((d.settleAll? settings).bind fun d => (d.read []).toOption).isSome ↔
      (d.settleAll? settings).isSome ∧ (d.file?.isSome ∨ ∃ s ∈ settings, s.names) := by
  induction settings generalizing d with
  | nil => simp [settleAll?, isSome_read_nil]
  | cons s settings ih =>
      rw [settleAll?_cons, Option.bind_assoc, settle?]
      split
      · rw [Option.bind_some, Option.bind_some, ih, isSome_file?_put, List.exists_mem_cons_iff, or_assoc]
      · simp

/-! ## The file named twice -/

theorem settle?_file_option (hd : d.file? = none) {s s' : Setting} (hs : s.kind = .file)
    (hs' : s'.kind = .option .aiml) : (d.settle? s).bind (·.settle? s') = d.settle? s' := by
  rcases s with _ | _ | _ | name <;> cases hs
  rcases s' with _ | _ | ⟨_ | _ | _, value⟩ | _ <;> cases hs'
  simp [settle?, accepts, put, hd]

/-- A file is forgotten for that of an option behind it. -/
theorem settleAll?_of_file_before (h : Setting.Separate settings)
    (hbefore : Setting.Before .file (.option .aiml) settings) (hd : d.file? = none) :
    d.settleAll? settings = d.settleAll? (settings.filter (·.kind ≠ .file)) := by
  obtain ⟨s, s', hpair, hs, hs'⟩ := hbefore.exists_sublist
  obtain ⟨rest, hperm⟩ := hpair.exists_perm_append
  have hfront := h.perm hperm
  have honce : s.kind ≠ .color := by rw [hs]; decide
  have hbeforeFront : Setting.Before .file (.option .aiml) (s :: s' :: rest) := by
    rw [← hs, ← hs']
    exact Setting.before_of_sublist (List.sublist_append_left [s, s'] rest)
  have hnot := h.not_both_orders (by decide) (by decide) hbefore
  have hnotFront := hfront.not_both_orders (by decide) (by decide) hbeforeFront
  have hrest : ∀ t ∈ s' :: rest, t.kind ≠ .file := hs ▸ hfront.kind_ne honce
  have hfilter : (settings.filter (·.kind ≠ .file)).Perm (s' :: rest) := hs ▸ hfront.filter_perm honce hperm
  have hnotFilter : ¬Setting.Before (.option .aiml) .file (settings.filter (·.kind ≠ .file)) :=
    Setting.not_before_of_forall_ne fun t ht => hrest t (hfilter.subset ht)
  -- With the file and the option in front, the option takes the place of the file at once.
  calc d.settleAll? settings
      = d.settleAll? (s :: s' :: rest) :=
        d.settleAll?_perm_of_separate h hperm (iff_of_false hnot hnotFront)
    _ = d.settleAll? (s' :: rest) := by
        simp only [settleAll?_cons, ← Option.bind_assoc, d.settle?_file_option hd hs hs']
    _ = d.settleAll? (settings.filter (·.kind ≠ .file)) :=
        (d.settleAll?_perm_of_separate (h.sublist List.filter_sublist) hfilter
          (iff_of_false hnotFilter (Setting.not_before_of_forall_ne hrest))).symm

end Draft

/-- Groups are read to the same request, or refused, in every order that keeps the order of the file and the
option that names one. They are refused if a seed is no number, if no file is named, or if the file stands
behind the option; before the option, the file is read and forgotten. -/
theorem read_perm (color : Bool) {gs gs' : List Group} (hgs : Setting.Separate (gs.map Group.setting))
    (hperm : gs.Perm gs') :
    let settings := gs.map Group.setting
    let settings' := gs'.map Group.setting
    ((Setting.Before (.option .aiml) .file settings ↔ Setting.Before (.option .aiml) .file settings') →
        (Request.read color (commandLine gs)).toOption = (Request.read color (commandLine gs')).toOption) ∧
      ((Request.read color (commandLine gs)).toOption.isSome ↔
        (∀ s ∈ settings, s.isReadable) ∧ (∃ s ∈ settings, s.names) ∧
          ¬Setting.Before (.option .aiml) .file settings) ∧
      (Setting.Before .file (.option .aiml) settings →
        (Request.read color (commandLine gs)).toOption =
          (Request.read color (commandLine (gs.filter (·.setting.kind ≠ .file)))).toOption) := by
  intro settings settings'
  simp only [Request.read, Draft.read_commandLine]
  refine ⟨fun hfile => ?_, ?_, fun hbefore => ?_⟩
  · rw [Draft.settleAll?_perm_of_separate _ hgs (hperm.map Group.setting) hfile]
  · rw [Draft.isSome_read_settled, Draft.isSome_settleAll?_iff _ hgs]
    simp only [Option.isSome_none, Bool.false_eq_true, false_imp_iff, and_true, false_or]
    exact and_right_comm.trans and_assoc
  · rw [Draft.settleAll?_of_file_before _ hgs hbefore rfl, List.filter_map]
    rfl

/-- The seed and the file change places, the option stays behind the file. -/
theorem read_perm_seed :
    let gs := [.file "a.aiml" (by decide), .apart .seed "7", .short "b.aiml"]
    let gs' := [.apart .seed "7", .file "a.aiml" (by decide), .short "b.aiml"]
    (Setting.Separate (gs.map Group.setting) ∧ gs.Perm gs') ∧
      (Request.read false (commandLine gs)).toOption = (Request.read false (commandLine gs')).toOption := by
  intro gs gs'
  have hgs : Setting.Separate (gs.map Group.setting) := by decide
  have hperm : gs.Perm gs' := .swap ..
  have hfile : Setting.Before (.option .aiml) .file (gs.map Group.setting) ↔
      Setting.Before (.option .aiml) .file (gs'.map Group.setting) := by decide
  exact ⟨⟨hgs, hperm⟩, (read_perm false hgs hperm).1 hfile⟩

/-- A file is refused behind the option that names one, and only there. -/
theorem read_order_of_files :
    let gs := [.file "a.aiml" (by decide), .apart .aiml "b.aiml"]
    (Setting.Separate (gs.map Group.setting) ∧ gs.Perm gs.reverse) ∧
      Request.read false (commandLine gs) =
          .ok (.talk { file := "b.aiml", seed? := none, topic? := none, trace := false, color := false }) ∧
        Request.read false (commandLine gs.reverse) = .error .severalFiles := by
  intro gs
  refine ⟨⟨by decide, (List.reverse_perm gs).symm⟩, ?_, ?_⟩ <;> decide

end Dialogue.Console
