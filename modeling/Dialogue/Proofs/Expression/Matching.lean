import Mathlib.Logic.Function.Iterate
import Dialogue.Expression.Matching

/-!
# What matching finds

The places where a match may end, worked out for all starts at once, are the ends of the stretches that
the expression spans.
-/

namespace Dialogue

/-! ## Sets of places -/

theorem testBit_ofBits (bits : List Bool) (i : Nat) :
    (ofBits bits).testBit i = bits[i]?.getD false := by
  induction bits generalizing i with
  | nil => simp [ofBits]
  | cons b bs ih =>
      have hb := b.toNat_lt
      cases i with
      | zero => cases b <;> simp [ofBits]
      | succ i =>
          have hhalf : ofBits (b :: bs) / 2 = ofBits bs := by
            simp only [ofBits]
            omega
          rw [Nat.testBit_add_one, hhalf, ih, List.getElem?_cons_succ]

theorem testBit_setPlaces {text : List Char} {set : CharSet} {i : Nat} :
    (setPlaces text set).testBit i = true ↔ ∃ c, text[i]? = some c ∧ set.contains c := by
  rw [setPlaces, testBit_ofBits, List.getElem?_map]
  cases text[i]? <;> simp

theorem getElem?_lookBits (l : Look) (before : Option Char) (cs : List Char) {i : Nat}
    (hi : i ≤ cs.length) :
    (lookBits l before cs)[i]? = some (l.holds (if i = 0 then before else cs[i - 1]?) cs[i]?) := by
  induction cs generalizing before i with
  | nil =>
      obtain rfl : i = 0 := by simpa using hi
      rfl
  | cons c cs ih =>
      cases i with
      | zero => rfl
      | succ i =>
          rw [lookBits, List.getElem?_cons_succ, ih (some c) (Nat.le_of_succ_le_succ hi)]
          cases i <;> simp

theorem length_lookBits (l : Look) (before : Option Char) (cs : List Char) :
    (lookBits l before cs).length = cs.length + 1 := by
  induction cs generalizing before with
  | nil => rfl
  | cons c cs ih => simp [lookBits, ih]

theorem testBit_lookPlaces {text : List Char} {l : Look} {i : Nat} :
    (lookPlaces text l).testBit i = true ↔ i ≤ text.length ∧ l.holdsAt text i := by
  rw [lookPlaces, testBit_ofBits]
  by_cases hi : i ≤ text.length
  · simp [getElem?_lookBits l none text hi, hi, Look.holdsAt]
  · have hlen : (lookBits l none text).length ≤ i := by
      rw [length_lookBits]
      omega
    simp [List.getElem?_eq_none hlen, hi]

/-- A table that a function fills holds the function's values. -/
theorem fromTable_map {α : Type} [BEq α] [LawfulBEq α] (f : α → Nat) (keys : List α) (a : α) :
    fromTable (keys.map fun k => (k, f k)) f a = f a := by
  induction keys with
  | nil => rfl
  | cons k keys ih =>
      by_cases h : a = k
      · subst h
        simp [fromTable]
      · have hk : (a == k) = false := by simpa using h
        simpa [fromTable, List.lookup_cons, hk] using ih

/-! ## Stretches -/

namespace Expression

variable {text : List Char} {a b e : Expression} {i j k : Nat}

theorem spans_empty : Spans text .empty i j ↔ i = j ∧ i ≤ text.length :=
  ⟨fun | .empty hi => ⟨rfl, hi⟩, fun | ⟨rfl, hi⟩ => .empty hi⟩

theorem spans_one {set : CharSet} :
    Spans text (.one set) i j ↔ j = i + 1 ∧ ∃ c, text[i]? = some c ∧ set.contains c :=
  ⟨fun | .one hc hs => ⟨rfl, _, hc, hs⟩, fun ⟨hj, _, hc, hs⟩ => hj ▸ .one hc hs⟩

theorem spans_look {l : Look} :
    Spans text (.look l) i j ↔ i = j ∧ i ≤ text.length ∧ l.holdsAt text i :=
  ⟨fun | .look hi hl => ⟨rfl, hi, hl⟩, fun | ⟨rfl, hi, hl⟩ => .look hi hl⟩

theorem spans_seq : Spans text (.seq a b) i k ↔ ∃ j, Spans text a i j ∧ Spans text b j k :=
  ⟨fun | .seq ha hb => ⟨_, ha, hb⟩, fun | ⟨_, ha, hb⟩ => .seq ha hb⟩

theorem spans_alt : Spans text (.alt a b) i j ↔ Spans text a i j ∨ Spans text b i j :=
  ⟨fun | .left h => .inl h | .right h => .inr h, fun | .inl h => .left h | .inr h => .right h⟩

theorem spans_group {number : Option Nat} : Spans text (.group number e) i j ↔ Spans text e i j :=
  ⟨fun | .group h => h, .group⟩

/-- The expression spans so many stretches in a row from one place to another. -/
def Repeats (text : List Char) (e : Expression) : Nat → Nat → Nat → Prop
  | 0, i, j => i = j
  | n + 1, i, k => ∃ j, Spans text e i j ∧ Repeats text e n j k

theorem Spans.places (h : Spans text e i j) : i ≤ j ∧ j ≤ text.length := by
  induction h with
  | empty hi => exact ⟨Nat.le_refl _, hi⟩
  | one hc _ =>
      have := (List.getElem?_eq_some_iff.mp hc).1
      exact ⟨Nat.le_succ _, this⟩
  | look hi _ => exact ⟨Nat.le_refl _, hi⟩
  | seq _ _ ih ih' => exact ⟨Nat.le_trans ih.1 ih'.1, ih'.2⟩
  | left _ ih => exact ih
  | right _ ih => exact ih
  | group _ ih => exact ih
  | none hi => exact ⟨Nat.le_refl _, hi⟩
  | more _ _ _ ih ih' => exact ⟨Nat.le_trans ih.1 ih'.1, ih'.2⟩

theorem Repeats.places {n : Nat} (h : Repeats text e n i j) (hi : i ≤ text.length) :
    i ≤ j ∧ j ≤ text.length := by
  induction n generalizing i with
  | zero => exact ⟨Nat.le_of_eq h, h ▸ hi⟩
  | succ n ih =>
      obtain ⟨k, hk, h⟩ := h
      have := ih h hk.places.2
      exact ⟨Nat.le_trans hk.places.1 this.1, this.2⟩

theorem repeats_add {m n : Nat} :
    Repeats text e (m + n) i k ↔ ∃ j, Repeats text e m i j ∧ Repeats text e n j k := by
  induction m generalizing i with
  | zero => simp [Repeats]
  | succ m ih =>
      rw [Nat.succ_add]
      constructor
      · rintro ⟨l, hl, h⟩
        obtain ⟨j, hj, h⟩ := ih.mp h
        exact ⟨j, ⟨l, hl, hj⟩, h⟩
      · rintro ⟨j, ⟨l, hl, hj⟩, h⟩
        exact ⟨l, hl, ih.mpr ⟨j, hj, h⟩⟩

/-- Empty stretches can be left out, and no more others fit than there are characters. -/
theorem Repeats.shorten {n : Nat} (h : Repeats text e n i j) :
    ∃ m ≤ j - i, Repeats text e m i j := by
  induction n generalizing i with
  | zero => exact ⟨0, Nat.zero_le _, h⟩
  | succ n ih =>
      obtain ⟨k, hk, h⟩ := h
      have hj := (h.places hk.places.2).1
      obtain ⟨m, hm, h⟩ := ih h
      rcases Nat.eq_or_lt_of_le hk.places.1 with rfl | hlt
      · exact ⟨m, hm, h⟩
      · exact ⟨m + 1, by omega, k, hk, h⟩

theorem spans_many {min : Nat} {max : Option Nat} {lazy : Bool} :
    Spans text (.many e min max lazy) i j ↔
      i ≤ text.length ∧ ∃ n, min ≤ n ∧ (∀ m ∈ max, n ≤ m) ∧ Repeats text e n i j := by
  constructor
  · intro h
    generalize he : Expression.many e min max lazy = e' at h
    induction h generalizing min max with
    | none hi =>
        cases he
        exact ⟨hi, 0, Nat.le_refl _, fun _ _ => Nat.zero_le _, rfl⟩
    | @more _ _ max' _ i j k hmax hi _ _ ih =>
        cases he
        obtain ⟨_, n, hmin, hn, h⟩ := ih rfl
        refine ⟨Nat.le_trans hi.places.1 hi.places.2, n + 1, by omega, ?_, j, hi, h⟩
        rintro m rfl
        have := hn (m - 1) rfl
        have : m ≠ 0 := fun h => hmax (h ▸ rfl)
        omega
    | _ => cases he
  · rintro ⟨hi, n, hmin, hmax, h⟩
    induction n generalizing i min max with
    | zero =>
        cases h
        cases Nat.le_zero.mp hmin
        exact .none hi
    | succ n ih =>
        obtain ⟨k, hk, h⟩ := h
        refine .more ?_ hk (ih hk.places.2 (by omega) ?_ h)
        · rintro rfl
          exact absurd (hmax 0 rfl) (Nat.not_succ_le_zero n)
        · intro m hm
          obtain ⟨m', hm', rfl⟩ := Option.map_eq_some_iff.mp hm
          have := hmax m' hm'
          omega

/-- The stretches of a repetition are the least number of them, and more up to the bound. -/
theorem spans_many_least {min : Nat} {max : Option Nat} {lazy : Bool} (hi : i ≤ text.length) :
    Spans text (.many e min max lazy) i j ↔
      ∃ k, Repeats text e min i k ∧ ∃ n, (∀ m ∈ max, min + n ≤ m) ∧ Repeats text e n k j := by
  rw [spans_many]
  constructor
  · rintro ⟨_, n, hmin, hmax, h⟩
    obtain ⟨n, rfl⟩ := Nat.exists_eq_add_of_le hmin
    obtain ⟨k, hk, h⟩ := repeats_add.mp h
    exact ⟨k, hk, n, hmax, h⟩
  · rintro ⟨k, hk, n, hmax, h⟩
    exact ⟨hi, min + n, Nat.le_add_right _ _, hmax, repeats_add.mpr ⟨k, hk, h⟩⟩

/-- Without a bound, the length of the text bounds the number of stretches that lead anywhere. -/
theorem exists_repeats_iff {min : Nat} {max : Option Nat} (hle : max.all (min ≤ ·))
    (hi : i ≤ text.length) :
    (∃ n, (∀ m ∈ max, min + n ≤ m) ∧ Repeats text e n i j) ↔
      ∃ n ≤ max.elim (text.length + 1) (· - min), Repeats text e n i j := by
  cases max with
  | some m =>
      have hle : min ≤ m := by simpa using hle
      constructor
      · rintro ⟨n, hn, h⟩
        exact ⟨n, Nat.le_sub_of_add_le' (hn m rfl), h⟩
      · rintro ⟨n, hn, h⟩
        refine ⟨n, ?_, h⟩
        rintro _ ⟨⟩
        exact Nat.add_le_of_le_sub' hle hn
  | none =>
      constructor
      · rintro ⟨_, _, h⟩
        obtain ⟨n, hn, h⟩ := h.shorten
        have := h.places hi
        exact ⟨n, by simp only [Option.elim]; omega, h⟩
      · rintro ⟨n, _, h⟩
        exact ⟨n, nofun, h⟩

end Expression

/-! ## Rounds over sets of places -/

namespace Track

open Expression (Spans Repeats)

/-- From places within a text, `f` gives the ends of the stretches that the expression spans. -/
def Advances (text : List Char) (e : Expression) (f : Nat → Nat) : Prop :=
  ∀ places, (∀ i, places.testBit i → i ≤ text.length) →
    ∀ j, (f places).testBit j = true ↔ ∃ i, places.testBit i ∧ Spans text e i j

variable {text : List Char} {e : Expression} {f : Nat → Nat}

theorem Advances.within (hf : Advances text e f) {places : Nat}
    (hp : ∀ i, places.testBit i → i ≤ text.length) {j : Nat} (hj : (f places).testBit j) :
    j ≤ text.length := by
  obtain ⟨_, _, h⟩ := (hf places hp j).mp hj
  exact h.places.2

theorem rounds_eq_iterate (f : Nat → Nat) (n places : Nat) : rounds f n places = f^[n] places := by
  induction n generalizing places with
  | zero => rfl
  | succ n ih =>
      simp only [rounds]
      split
      · next h => exact (Function.iterate_fixed h (n + 1)).symm
      · rw [ih, Function.iterate_succ_apply]

theorem Advances.testBit_rounds (hf : Advances text e f) (n : Nat) {places : Nat}
    (hp : ∀ i, places.testBit i → i ≤ text.length) (j : Nat) :
    (rounds f n places).testBit j = true ↔ ∃ i, places.testBit i ∧ Repeats text e n i j := by
  rw [rounds_eq_iterate]
  induction n generalizing places with
  | zero => simp [Repeats]
  | succ n ih =>
      rw [Function.iterate_succ_apply, ih fun i => hf.within hp]
      constructor
      · rintro ⟨k, hk, h⟩
        obtain ⟨i, hi, hs⟩ := (hf places hp k).mp hk
        exact ⟨i, hi, k, hs, h⟩
      · rintro ⟨i, hi, k, hs, h⟩
        exact ⟨k, (hf places hp k).mpr ⟨i, hi, hs⟩, h⟩

/-- The invariant of `reach`: all that one stretch leads to from places that were seen, but not in the
latest round, has been seen. -/
structure Explored (text : List Char) (e : Expression) (seen latest : Nat) : Prop where
  within : ∀ i, seen.testBit i → i ≤ text.length
  recent : ∀ i, latest.testBit i → seen.testBit i
  closed : ∀ i j, seen.testBit i → ¬ latest.testBit i → Spans text e i j → seen.testBit j

theorem Explored.start {places : Nat} (hp : ∀ i, places.testBit i → i ≤ text.length) :
    Explored text e places places :=
  ⟨hp, fun _ h => h, fun _ _ h hn _ => absurd h hn⟩

theorem Explored.testBit_next (h : Explored text e seen latest) (hf : Advances text e f) (j : Nat) :
    (seen ||| f latest).testBit j = true ↔
      seen.testBit j ∨ ∃ i, seen.testBit i ∧ Spans text e i j := by
  have hl := hf latest (fun i hi => h.within i (h.recent i hi)) j
  rw [Nat.testBit_or, Bool.or_eq_true, hl]
  constructor
  · rintro (hj | ⟨i, hi, hs⟩)
    · exact .inl hj
    · exact .inr ⟨i, h.recent i hi, hs⟩
  · rintro (hj | ⟨i, hi, hs⟩)
    · exact .inl hj
    · by_cases hli : latest.testBit i
      · exact .inr ⟨i, hli, hs⟩
      · exact .inl (h.closed i j hi hli hs)

theorem Explored.next (h : Explored text e seen latest) (hf : Advances text e f) :
    Explored text e (seen ||| f latest) ((seen ||| f latest) ^^^ seen) where
  within i hi := by
    rcases (h.testBit_next hf i).mp hi with hi | ⟨_, _, hs⟩
    · exact h.within i hi
    · exact hs.places.2
  recent i hi := by
    rw [Nat.testBit_xor, Nat.testBit_or] at hi
    rw [Nat.testBit_or]
    cases hs : seen.testBit i <;> simp_all
  closed i j hi hn hs := by
    refine (h.testBit_next hf j).mpr (.inr ⟨i, ?_, hs⟩)
    rw [Nat.testBit_xor, hi] at hn
    simpa using hn

theorem Explored.testBit_reach (hf : Advances text e f) (n : Nat) {seen latest : Nat}
    (h : Explored text e seen latest) (j : Nat) :
    (reach f n seen latest).testBit j = true ↔
      ∃ m ≤ n, ∃ i, seen.testBit i ∧ Repeats text e m i j := by
  induction n generalizing seen latest with
  | zero => simp [reach, Repeats]
  | succ n ih =>
      simp only [reach]
      split
      · next hsame =>
          -- Nothing new: what was seen is closed under stretches, however many follow.
          have hclosed : ∀ m i, seen.testBit i → Repeats text e m i j → seen.testBit j := by
            intro m
            induction m with
            | zero => rintro i hi rfl; exact hi
            | succ m ihm =>
                rintro i hi ⟨k, hk, hr⟩
                exact ihm k (hsame ▸ (h.testBit_next hf k).mpr (.inr ⟨i, hi, hk⟩)) hr
          exact ⟨fun hj => ⟨0, Nat.zero_le _, j, hj, rfl⟩, fun ⟨m, _, i, hi, hr⟩ => hclosed m i hi hr⟩
      · rw [ih (h.next hf)]
        constructor
        · rintro ⟨m, hm, i, hi, hr⟩
          rcases (h.testBit_next hf i).mp hi with hi | ⟨k, hk, hs⟩
          · exact ⟨m, Nat.le_succ_of_le hm, i, hi, hr⟩
          · exact ⟨m + 1, Nat.succ_le_succ hm, k, hk, i, hs, hr⟩
        · rintro ⟨m, hm, i, hi, hr⟩
          cases m with
          | zero => exact ⟨0, Nat.zero_le _, i, (h.testBit_next hf i).mpr (.inl hi), hr⟩
          | succ m =>
              obtain ⟨k, hk, hr⟩ := hr
              exact ⟨m, Nat.le_of_succ_le_succ hm, k, (h.testBit_next hf k).mpr (.inr ⟨i, hi, hk⟩), hr⟩

/-! ## Advancing along a text -/

theorem Advances.many (hf : Advances text e f) {min : Nat} {max : Option Nat} {lazy : Bool} :
    Advances text (.many e min max lazy) fun places =>
      if max.all (min ≤ ·) then
        reach f (max.elim (text.length + 1) (· - min)) (rounds f min places) (rounds f min places)
      else 0 := by
  intro places hp j
  have hleast := hf.testBit_rounds min hp
  have hstart : Explored text e (rounds f min places) (rounds f min places) := by
    refine .start fun k hk => ?_
    obtain ⟨i, hi, hr⟩ := (hleast k).mp hk
    exact (hr.places (hp i hi)).2
  split
  · next hle =>
      rw [hstart.testBit_reach hf]
      constructor
      · rintro ⟨n, hn, k, hk, hr⟩
        obtain ⟨i, hi, hik⟩ := (hleast k).mp hk
        refine ⟨i, hi, (Expression.spans_many_least (hp i hi)).mpr ⟨k, hik, ?_⟩⟩
        exact (Expression.exists_repeats_iff hle (hstart.within k hk)).mpr ⟨n, hn, hr⟩
      · rintro ⟨i, hi, hs⟩
        obtain ⟨k, hik, hr⟩ := (Expression.spans_many_least (hp i hi)).mp hs
        have hk := (hleast k).mpr ⟨i, hi, hik⟩
        obtain ⟨n, hn, hr⟩ := (Expression.exists_repeats_iff hle (hstart.within k hk)).mp hr
        exact ⟨n, hn, k, hk, hr⟩
  · next hle =>
      -- No number of stretches lies between the bounds.
      simp only [Nat.zero_testBit, Bool.false_eq_true, false_iff, not_exists, not_and]
      intro i hi hs
      obtain ⟨_, _, n, hmax, _⟩ := (Expression.spans_many_least (hp i hi)).mp hs
      apply hle
      rw [Option.all_eq_true]
      intro m hm
      exact decide_eq_true (Nat.le_of_add_right_le (hmax m hm))

/-- An expression laid along a text advances from the starts of stretches to their ends. -/
theorem advances_lay (text : List Char) (sets : List CharSet) (looks : List Look) (e : Expression) :
    Advances text e ((lay text (sets.map fun s => (s, setPlaces text s))
      (looks.map fun l => (l, lookPlaces text l)) e).advance text.length) := by
  induction e with
  | empty =>
      intro places hp j
      simp only [lay, advance, Expression.spans_empty]
      exact ⟨fun hj => ⟨j, hj, rfl, hp j hj⟩, fun ⟨i, hi, hij, _⟩ => hij ▸ hi⟩
  | one set =>
      intro places hp j
      simp only [lay, advance, fromTable_map, Nat.testBit_shiftLeft, Nat.testBit_and,
        Bool.and_eq_true, decide_eq_true_eq, testBit_setPlaces, Expression.spans_one]
      constructor
      · rintro ⟨hj, hi, hc⟩
        exact ⟨j - 1, hi, by omega, hc⟩
      · rintro ⟨i, hi, rfl, hc⟩
        exact ⟨Nat.le_add_left _ _, hi, hc⟩
  | look l =>
      intro places hp j
      simp only [lay, advance, fromTable_map, Nat.testBit_and, Bool.and_eq_true, testBit_lookPlaces,
        Expression.spans_look]
      constructor
      · rintro ⟨hj, hl⟩
        exact ⟨j, hj, rfl, hl⟩
      · rintro ⟨i, hi, rfl, hl⟩
        exact ⟨hi, hl⟩
  | seq a b iha ihb =>
      intro places hp j
      simp only [lay, advance, ihb _ fun i => iha.within hp, iha places hp, Expression.spans_seq]
      constructor
      · rintro ⟨k, ⟨i, hi, ha⟩, hb⟩
        exact ⟨i, hi, k, ha, hb⟩
      · rintro ⟨i, hi, k, ha, hb⟩
        exact ⟨k, ⟨i, hi, ha⟩, hb⟩
  | alt a b iha ihb =>
      intro places hp j
      simp only [lay, advance, Nat.testBit_or, Bool.or_eq_true, iha places hp, ihb places hp,
        Expression.spans_alt, and_or_left, exists_or]
  | group number e ih =>
      intro places hp j
      simp only [lay, ih places hp, Expression.spans_group]
  | many e min max lazy ih =>
      simp only [lay, advance]
      exact ih.many

end Track

namespace Expression

/-- An expression occurs in a text where it spans some stretch of it. -/
theorem occursIn_iff (e : Expression) (text : List Char) :
    e.occursIn text = true ↔ ∃ i j, Spans text e i j := by
  have hall : ∀ i, (1 <<< (text.length + 1) - 1).testBit i = true ↔ i ≤ text.length := by
    intro i
    rw [Nat.one_shiftLeft, Nat.testBit_two_pow_sub_one, decide_eq_true_eq, Nat.lt_succ_iff]
  have hadv := Track.advances_lay text e.sets.eraseDups e.looks.eraseDups e _
    fun i => (hall i).mp
  rw [occursIn, bne_iff_ne]
  constructor
  · intro hne
    obtain ⟨j, hj⟩ := Nat.exists_testBit_of_ne_zero hne
    obtain ⟨i, _, h⟩ := (hadv j).mp hj
    exact ⟨i, j, h⟩
  · rintro ⟨i, j, h⟩ hzero
    have hj := (hadv j).mpr ⟨i, (hall i).mpr (Nat.le_trans h.places.1 h.places.2), h⟩
    rw [Track.ofExpression] at hzero
    rw [hzero, Nat.zero_testBit] at hj
    exact Bool.noConfusion hj

end Expression

end Dialogue
