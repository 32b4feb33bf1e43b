import Mathlib.Algebra.Order.Floor.Div
import Mathlib.Data.Fintype.Card
import Mathlib.Data.FinEnum
import Mathlib.Order.Interval.Finset.Nat
import Dialogue.Proofs.Session.Rendering

/-!
# Fair choices

A word of the stream decides a choice among `n` items if the low half of its product with `n` is in a zone;
then the high half is the index. Every index belongs to equally many words, which follow one another, and to
no word belongs an index out of range. So an item is chosen by the first deciding word, and each of the
items is as likely as the others.
-/

namespace Dialogue

open Markup (Node Element)

namespace Draws

/-- The zeros before the highest one of the 32 bits of a number. -/
def leadingZeros (n : Nat) : Nat :=
  (BitVec.ofNat 32 n).clz.toNat

/-- Whether the low half of the product of a word with `n` is in the zone. -/
def Accepts (n : Nat) (v : UInt32) : Prop :=
  v.toNat * n % 2 ^ 32 ≤ n <<< leadingZeros n - 1

instance (n : Nat) : DecidablePred (Accepts n) :=
  fun v => inferInstanceAs (Decidable (v.toNat * n % 2 ^ 32 ≤ _))

/-- The high half of the product of a word with `n`. -/
def index (n : Nat) (v : UInt32) : Nat :=
  v.toNat * n / 2 ^ 32

/-! ## The zone -/

section
variable {n : Nat}

theorem leadingZeros_bounds (hpos : 0 < n) (hn : n < 2 ^ 32) :
    leadingZeros n ≤ 31 ∧ 2 ^ (31 - leadingZeros n) ≤ n ∧ n < 2 ^ (32 - leadingZeros n) := by
  have hword : (BitVec.ofNat 32 n).toNat = n := by
    rw [BitVec.toNat_ofNat, Nat.mod_eq_of_lt hn]
  have hne : BitVec.ofNat 32 n ≠ 0#32 := by
    intro h
    rw [h] at hword
    exact absurd hword (Nat.ne_of_lt hpos)
  have hlt := BitVec.lt_def.mp (BitVec.clz_lt_iff_ne_zero.mpr hne)
  have hlow := BitVec.two_pow_sub_clz_le_toNat_of_ne_zero (by decide) hne
  have hhigh : (BitVec.ofNat 32 n).toNat < 2 ^ (32 - leadingZeros n) :=
    BitVec.toNat_lt_two_pow_sub_clz
  rw [hword] at hlow hhigh
  exact ⟨Nat.le_of_lt_succ hlt, hlow, hhigh⟩

theorem zone_eq (hpos : 0 < n) (hn : n < 2 ^ 32) : zone n = n * 2 ^ leadingZeros n := by
  obtain ⟨hle, hlow, hhigh⟩ := leadingZeros_bounds hpos hn
  have hlog : n.log2 = 31 - leadingZeros n := by
    rw [Nat.log2_eq_iff (Nat.ne_of_gt hpos)]
    refine ⟨hlow, ?_⟩
    rwa [show 31 - leadingZeros n + 1 = 32 - leadingZeros n by omega]
  rw [zone, hlog, Nat.shiftLeft_eq, Nat.sub_sub_self hle]

theorem zone_le (hpos : 0 < n) (hn : n < 2 ^ 32) : n * 2 ^ leadingZeros n ≤ 2 ^ 32 := by
  obtain ⟨hle, -, hhigh⟩ := leadingZeros_bounds hpos hn
  calc n * 2 ^ leadingZeros n
      ≤ 2 ^ (32 - leadingZeros n) * 2 ^ leadingZeros n :=
        Nat.mul_le_mul_right _ (Nat.le_of_lt hhigh)
    _ = 2 ^ 32 := by rw [← Nat.pow_add, Nat.sub_add_cancel (by omega)]

theorem accepts_iff_lt (hpos : 0 < n) (v : UInt32) :
    Accepts n v ↔ v.toNat * n % 2 ^ 32 < n * 2 ^ leadingZeros n := by
  have hzone : 0 < n * 2 ^ leadingZeros n := Nat.mul_pos hpos (Nat.two_pow_pos _)
  rw [Accepts, Nat.shiftLeft_eq]
  omega

theorem decides_iff (hpos : 0 < n) (hn : n < 2 ^ 32) (v : UInt32) :
    decides n v.toNat = true ↔ Accepts n v := by
  rw [accepts_iff_lt hpos, decides, zone_eq hpos hn, decide_eq_true_iff]
  exact Iff.rfl

/-! ## Words by their index -/

theorem index_lt (hpos : 0 < n) (v : UInt32) : index n v < n := by
  rw [index, Nat.div_lt_iff_lt_mul (by decide), Nat.mul_comm]
  exact Nat.mul_lt_mul_of_pos_left v.toNat_lt hpos

/-- The first word whose product with `n` reaches an index. -/
def firstWord (n i : Nat) : Nat :=
  i * 2 ^ 32 ⌈/⌉ n

theorem firstWord_le_iff (hpos : 0 < n) (i u : Nat) : firstWord n i ≤ u ↔ i * 2 ^ 32 ≤ n * u :=
  ceilDiv_le_iff_le_mul hpos

theorem firstWord_add_le_iff (hpos : 0 < n) (i k u : Nat) :
    firstWord n i + k ≤ u ↔ i * 2 ^ 32 + n * k ≤ n * u := by
  rcases Nat.lt_or_ge u k with hlt | hge
  · have hproduct : n * u < n * k := Nat.mul_lt_mul_of_pos_left hlt hpos
    exact iff_of_false (by omega) (by omega)
  · obtain ⟨u, rfl⟩ := Nat.exists_eq_add_of_le' hge
    rw [Nat.mul_add, Nat.add_le_add_iff_right, Nat.add_le_add_iff_right, firstWord_le_iff hpos]

/-- The words that an index belongs to stand in a row. -/
theorem accepts_and_index_iff (hpos : 0 < n) (hn : n < 2 ^ 32) (i : Nat) (v : UInt32) :
    Accepts n v ∧ index n v = i ↔
      v.toNat ∈ Finset.Ico (firstWord n i) (firstWord n i + 2 ^ leadingZeros n) := by
  have hzone := zone_le hpos hn
  have hlast : v.toNat < firstWord n i + 2 ^ leadingZeros n ↔
      n * v.toNat < i * 2 ^ 32 + n * 2 ^ leadingZeros n := by
    rw [← Nat.not_le, ← Nat.not_le, firstWord_add_le_iff hpos]
  rw [Finset.mem_Ico, hlast, firstWord_le_iff hpos, accepts_iff_lt hpos, index,
    Nat.mul_comm v.toNat n]
  -- The product is at or above the index in the high half, and by less than the zone.
  omega

theorem firstWord_add_le (hpos : 0 < n) (hn : n < 2 ^ 32) {i : Nat} (hi : i < n) :
    firstWord n i + 2 ^ leadingZeros n ≤ 2 ^ 32 := by
  have hzone := zone_le hpos hn
  have hnext : (i + 1) * 2 ^ 32 ≤ n * 2 ^ 32 := Nat.mul_le_mul_right _ hi
  rw [firstWord_add_le_iff hpos]
  omega

/-- To every index belong as many words as the zone has multiples of `n`. -/
theorem card_accepts_and_index (hpos : 0 < n) (hn : n < 2 ^ 32) {i : Nat} (hi : i < n) :
    (Finset.univ.filter fun v => Accepts n v ∧ index n v = i).card = 2 ^ leadingZeros n := by
  have hlast := firstWord_add_le hpos hn hi
  have hword {u : Nat} (hu : u ∈ Finset.Ico (firstWord n i) (firstWord n i + 2 ^ leadingZeros n)) :
      (UInt32.ofNat u).toNat = u :=
    UInt32.toNat_ofNat_of_lt' (Nat.lt_of_lt_of_le (Finset.mem_Ico.mp hu).2 hlast)
  calc (Finset.univ.filter fun v => Accepts n v ∧ index n v = i).card
      = (Finset.Ico (firstWord n i) (firstWord n i + 2 ^ leadingZeros n)).card := by
        refine Finset.card_nbij' UInt32.toNat UInt32.ofNat ?_ ?_ ?_ ?_
        · intro v hv
          exact (accepts_and_index_iff hpos hn i v).mp (Finset.mem_filter.mp hv).2
        · intro u hu
          refine Finset.mem_filter.mpr ⟨Finset.mem_univ _, ?_⟩
          rw [accepts_and_index_iff hpos hn, hword hu]
          exact hu
        · exact fun v _ => UInt32.ofNat_toNat
        · exact fun u hu => hword hu
    _ = 2 ^ leadingZeros n := by rw [Nat.card_Ico, Nat.add_sub_cancel_left]

end

/-! ## The deciding word -/

/-- The stream some words later. -/
def ahead (d : Draws) (k : Nat) : Draws :=
  { d with position := d.position + k }

/-- The first word that may decide a choice among `n` is so far ahead. -/
def DecidedAt (d : Draws) (n k : Nat) : Prop :=
  Accepts n (d.ahead k).word ∧ ∀ j < k, ¬Accepts n (d.ahead j).word

theorem ahead_next (d : Draws) (k : Nat) : d.next.ahead k = d.ahead (k + 1) := by
  rw [ahead, ahead, next, Nat.add_right_comm, Nat.add_assoc]

theorem word_ahead_period (d : Draws) : (d.ahead period).word = d.word := by
  have hblock : ((d.position + period) / 16).toUInt64 = (d.position / 16).toUInt64 := by
    rw [period, Nat.add_mul_div_left _ _ (by decide)]
    exact UInt64.toNat_inj.mp (by simp)
  have hplace : (d.position + period) % 16 = d.position % 16 := Nat.add_mul_mod_self_left _ _ _
  simp only [word, ahead, hblock, hplace]

variable {n k : Nat} {d : Draws}

theorem DecidedAt.next (h : d.DecidedAt n (k + 1)) : d.next.DecidedAt n k := by
  refine ⟨?_, fun j hj => ?_⟩
  · rw [ahead_next]
    exact h.1
  · rw [ahead_next]
    exact h.2 (j + 1) (Nat.succ_lt_succ hj)

/-- The stream repeats, so that no word is the first to decide that comes later. -/
theorem DecidedAt.lt_period (h : d.DecidedAt n k) : k < period := by
  by_contra hk
  obtain ⟨j, rfl⟩ := Nat.exists_eq_add_of_le' (Nat.not_lt.mp hk)
  have hword : (d.ahead (j + period)).word = (d.ahead j).word := by
    rw [← word_ahead_period (d.ahead j), ahead, ahead, ahead, Nat.add_assoc]
  exact h.2 j (Nat.lt_add_of_pos_right (by decide)) (hword ▸ h.1)

theorem firstBelow_of_decidedAt (hpos : 0 < n) (hn : n < 2 ^ 32) {tries : Nat} (hk : k < tries)
    (h : d.DecidedAt n k) :
    firstBelow n tries d = (index n (d.ahead k).word, d.ahead (k + 1)) := by
  induction tries generalizing d k with
  | zero => cases hk
  | succ tries ih =>
      cases k with
      | zero =>
          have hdecides := (decides_iff hpos hn d.word).mpr h.1
          simp only [firstBelow, hdecides, if_true]
          rfl
      | succ k =>
          have hrefuses : ¬decides n d.word.toNat = true := fun hdecides =>
            h.2 0 (Nat.succ_pos k) ((decides_iff hpos hn d.word).mp hdecides)
          simp only [firstBelow, hrefuses]
          rw [← ahead_next, ← ahead_next]
          exact ih (Nat.lt_of_succ_lt_succ hk) h.next

/-- The first deciding word gives the index, and the stream goes on behind it. -/
theorem below_of_decidedAt (hpos : 0 < n) (hn : n < 2 ^ 32) (h : d.DecidedAt n k) :
    d.below n = (index n (d.ahead k).word, d.ahead (k + 1)) :=
  firstBelow_of_decidedAt hpos hn h.lt_period h

end Draws

/-! ## Choices among items -/

theorem renderChoice_eq_emptyChoice_iff (items : List Element) (d : Draws) :
    (renderChoice (m := Rendering) items d).result = .error .emptyChoice ↔ items.length = 0 := by
  cases items with
  | nil => exact iff_of_true rfl rfl
  | cons item items => exact iff_of_false nofun nofun

theorem renderChoice_of_decidedAt {items : List Element} {d : Draws} {k : Nat}
    (hpos : 0 < items.length) (hn : items.length < 2 ^ 32) (h : d.DecidedAt items.length k) :
    ∃ item, items[Draws.index items.length (d.ahead k).word]? = some item ∧
      renderChoice (m := Rendering) items d = ⟨.ok item.contentMarkup, d.ahead (k + 1), []⟩ := by
  have hindex := Draws.index_lt hpos (d.ahead k).word
  have hbelow := Draws.below_of_decidedAt hpos hn h
  have hitem := List.getElem?_eq_getElem hindex
  refine ⟨_, hitem, ?_⟩
  cases items with
  | nil => cases hpos
  | cons c cs =>
      have hchoose : Rendering.choose (cs.length + 1) d =
          ⟨.ok (Draws.index (c :: cs).length (d.ahead k).word), d.ahead (k + 1), []⟩ := by
        rw [Rendering.choose, ← List.length_cons, hbelow]
      rw [renderChoice]
      refine (Rendering.bind_ok hchoose rfl).trans ?_
      rw [hitem]
      rfl

/-- A choice without items is a fault and draws nothing. Of `n` items it takes the one that the first
deciding word has the index of; no word has an index out of range, and for each index the same number of
words decides, two to the power of the leading zeros of `n`. -/
theorem renderNode_random_fair (consult : String → Rendering String)
    (attributes : List (String × String)) (children : List Node) :
    let items := Element.elementsNamed { name := "random", attributes, children } "li"
    let n := items.length
    let choice := renderNode consult (.element "random" attributes children)
    (∀ d, (choice d).result = .error .emptyChoice ↔ n = 0) ∧
      (n = 0 → ∀ d, choice d = ⟨.error .emptyChoice, d, []⟩) ∧
      (0 < n → n < 2 ^ 32 →
        (∀ v, Draws.Accepts n v → Draws.index n v < n) ∧
        (∀ i < n, (Finset.univ.filter fun v => Draws.Accepts n v ∧ Draws.index n v = i).card =
          2 ^ Draws.leadingZeros n) ∧
        ∀ d k, d.DecidedAt n k →
          ∃ item, items[Draws.index n (d.ahead k).word]? = some item ∧
            choice d = ⟨.ok item.contentMarkup, d.ahead (k + 1), []⟩) := by
  intro items n choice
  have hchoice : choice = renderChoice items := renderNode_random consult attributes children
  rw [hchoice]
  refine ⟨renderChoice_eq_emptyChoice_iff items, ?_, fun hpos hn => ⟨?_, ?_, ?_⟩⟩
  · intro hn d
    rw [List.eq_nil_of_length_eq_zero hn]
    rfl
  · exact fun v _ => Draws.index_lt hpos v
  · exact fun i hi => Draws.card_accepts_and_index hpos hn hi
  · exact fun d k h => renderChoice_of_decidedAt hpos hn h

/-- The first word from this seed is passed over, and the second falls on the second of three items. -/
theorem renderNode_random_fair_letters (consult : String → Rendering String) :
    let children : List Node := [.text "one of", .element "li" [] [.text "A"],
      .element "x" [] [.text "no item"], .element "li" [] [.text "B"], .element "li" [] [.text "C"]]
    let d := Draws.ofSeed 6
    (0 < 3 ∧ 3 < 2 ^ 32 ∧ d.DecidedAt 3 1) ∧
      renderNode consult (.element "random" [] children) d = ⟨.ok "B", d.ahead 2, []⟩ ∧
      (Finset.univ.filter fun v => Draws.Accepts 3 v ∧ Draws.index 3 v = 1).card = 2 ^ 30 := by
  intro children d
  have hdecided : d.DecidedAt 3 1 := by
    refine ⟨by decide +kernel, fun j hj => ?_⟩
    obtain rfl := Nat.lt_one_iff.mp hj
    decide +kernel
  have hindex : Draws.index 3 (d.ahead 1).word = 1 := by decide +kernel
  obtain ⟨-, -, hfair⟩ := renderNode_random_fair consult [] children
  obtain ⟨-, hcard, hrender⟩ := hfair (by decide) (by decide)
  obtain ⟨item, hitem, hchoice⟩ := hrender d 1 hdecided
  replace hitem : [_, _, _][Draws.index 3 (d.ahead 1).word]? = some item := hitem
  rw [hindex] at hitem
  cases hitem
  have hzeros : Draws.leadingZeros 3 = 30 := by decide
  have hwords : (Finset.univ.filter fun v => Draws.Accepts 3 v ∧ Draws.index 3 v = 1).card =
      2 ^ Draws.leadingZeros 3 := hcard 1 (by decide)
  rw [hzeros] at hwords
  exact ⟨⟨by decide, by decide, hdecided⟩, hchoice, hwords⟩

end Dialogue
