import Mathlib.Algebra.BigOperators.Intervals
import Mathlib.Tactic.SplitIfs

/-!
# Filling a window around a block

A window on a sequence of blocks starts with one block and so much room on either side of it. It
takes in whole blocks, always on the side that has more room, until there is none or there are no
more blocks; where they end on one side, its room goes to the other.

What is in the window and the room that is left add up to what it starts with (`Around`). A side
into which a whole block went may have less room than none while the other one is not filled, and
then nothing is handed over any more if the blocks end. That is how it ends exactly if `CutShort`
(`fill_short_iff`).
-/

namespace Wire

/-- A window with the blocks from `lower` until `next`, and the room on either side of them. -/
structure Extent where
  lower : ℕ
  next : ℕ
  low : ℤ
  high : ℤ

namespace Extent

variable {n : ℕ → ℕ} {count i a : ℕ}

/-- There is room for more, and there are blocks that are not in the window. -/
def Lacking (count : ℕ) (e : Extent) : Prop :=
  (0 < e.low ∨ 0 < e.high) ∧ (0 < e.lower ∨ e.next < count)

instance (count : ℕ) (e : Extent) : Decidable (e.Lacking count) :=
  inferInstanceAs (Decidable (_ ∧ _))

/-- One round, where block `i` has the length `n i`. -/
def round (n : ℕ → ℕ) (count : ℕ) (e : Extent) : Extent :=
  if e.high < e.low then
    if e.lower = 0 then { e with low := 0, high := e.high + e.low }
    else { e with lower := e.lower - 1, low := e.low - n (e.lower - 1) }
  else if e.next = count then { e with low := e.low + e.high, high := 0 }
  else { e with next := e.next + 1, high := e.high - n e.next }

/-- The window that is filled, within so many rounds. -/
def fill (n : ℕ → ℕ) (count : ℕ) : ℕ → Extent → Option Extent
  | 0, _ => none
  | fuel + 1, e => if e.Lacking count then fill n count fuel (e.round n count) else some e

/-- Block `i` only, with the room for `a` more on its sides. -/
def center (i a : ℕ) : Extent := ⟨i, i + 1, (a / 2 : ℕ), ((a + 1) / 2 : ℕ)⟩

/-! ### Rounds -/

/-- What a round is. -/
inductive Round (n : ℕ → ℕ) (count : ℕ) : Extent → Extent → Prop where
  | handUp {next : ℕ} {low high : ℤ} (hnext : next < count) (hlow : 0 < low) (hlt : high < low) :
    Round n count ⟨0, next, low, high⟩ ⟨0, next, 0, high + low⟩
  | takeLower {lower next : ℕ} {low high : ℤ} (hlow : 0 < low) (hlt : high < low) :
    Round n count ⟨lower + 1, next, low, high⟩ ⟨lower, next, low - n lower, high⟩
  | handDown {lower : ℕ} {low high : ℤ} (hlower : 0 < lower) (hhigh : 0 < high)
    (hle : low ≤ high) : Round n count ⟨lower, count, low, high⟩ ⟨lower, count, low + high, 0⟩
  | takeHigher {lower next : ℕ} {low high : ℤ} (hnext : next ≠ count) (hhigh : 0 < high)
    (hle : low ≤ high) :
    Round n count ⟨lower, next, low, high⟩ ⟨lower, next + 1, low, high - n next⟩

theorem Lacking.round {e : Extent} (h : e.Lacking count) : Round n count e (e.round n count) := by
  obtain ⟨lower, next, low, high⟩ := e
  obtain ⟨hroom, hblocks⟩ := h
  simp only at hroom hblocks
  unfold Extent.round
  simp only
  split_ifs with hlt hlower hnext
  · subst hlower
    exact .handUp (by omega) (by omega) hlt
  · obtain ⟨lower, rfl⟩ := Nat.exists_eq_succ_of_ne_zero hlower
    exact .takeLower (by omega) hlt
  · subst hnext
    exact .handDown (by omega) (by omega) (by omega)
  · exact .takeHigher hnext (by omega) (by omega)

/-- What every round preserves holds of the window when it is filled. -/
theorem fill_keeps {I : Extent → Prop} (hI : ∀ e e', I e → Round n count e e' → I e') :
    ∀ {fuel : ℕ} {e e' : Extent}, I e → e.fill n count fuel = some e' →
      I e' ∧ ¬ e'.Lacking count
  | fuel + 1, e, e', he, h => by
    unfold fill at h
    split_ifs at h with hlacking
    · exact fill_keeps hI (hI e _ he hlacking.round) h
    · obtain rfl := Option.some.inj h
      exact ⟨he, hlacking⟩

/-! ### How many rounds it takes -/

/-- Twice the blocks that are not in the window, and one more where there is something to hand
over. -/
def measure (count : ℕ) (e : Extent) : ℕ :=
  2 * (e.lower + (count - e.next))
    + if (e.lower = 0 ∧ 0 < e.low) ∨ (e.next = count ∧ 0 < e.high) then 1 else 0

theorem Round.measure_lt {e e' : Extent} (hnext : e.next ≤ count) (h : Round n count e e') :
    e'.next ≤ count ∧ e'.measure count < e.measure count := by
  unfold Extent.measure
  cases h with
  | handUp hlt_count hlow hlt =>
    refine ⟨hnext, ?_⟩
    rw [if_neg (by simp; omega), if_pos (.inl ⟨rfl, hlow⟩)]
    simp
  | takeLower hlow hlt =>
    refine ⟨hnext, ?_⟩
    simp only
    split_ifs <;> omega
  | handDown hlower hhigh hle =>
    refine ⟨hnext, ?_⟩
    rw [if_neg (by simp; omega), if_pos (.inr ⟨rfl, hhigh⟩)]
    simp
  | takeHigher hne hhigh hle =>
    simp only at hnext ⊢
    refine ⟨by omega, ?_⟩
    split_ifs <;> omega

theorem exists_fill : ∀ {fuel : ℕ} {e : Extent}, e.next ≤ count → e.measure count < fuel →
    ∃ e', e.fill n count fuel = some e'
  | fuel + 1, e, hnext, h => by
    unfold fill
    split_ifs with hlacking
    · obtain ⟨hnext, hlt⟩ := (hlacking.round (n := n)).measure_lt hnext
      exact exists_fill hnext (by omega)
    · exact ⟨e, rfl⟩

theorem exists_fill_center (a : ℕ) (hi : i < count) :
    ∃ e, (center i a).fill n count (2 * count + 1) = some e := by
  refine exists_fill hi ?_
  unfold measure center
  simp only
  split_ifs <;> omega

/-! ### What is in the window -/

/-- The length of the blocks from `a` until `b`. -/
def total (n : ℕ → ℕ) (a b : ℕ) : ℕ := ∑ j ∈ Finset.Ico a b, n j

@[simp] theorem total_self (n : ℕ → ℕ) (a : ℕ) : total n a a = 0 := by simp [total]

theorem total_cons {a b : ℕ} (hab : a < b) : total n a b = n a + total n (a + 1) b :=
  Finset.sum_eq_sum_Ico_succ_bot hab n

theorem total_snoc {a b : ℕ} (hab : a ≤ b) : total n a (b + 1) = total n a b + n b :=
  Finset.sum_Ico_succ_top hab n

theorem total_append {a b c : ℕ} (hab : a ≤ b) (hbc : b ≤ c) :
    total n a b + total n b c = total n a c :=
  Finset.sum_Ico_consecutive n hab hbc

/-- What holds of a window around block `i` with room for `a` more. -/
structure Around (n : ℕ → ℕ) (count i a : ℕ) (e : Extent) : Prop where
  lower_le : e.lower ≤ i
  lt_next : i < e.next
  next_le : e.next ≤ count
  sum_eq : e.low + total n e.lower i + e.high + total n (i + 1) e.next = a
  low_nonneg : 0 ≤ e.low + total n e.lower i
  high_nonneg : 0 ≤ e.high + total n (i + 1) e.next
  /-- No block but the last one is too many on the lower side. -/
  neg_low_lt : 0 ≤ e.low ∨ -e.low < n e.lower

theorem around_center (a : ℕ) (hi : i < count) : Around n count i a (center i a) where
  lower_le := le_rfl
  lt_next := Nat.lt_succ_self i
  next_le := hi
  sum_eq := by simp only [center, total_self]; omega
  low_nonneg := by simp only [center]; omega
  high_nonneg := by simp only [center, total_self]; omega
  neg_low_lt := .inl (Int.natCast_nonneg _)

theorem Around.round {e e' : Extent} (h : Around n count i a e) (hround : Round n count e e') :
    Around n count i a e' := by
  obtain ⟨hlower, hi, hcount, hsum, hlow, hhigh, hneg⟩ := h
  cases hround with
  | handUp hnext hpos hlt =>
    exact ⟨hlower, hi, hcount, by simp only at *; omega, by simp only at *; omega,
      by simp only at *; omega, .inl le_rfl⟩
  | takeLower hpos hlt =>
    simp only at hlower hi hcount hsum hlow hhigh
    have htotal := total_cons (n := n) hlower
    exact ⟨by simp only; omega, hi, hcount, by simp only; omega, by simp only; omega, hhigh,
      .inr (by simp only; omega)⟩
  | handDown hpos hhigh' hle =>
    exact ⟨hlower, hi, hcount, by simp only at *; omega, by simp only at *; omega,
      by simp only at *; omega, by simp only at *; omega⟩
  | takeHigher hne hpos hle =>
    simp only at hlower hi hcount hsum hlow hhigh hneg
    have htotal := total_snoc (n := n) (a := i + 1) hi
    exact ⟨hlower, by simp only; omega, by simp only; omega, by simp only; omega, hlow,
      by simp only; omega, hneg⟩

/-! ### Where it falls short -/

/-- The room on either side is what it starts with, less what is in the window there. -/
def NothingHanded (n : ℕ → ℕ) (i a : ℕ) (e : Extent) : Prop :=
  e.low = (a / 2 : ℕ) - (total n e.lower i : ℤ)
    ∧ e.high = ((a + 1) / 2 : ℕ) - (total n (i + 1) e.next : ℤ)

/-- What comes before block `i` is too much for its half of the room and what comes after it too
little, but without the first block it is the lower side that has more room. -/
def CutShort (n : ℕ → ℕ) (count i a : ℕ) : Prop :=
  a / 2 < total n 0 i ∧ total n (i + 1) count < (a + 1) / 2
    ∧ (a + 1) / 2 + total n 1 i < a / 2 + total n (i + 1) count

instance (n : ℕ → ℕ) (count i a : ℕ) : Decidable (CutShort n count i a) :=
  inferInstanceAs (Decidable (_ ∧ _))

theorem NothingHanded.takeLower {lower next : ℕ} {low high : ℤ} (hlower : lower < i)
    (h : NothingHanded n i a ⟨lower + 1, next, low, high⟩) :
    NothingHanded n i a ⟨lower, next, low - n lower, high⟩ := by
  have htotal := total_cons (n := n) hlower
  obtain ⟨hlow, hhigh⟩ := h
  exact ⟨by simp only at *; omega, hhigh⟩

theorem NothingHanded.takeHigher {lower next : ℕ} {low high : ℤ} (hnext : i < next)
    (h : NothingHanded n i a ⟨lower, next, low, high⟩) :
    NothingHanded n i a ⟨lower, next + 1, low, high - n next⟩ := by
  have htotal := total_snoc (n := n) (a := i + 1) hnext
  obtain ⟨hlow, hhigh⟩ := h
  exact ⟨hlow, by simp only at *; omega⟩

theorem CutShort.round (hcut : CutShort n count i a) {e e' : Extent} (h : Around n count i a e)
    (hnothing : NothingHanded n i a e) (hround : Round n count e e') :
    NothingHanded n i a e' := by
  obtain ⟨hlower, hhigher, hmore⟩ := hcut
  cases hround with
  | handUp hnext hlow hlt =>
    obtain ⟨hlow', -⟩ := hnothing
    simp only at hlow'
    omega
  | takeLower hlow hlt => exact hnothing.takeLower h.lower_le
  | handDown hpos hhigh hle =>
    -- Without the first block there is more room on the lower side, and it is not in the window.
    obtain ⟨hlow', hhigh'⟩ := hnothing
    have happend := total_append (n := n) hpos h.lower_le
    simp only [Nat.succ_eq_add_one, zero_add] at hlow' hhigh' happend
    omega
  | takeHigher hne hhigh hle => exact hnothing.takeHigher h.lt_next

theorem nothingHanded_center (n : ℕ → ℕ) (i a : ℕ) : NothingHanded n i a (center i a) := by
  simp [NothingHanded, center]

theorem CutShort.of_fill (hcut : CutShort n count i a) (hi : i < count) {fuel : ℕ} {e : Extent}
    (h : (center i a).fill n count fuel = some e) : e.low < 0 ∧ 0 < e.high := by
  obtain ⟨⟨haround, hlow, hhigh⟩, hlacking⟩ :=
    fill_keeps (I := fun e => Around n count i a e ∧ NothingHanded n i a e)
      (fun _ _ he hround => ⟨he.1.round hround, hcut.round he.1 he.2 hround⟩)
      ⟨around_center a hi, nothingHanded_center n i a⟩ h
  have hnext := haround.next_le
  have happend := total_append (n := n) (a := i + 1) haround.lt_next hnext
  obtain ⟨hlower, hhigher, hmore⟩ := hcut
  have hpos : 0 < e.high := by omega
  obtain ⟨hlower0, hcount⟩ : e.lower = 0 ∧ ¬ e.next < count := by
    unfold Lacking at hlacking
    omega
  rw [hlower0] at hlow
  omega

/-- Something was handed over, or else when the lower side last took a block it had more room than
the higher side has. -/
def HandedOr (n : ℕ → ℕ) (count i a : ℕ) (e : Extent) : Prop :=
  (NothingHanded n i a e ∧ (e.lower < i → e.high < e.low + n e.lower))
    ∨ (e.lower = 0 ∧ e.low = 0) ∨ (e.next = count ∧ e.high = 0)

theorem HandedOr.round {e e' : Extent} (h : Around n count i a e) (hor : HandedOr n count i a e)
    (hround : Round n count e e') : HandedOr n count i a e' := by
  cases hround with
  | handUp hnext hlow hlt => exact .inr (.inl ⟨rfl, rfl⟩)
  | takeLower hlow hlt =>
    obtain ⟨hnothing, -⟩ | ⟨hlower, -⟩ | hnext := hor
    · refine .inl ⟨hnothing.takeLower h.lower_le, fun _ => ?_⟩
      simp only
      omega
    · simp at hlower
    · exact .inr (.inr hnext)
  | handDown hpos hhigh hle => exact .inr (.inr ⟨rfl, rfl⟩)
  | takeHigher hne hhigh hle =>
    obtain ⟨hnothing, hlt⟩ | hlower | ⟨hnext, -⟩ := hor
    · refine .inl ⟨hnothing.takeHigher h.lt_next, fun hlower => ?_⟩
      have hlt := hlt hlower
      simp only at hlt ⊢
      omega
    · exact .inr (.inl hlower)
    · exact absurd hnext hne

theorem cutShort_of_fill (hi : i < count) {fuel : ℕ} {e : Extent}
    (h : (center i a).fill n count fuel = some e) (hlow : e.low < 0) (hhigh : 0 < e.high) :
    CutShort n count i a := by
  have hstart : HandedOr n count i a (center i a) :=
    .inl ⟨nothingHanded_center n i a, fun hlt => absurd hlt (lt_irrefl i)⟩
  obtain ⟨⟨haround, hor⟩, hlacking⟩ :=
    fill_keeps (I := fun e => Around n count i a e ∧ HandedOr n count i a e)
      (fun _ _ he hround => ⟨he.1.round hround, he.2.round he.1 hround⟩)
      ⟨around_center a hi, hstart⟩ h
  have hle := haround.next_le
  obtain ⟨hlower, hnext⟩ : e.lower = 0 ∧ e.next = count := by
    unfold Lacking at hlacking
    omega
  obtain ⟨⟨hlow', hhigh'⟩, hlt⟩ | ⟨-, hzero⟩ | ⟨-, hzero⟩ := hor
  · rw [hlower] at hlow' hlt
    rw [hnext] at hhigh'
    have hpos : 0 < i := by
      refine Nat.pos_of_ne_zero fun hi0 => ?_
      rw [hi0, total_self] at hlow'
      omega
    have htotal := total_cons (n := n) hpos
    have hlt := hlt hpos
    rw [zero_add] at htotal
    exact ⟨by omega, by omega, by omega⟩
  · omega
  · omega

theorem fill_short_iff (hi : i < count) {fuel : ℕ} {e : Extent}
    (h : (center i a).fill n count fuel = some e) :
    (e.low < 0 ∧ 0 < e.high) ↔ CutShort n count i a :=
  ⟨fun hshort => cutShort_of_fill hi h hshort.1 hshort.2, fun hcut => hcut.of_fill hi h⟩

/-- What a window around block `i` has when it is filled. -/
theorem around_of_fill (hi : i < count) {fuel : ℕ} {e : Extent}
    (h : (center i a).fill n count fuel = some e) :
    Around n count i a e ∧ ¬ e.Lacking count :=
  fill_keeps (fun _ _ he hround => he.round hround) (around_center a hi) h

/-! ### What of it is shown -/

/-- How much of the first block is left out, as it is too much for the lower side. -/
def skipped (e : Extent) : ℕ := (-e.low).toNat

section Shown

variable {e : Extent} {h : ℕ}

theorem Around.skipped_le (haround : Around n count i a e) : e.skipped ≤ total n e.lower i := by
  have hlow := haround.low_nonneg
  unfold skipped
  omega

theorem Around.skipped_lt (haround : Around n count i a e) (hpos : 0 < n e.lower) :
    e.skipped < n e.lower := by
  have hneg := haround.neg_low_lt
  unfold skipped
  omega

/-- Block `i` is not left out. -/
theorem Around.start_le (haround : Around n count i a e) :
    total n 0 e.lower + e.skipped ≤ total n 0 i := by
  have hskipped := haround.skipped_le
  have happend := total_append (n := n) (Nat.zero_le e.lower) haround.lower_le
  omega

/-- What comes before block `i` leaves room for it. -/
theorem Around.lt_end (haround : Around n count i a e) (ha : a < h) :
    total n 0 i < total n 0 e.lower + e.skipped + h := by
  have happend := total_append (n := n) (Nat.zero_le e.lower) haround.lower_le
  obtain ⟨-, -, -, hsum, hlow, hhigh, -⟩ := haround
  unfold skipped
  omega

theorem Around.total_eq (haround : Around n count i a e) :
    total n e.lower e.next = total n e.lower i + n i + total n (i + 1) e.next := by
  have happend := total_append (n := n) haround.lower_le haround.lt_next.le
  have hcons := total_cons (n := n) haround.lt_next
  omega

/-- Either no blocks are left after the window, or it has all that is shown. -/
theorem Around.filled (haround : Around n count i (h - n i) e) (hlacking : ¬ e.Lacking count) :
    e.next = count ∨ e.skipped + h ≤ total n e.lower e.next := by
  have htotal := haround.total_eq
  obtain ⟨-, -, hnext, hsum, -, -, -⟩ := haround
  unfold Lacking at hlacking
  unfold skipped
  omega

/-- So much as there is room for is shown, or everything, unless it falls short. -/
theorem Around.window_le_iff (haround : Around n count i (h - n i) e)
    (hlacking : ¬ e.Lacking count) :
    total n 0 e.lower + e.skipped + min h (total n 0 count) ≤ total n 0 count
      ↔ ¬ (e.low < 0 ∧ 0 < e.high) := by
  have htotal := haround.total_eq
  have hlower := total_append (n := n) (Nat.zero_le e.lower)
    (haround.lower_le.trans haround.lt_next.le)
  have hnext := total_append (n := n) (Nat.zero_le e.next) haround.next_le
  have hzero : e.lower = 0 → total n 0 e.lower = 0 := fun h => by rw [h, total_self]
  have hcount : e.next = count → total n e.next count = 0 := fun h => by rw [h, total_self]
  obtain ⟨-, -, hle, hsum, hlow, hhigh, -⟩ := haround
  unfold Lacking at hlacking
  unfold skipped
  constructor
  · rintro hwindow ⟨hlt, hpos⟩
    -- Room is left on the higher side, so there are no more blocks.
    obtain ⟨hlower0, hnext0⟩ : e.lower = 0 ∧ e.next = count := by omega
    have h0 := hzero hlower0
    have h1 := hcount hnext0
    omega
  · intro hshort
    by_cases hroom : 0 < e.low ∨ 0 < e.high
    · obtain ⟨hlower0, hnext0⟩ : e.lower = 0 ∧ e.next = count := by omega
      have h0 := hzero hlower0
      omega
    · omega

end Shown

end Extent

end Wire
