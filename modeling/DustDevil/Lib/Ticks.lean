import Mathlib.Algebra.Order.Ring.Int
import Mathlib.Data.List.Perm.Subperm
import Mathlib.Tactic.Linarith
import Mathlib.Tactic.Ring

/-!
# Consecutive multiples

Numbers at a fixed distance from each other up to a last one, which can be taken away and added at
both ends. They are the multiples of the distance between two bounds exactly if the first of them is
the first such multiple (`isWindow_ticks`, `first_of_isWindow`).
-/

namespace Wire

section Ticks

variable {step last t : ℤ} {n : ℕ}

/-- `n` numbers, each `step` after the one before, up to `last`. -/
def ticks (step last : ℤ) : ℕ → List ℤ
  | 0 => []
  | n + 1 => ticks step (last - step) n ++ [last]

theorem length_ticks (step last : ℤ) (n : ℕ) : (ticks step last n).length = n := by
  induction n generalizing last with
  | zero => rfl
  | succ n ih => rw [ticks, List.length_append, ih, List.length_singleton]

theorem ticks_succ (step last : ℤ) (n : ℕ) :
    ticks step last (n + 1) = (last - n * step) :: ticks step last n := by
  induction n generalizing last with
  | zero => simp [ticks]
  | succ n ih =>
    have hfirst : last - step - n * step = last - (n + 1 : ℕ) * step := by
      push_cast
      ring
    rw [ticks, ih, hfirst, ticks, List.cons_append]

theorem tail_ticks (step last : ℤ) (n : ℕ) :
    (ticks step last n).tail = ticks step last (n - 1) := by
  cases n with
  | zero => rfl
  | succ n => rw [ticks_succ, List.tail_cons, Nat.add_sub_cancel]

theorem dropLast_ticks (step last : ℤ) (n : ℕ) :
    (ticks step last n).dropLast = ticks step (last - step) (n - 1) := by
  cases n with
  | zero => rfl
  | succ n => rw [ticks, List.dropLast_concat, Nat.add_sub_cancel]

theorem getLast?_ticks (step last : ℤ) (hn : 0 < n) : (ticks step last n).getLast? = some last := by
  cases n with
  | zero => exact absurd hn (Nat.lt_irrefl 0)
  | succ n => rw [ticks, List.getLast?_concat]

theorem mem_ticks : t ∈ ticks step last n ↔ ∃ i < n, t = last - (i : ℕ) * step := by
  induction n with
  | zero => simp [ticks]
  | succ n ih =>
    rw [ticks_succ, List.mem_cons, ih]
    constructor
    · rintro (rfl | ⟨i, hi, rfl⟩)
      · exact ⟨n, Nat.lt_succ_self n, rfl⟩
      · exact ⟨i, Nat.lt_succ_of_lt hi, rfl⟩
    · rintro ⟨i, hi, rfl⟩
      obtain hi | rfl := Nat.lt_succ_iff_lt_or_eq.1 hi
      · exact .inr ⟨i, hi, rfl⟩
      · exact .inl rfl

/-- They are the multiples from the first of them on. -/
theorem mem_ticks_iff (hstep : 0 < step) (hlast : step ∣ last) :
    t ∈ ticks step last n ↔ last - n * step < t ∧ t ≤ last ∧ step ∣ t := by
  rw [mem_ticks]
  constructor
  · rintro ⟨i, hi, rfl⟩
    refine ⟨?_, ?_, Int.dvd_sub hlast (Int.dvd_mul_left _ step)⟩
    · have hlt : (i : ℤ) * step < n * step := by
        exact mul_lt_mul_of_pos_right (by exact_mod_cast hi) hstep
      linarith
    · have hnonneg : 0 ≤ (i : ℤ) * step := by positivity
      linarith
  · rintro ⟨hlt, hle, hdvd⟩
    obtain ⟨k, hk⟩ := Int.dvd_sub hlast hdvd
    have hk0 : 0 ≤ k := by
      by_contra hneg
      nlinarith
    have hkn : k < n := by
      by_contra hge
      nlinarith
    refine ⟨k.toNat, by omega, ?_⟩
    rw [Int.toNat_of_nonneg hk0]
    linarith

theorem pairwise_ticks (hstep : 0 < step) (last : ℤ) (n : ℕ) :
    (ticks step last n).Pairwise (· < ·) := by
  induction n generalizing last with
  | zero => exact .nil
  | succ n ih =>
    rw [ticks, List.pairwise_append]
    refine ⟨ih _, List.pairwise_singleton _ _, fun t ht s hs => ?_⟩
    obtain ⟨i, -, rfl⟩ := mem_ticks.1 ht
    rw [List.mem_singleton.1 hs]
    have hnonneg : 0 ≤ (i : ℤ) * step := by positivity
    linarith

/-- The first of `n` numbers up to `last`. -/
def firstTick (step last : ℤ) (n : ℕ) : ℤ := last - (n - 1) * step

theorem sub_mul_eq_firstTick (step last : ℤ) (n : ℕ) :
    last - n * step = firstTick step last n - step := by
  unfold firstTick
  ring

theorem firstTick_one (step last : ℤ) : firstTick step last 1 = last := by simp [firstTick]

theorem firstTick_le (hstep : 0 ≤ step) (hn : 0 < n) : firstTick step last n ≤ last := by
  have hn' : (1 : ℤ) ≤ n := by exact_mod_cast hn
  unfold firstTick
  nlinarith

theorem firstTick_succ (step last : ℤ) (n : ℕ) :
    firstTick step last (n + 1) = firstTick step last n - step := by
  unfold firstTick
  push_cast
  ring

theorem firstTick_add (step last : ℤ) (n : ℕ) :
    firstTick step (last + step) (n + 1) = firstTick step last n := by
  unfold firstTick
  push_cast
  ring

theorem dvd_firstTick (hlast : step ∣ last) (n : ℕ) : step ∣ firstTick step last n :=
  Int.dvd_sub hlast (Int.dvd_mul_left _ step)

/-- The multiples between two bounds, in order. -/
structure IsWindow (step oldest latest : ℤ) (ts : List ℤ) : Prop where
  pairwise : ts.Pairwise (· < ·)
  mem_iff : ∀ t, t ∈ ts ↔ oldest ≤ t ∧ t ≤ latest ∧ step ∣ t

variable {oldest latest : ℤ}

/-- Two multiples that are less than `step` apart are the same. -/
theorem le_of_lt_add_of_dvd {s t : ℤ} (hs : step ∣ s) (ht : step ∣ t) (h : s < t + step) :
    s ≤ t := by
  obtain ⟨k, rfl⟩ := hs
  obtain ⟨l, rfl⟩ := ht
  by_contra hlt
  have hstep : 0 < step := by linarith
  have hkl : k < l + 1 := by
    by_contra hge
    nlinarith
  have hlk : l < k := by
    by_contra hge
    nlinarith
  omega

theorem isWindow_ticks (hstep : 0 < step) (hlast : step ∣ last) (hle : last ≤ latest)
    (hlt : latest < last + step) (hoverlap : oldest ≤ firstTick step last n)
    (hfirst : firstTick step last n < oldest + step) :
    IsWindow step oldest latest (ticks step last n) := by
  refine ⟨pairwise_ticks hstep last n, fun t => ?_⟩
  rw [mem_ticks_iff hstep hlast, sub_mul_eq_firstTick]
  constructor
  · rintro ⟨hgt, htlast, hdvd⟩
    have hfirst' := le_of_lt_add_of_dvd (dvd_firstTick hlast n) hdvd (by linarith)
    exact ⟨by linarith, by linarith, hdvd⟩
  · rintro ⟨hge, htlatest, hdvd⟩
    exact ⟨by linarith, le_of_lt_add_of_dvd hdvd hlast (by linarith), hdvd⟩

theorem nodup_of_pairwise_lt {ts : List ℤ} (h : ts.Pairwise (· < ·)) : ts.Nodup :=
  h.imp fun hlt => hlt.ne

/-- Were the first one too early the window would be shorter, and were it too late it would be
longer. -/
theorem first_of_isWindow {ts : List ℤ} (hstep : 0 < step) (hlast : step ∣ last)
    (hle : last ≤ latest) (hlt : latest < last + step) (hn : 0 < n)
    (h : IsWindow step oldest latest ts) (hlength : ts.length = n) :
    oldest ≤ firstTick step last n ∧ firstTick step last n < oldest + step := by
  obtain ⟨m, rfl⟩ := Nat.exists_eq_succ_of_ne_zero hn.ne'
  have hfirst : last - m * step = firstTick step last (m + 1) := by
    unfold firstTick
    push_cast
    ring
  constructor
  · by_contra hearly
    have hsub : ts ⊆ ticks step last m := by
      intro t ht
      obtain ⟨hge, htlatest, hdvd⟩ := (h.mem_iff t).1 ht
      rw [mem_ticks_iff hstep hlast, hfirst]
      exact ⟨by linarith, le_of_lt_add_of_dvd hdvd hlast (by linarith), hdvd⟩
    have hle := ((nodup_of_pairwise_lt h.pairwise).subperm hsub).length_le
    rw [hlength, length_ticks] at hle
    omega
  · by_contra hlate
    have hsub : ticks step last (m + 2) ⊆ ts := by
      intro t ht
      rw [mem_ticks_iff hstep hlast, sub_mul_eq_firstTick] at ht
      obtain ⟨hgt, htlast, hdvd⟩ := ht
      rw [firstTick_succ] at hgt
      have hprevious := Int.dvd_sub (dvd_firstTick hlast (m + 1)) (Int.dvd_refl step)
      have hge := le_of_lt_add_of_dvd hprevious hdvd (by linarith)
      exact (h.mem_iff t).2 ⟨by linarith, by linarith, hdvd⟩
    have hle := ((nodup_of_pairwise_lt (pairwise_ticks hstep last (m + 2))).subperm hsub).length_le
    rw [hlength, length_ticks] at hle
    omega

end Ticks

section Rounding

variable {a step : ℤ}

/-- A division that rounds towards zero, back in multiples. -/
theorem tdiv_mul_of_nonneg (hstep : 0 < step) (ha : 0 ≤ a) :
    a - step < a.tdiv step * step ∧ a.tdiv step * step ≤ a := by
  rw [Int.tdiv_eq_ediv_of_nonneg ha]
  have hdiv := Int.ediv_mul_add_emod a step
  have hmod := Int.emod_lt_of_pos a hstep
  have hmod' := Int.emod_nonneg a hstep.ne'
  constructor <;> linarith

theorem tdiv_mul_of_nonpos (hstep : 0 < step) (ha : a ≤ 0) :
    a ≤ a.tdiv step * step ∧ a.tdiv step * step < a + step ∧ a.tdiv step * step ≤ 0 := by
  obtain ⟨hlt, hle⟩ := tdiv_mul_of_nonneg hstep (neg_nonneg.2 ha)
  have hnonneg : 0 ≤ (-a).tdiv step := Int.tdiv_nonneg (by linarith) hstep.le
  rw [Int.neg_tdiv] at hlt hle hnonneg
  refine ⟨by linarith, by linarith, ?_⟩
  exact mul_nonpos_of_nonpos_of_nonneg (by linarith) hstep.le

/-- Rounding up by such a division, which goes one multiple too far below zero. -/
theorem roundUp_of_lt (hstep : 0 < step) (ha : -step < a) :
    a ≤ (a + step - 1).tdiv step * step ∧ (a + step - 1).tdiv step * step < a + step := by
  obtain ⟨hlt, hle⟩ := tdiv_mul_of_nonneg hstep (show 0 ≤ a + step - 1 by linarith)
  constructor <;> linarith

theorem roundUp_of_le (hstep : 0 < step) (ha : a ≤ -step) :
    a + step - 1 ≤ (a + step - 1).tdiv step * step
      ∧ (a + step - 1).tdiv step * step < a + step - 1 + step
      ∧ (a + step - 1).tdiv step * step ≤ 0 :=
  tdiv_mul_of_nonpos hstep (by linarith)

theorem dvd_tdiv_mul (a step : ℤ) : step ∣ a.tdiv step * step := Int.dvd_mul_left _ step

/-- Rounded up, the first multiple from some time on is at most the latest one, and rounded up once
more below zero it is a multiple too late. -/
theorem min_roundUp_iff {last oldest : ℤ} (hstep : 0 < step) (hlast : 0 ≤ last) :
    (oldest ≤ min ((oldest + step - 1).tdiv step * step) last
        ∧ min ((oldest + step - 1).tdiv step * step) last < oldest + step)
      ↔ oldest ≤ last ∧ (-step < oldest ∨ step ∣ oldest - 1) := by
  have hdvd := dvd_tdiv_mul (oldest + step - 1) step
  by_cases hlt : -step < oldest
  · obtain ⟨hge, hlt'⟩ := roundUp_of_lt hstep hlt
    rw [le_min_iff, and_iff_left ((min_le_left _ _).trans_lt hlt'), and_iff_right hge,
      and_iff_left (.inl hlt)]
  · obtain ⟨hge, hlt', hle⟩ := roundUp_of_le hstep (not_lt.1 hlt)
    rw [min_eq_left (hle.trans hlast), or_iff_right hlt, and_iff_right (by linarith),
      and_iff_right (by linarith)]
    have heq : oldest + step - 1 = oldest - 1 + step := by ring
    constructor
    · intro hlt''
      have hfirst : (oldest + step - 1).tdiv step * step = oldest - 1 + step := by linarith
      rw [hfirst] at hdvd
      exact (Int.dvd_add_left (Int.dvd_refl step)).1 hdvd
    · intro hone
      have hle' := le_of_lt_add_of_dvd hdvd (Int.dvd_add hone (Int.dvd_refl step)) (heq ▸ hlt')
      linarith

end Rounding

end Wire
