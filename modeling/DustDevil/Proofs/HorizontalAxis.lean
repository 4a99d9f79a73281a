import DustDevil.Client.UsageGraph
import DustDevil.Lib.Steps
import DustDevil.Lib.Ticks
import DustDevil.Proofs.LongListRender

/-!
# The labels of the horizontal axis

Whatever was rendered before, the labels are at multiples of what the precision says. Those that are
kept are just the visible ones exactly if there is one at all, the visible time does not go back to
before 1970, and no sum overflows (`render_shows_iff`).
-/

namespace DustDevil

open Wire

variable {ε : Type}

namespace HorizontalAxis

/-! ## The deque -/

section Deque

variable (text : ℤ → Str) {step : ℕ}

theorem rewriteLabels_eq (step n : ℕ) (last : ℤ) (written : List Str) :
    rewriteLabels text step n last written = (ticks step last n).map text ++ written := by
  induction n generalizing last written with
  | zero => rfl
  | succ n ih =>
    rw [rewriteLabels, ih, ticks, List.map_append, List.append_assoc]
    rfl

theorem removeTooOld_ticks (hstep : 0 < step) (oldest last : ℤ) (n : ℕ) :
    ∃ m, removeTooOld hstep oldest (firstTick step last n) ((ticks step last n).map text)
        = (ticks step last m).map text
      ∧ (0 < m → oldest ≤ firstTick step last m) := by
  generalize hlabels : (ticks step last n).map text = labels
  generalize hcurrent : firstTick step last n = current
  -- Once there are no labels left the loop goes on without taking any.
  replace hcurrent : 0 < n → firstTick step last n = current := fun _ => hcurrent
  fun_induction removeTooOld hstep oldest current labels generalizing n with
  | case1 current labels hlt ih =>
    refine ih (n - 1) ?_ fun hn => ?_
    · rw [← hlabels, ← List.map_tail, tail_ticks]
    · obtain ⟨m, rfl⟩ := Nat.exists_eq_succ_of_ne_zero (show n ≠ 0 by omega)
      rw [← hcurrent (by omega), firstTick_succ, Nat.succ_sub_one]
      ring
  | case2 current labels hge =>
    exact ⟨n, hlabels.symm, fun hn => (not_lt.1 hge).trans_eq (hcurrent hn).symm⟩

theorem removeTooNew_ticks (hstep : 0 < step) (latest last : ℤ) (n : ℕ) :
    ∃ m last', removeTooNew hstep latest last ((ticks step last n).map text)
        = (last', (ticks step last' m).map text)
      ∧ (step : ℤ) ∣ last - last' ∧ last' ≤ latest
      ∧ (0 < m → 0 < n ∧ firstTick step last' m = firstTick step last n) := by
  generalize hlabels : (ticks step last n).map text = labels
  fun_induction removeTooNew hstep latest last labels generalizing n with
  | case1 last labels hlt ih =>
    obtain ⟨m, last', heq, hdvd, hle, hfirst⟩ := ih (n - 1) (by
      rw [← hlabels, ← List.map_dropLast, dropLast_ticks])
    refine ⟨m, last', heq, ?_, hle, fun hm => ?_⟩
    · rw [show last - last' = last - step - last' + step by ring]
      exact Int.dvd_add hdvd (Int.dvd_refl _)
    · obtain ⟨hn, hfirst⟩ := hfirst hm
      obtain ⟨k, rfl⟩ := Nat.exists_eq_succ_of_ne_zero (show n ≠ 0 by omega)
      refine ⟨Nat.succ_pos k, hfirst.trans ?_⟩
      rw [Nat.succ_sub_one, ← firstTick_add, sub_add_cancel]
  | case2 last labels hge =>
    refine ⟨n, last, by rw [hlabels], by simp, not_lt.1 hge, fun hn => ⟨hn, rfl⟩⟩

theorem addMissingOld_ticks (hstep : 0 < step) {oldest last : ℤ} {n : ℕ} (hn : 0 < n)
    (hdvd : (step : ℤ) ∣ last - oldest) :
    ∃ m, 0 < m
      ∧ addMissingOld text hstep oldest (firstTick step last n) ((ticks step last n).map text)
        = (ticks step last m).map text
      ∧ firstTick step last m = min oldest (firstTick step last n) := by
  generalize hlabels : (ticks step last n).map text = labels
  generalize hcurrent : firstTick step last n = current
  fun_induction addMissingOld text hstep oldest current labels generalizing n with
  | case1 current labels hlt ih =>
    have hle : (step : ℤ) ≤ current - oldest := by
      refine Int.le_of_dvd (sub_pos.2 hlt) ?_
      rw [← hcurrent, firstTick, sub_right_comm]
      exact Int.dvd_sub hdvd (Int.dvd_mul_left _ _)
    obtain ⟨m, hm, heq, hfirst⟩ := ih (Nat.succ_pos n)
      (by rw [ticks_succ, List.map_cons, hlabels, sub_mul_eq_firstTick, hcurrent])
      (by rw [firstTick_succ, hcurrent])
    refine ⟨m, hm, heq, hfirst.trans ?_⟩
    rw [min_eq_left (by linarith), min_eq_left hlt.le]
  | case2 current labels hge =>
    exact ⟨n, hn, hlabels.symm, hcurrent.trans (min_eq_right (not_lt.1 hge)).symm⟩

theorem addMissingNew_ticks (hstep : 0 < step) {latest last : ℤ} {n : ℕ} (hn : 0 < n)
    (hdvd : (step : ℤ) ∣ latest - last) (hle : last ≤ latest) :
    ∃ m, 0 < m
      ∧ addMissingNew text hstep latest last ((ticks step last n).map text)
        = (latest, (ticks step latest m).map text)
      ∧ firstTick step latest m = firstTick step last n := by
  generalize hlabels : (ticks step last n).map text = labels
  fun_induction addMissingNew text hstep latest last labels generalizing n with
  | case1 last labels hlt ih =>
    have hle' : (step : ℤ) ≤ latest - last := Int.le_of_dvd (sub_pos.2 hlt) hdvd
    obtain ⟨m, hm, heq, hfirst⟩ := ih (Nat.succ_pos n)
      (by rw [← sub_sub]; exact Int.dvd_sub hdvd (Int.dvd_refl _)) (by linarith)
      (by rw [ticks, add_sub_cancel_right, List.map_append, hlabels]; rfl)
    exact ⟨m, hm, heq, hfirst.trans (firstTick_add _ _ n)⟩
  | case2 last labels hge =>
    obtain rfl : last = latest := le_antisymm hle (not_lt.1 hge)
    exact ⟨n, hn, by rw [hlabels], rfl⟩

end Deque

/-! ## The cache -/

section Cache

variable (localTime : LocalTime) (axis : HorizontalAxis)

/-- The labels up to a multiple, as many as there are. -/
def Labelled (last : ℤ) (n : ℕ) (labels : List Str) : Prop :=
  (axis.values.labelsOnMultiplesOf : ℤ) ∣ last
    ∧ labels = (ticks axis.values.labelsOnMultiplesOf last n).map (axis.labelText localTime)

/-- What every render keeps. -/
def Consecutive : Prop :=
  ∃ n, axis.Labelled localTime axis.latestLabelTimestamp n axis.labelStrings

variable {localTime axis} {oldest latest : ℤ}

theorem removeOutside_spec (h : axis.Consecutive localTime) (oldest latest : ℤ) :
    ∃ m last, axis.Labelled localTime last m (axis.removeOutside oldest latest).2
      ∧ (axis.removeOutside oldest latest).1 = last
      ∧ (0 < m → last ≤ latest ∧ oldest ≤ firstTick axis.values.labelsOnMultiplesOf last m) := by
  obtain ⟨n, hdvd, hlabels⟩ := h
  unfold removeOutside
  by_cases hempty : axis.labelStrings = []
  · rw [if_pos hempty]
    exact ⟨0, _, ⟨hdvd, rfl⟩, rfl, fun hm => absurd hm (Nat.lt_irrefl 0)⟩
  · rw [if_neg hempty, hlabels, List.length_map, length_ticks]
    obtain ⟨k, hk, hold⟩ := removeTooOld_ticks (axis.labelText localTime)
      axis.labelsOnMultiplesOf_pos oldest axis.latestLabelTimestamp n
    obtain ⟨m, last, hm, hdvd', hle, hfirst⟩ := removeTooNew_ticks (axis.labelText localTime)
      axis.labelsOnMultiplesOf_pos latest axis.latestLabelTimestamp k
    rw [firstTick] at hk
    rw [hk, hm]
    refine ⟨m, last, ⟨?_, rfl⟩, rfl, fun hpos => ⟨hle, ?_⟩⟩
    · exact (Int.dvd_iff_dvd_of_dvd_sub hdvd').1 hdvd
    · obtain ⟨hk, hfirst⟩ := hfirst hpos
      exact (hold hk).trans_eq hfirst.symm

/-- Where no label stays there is the latest one. -/
theorem labelled_of_removed {m : ℕ} {last : ℤ} {labels : List Str}
    (h : axis.Labelled localTime last m labels)
    (hrange : 0 < m → last ≤ latest ∧ oldest ≤ firstTick axis.values.labelsOnMultiplesOf last m)
    (hlatest : (axis.values.labelsOnMultiplesOf : ℤ) ∣ latest) :
    ∃ m' last' labels', 0 < m'
      ∧ (if labels = [] then (latest, [axis.labelText localTime latest]) else (last, labels))
        = (last', labels')
      ∧ axis.Labelled localTime last' m' labels' ∧ last' ≤ latest
      ∧ min oldest (firstTick axis.values.labelsOnMultiplesOf last' m') = min oldest latest := by
  obtain ⟨hdvd, rfl⟩ := h
  rcases Nat.eq_zero_or_pos m with rfl | hm
  · exact ⟨1, latest, _, Nat.one_pos, if_pos rfl, ⟨hlatest, rfl⟩, le_rfl, by rw [firstTick_one]⟩
  · obtain ⟨hle, hold⟩ := hrange hm
    have hne : (ticks axis.values.labelsOnMultiplesOf last m).map
        (axis.labelText localTime) ≠ [] := by
      rw [← List.length_pos_iff, List.length_map, length_ticks]
      exact hm
    refine ⟨m, last, _, hm, if_neg hne, ⟨hdvd, rfl⟩, hle, ?_⟩
    have hfirst : firstTick axis.values.labelsOnMultiplesOf last m ≤ last :=
      firstTick_le (by positivity) hm
    rw [min_eq_left hold, min_eq_left (hold.trans (hfirst.trans hle))]

/-- After it the labels are those from the oldest to the latest, or there is just the latest. -/
theorem ensureHasLabels_spec (h : axis.Consecutive localTime)
    (holdest : (axis.values.labelsOnMultiplesOf : ℤ) ∣ oldest)
    (hlatest : (axis.values.labelsOnMultiplesOf : ℤ) ∣ latest) :
    ∃ m, 0 < m
      ∧ axis.Labelled localTime latest m (axis.ensureHasLabels localTime oldest latest).labelStrings
      ∧ (axis.ensureHasLabels localTime oldest latest).latestLabelTimestamp = latest
      ∧ firstTick axis.values.labelsOnMultiplesOf latest m = min oldest latest := by
  obtain ⟨m1, last1, hlabelled1, rfl, hrange⟩ := removeOutside_spec h oldest latest
  obtain ⟨m2, last2, labels2, hm2, hstay, ⟨hdvd2, rfl⟩, hle, hmin⟩ :=
    labelled_of_removed hlabelled1 hrange hlatest
  obtain ⟨m3, hm3, hold, hfirst3⟩ := addMissingOld_ticks (axis.labelText localTime)
    axis.labelsOnMultiplesOf_pos hm2 (Int.dvd_sub hdvd2 holdest)
  obtain ⟨m4, hm4, hnew, hfirst4⟩ := addMissingNew_ticks (axis.labelText localTime)
    axis.labelsOnMultiplesOf_pos hm3 (Int.dvd_sub hlatest hdvd2) hle
  have heq : axis.ensureHasLabels localTime oldest latest = { axis with
      labelStrings :=
        (ticks axis.values.labelsOnMultiplesOf latest m4).map (axis.labelText localTime)
      latestLabelTimestamp := latest } := by
    rw [firstTick] at hold
    simp only [ensureHasLabels]
    rw [hstay]
    simp only [List.length_map, length_ticks, hold, hnew]
  rw [heq]
  exact ⟨m4, hm4, ⟨hlatest, rfl⟩, rfl, by rw [hfirst4, hfirst3, hmin]⟩

theorem recalculateIfNeeded_spec (h : axis.Consecutive localTime)
    (precisionOption : GraphPrecisionOption) (latestTimestamp : ℤ) :
    (axis.recalculateIfNeeded localTime precisionOption latestTimestamp).Consecutive localTime
      ∧ (axis.recalculateIfNeeded localTime precisionOption latestTimestamp).values
        = precisionOption.getValues := by
  unfold recalculateIfNeeded
  split_ifs with hsame
  · exact ⟨h, hsame ▸ axis.values_eq⟩
  · refine ⟨⟨axis.labelStrings.length, dvd_tdiv_mul _ _, ?_⟩, rfl⟩
    simp only [rewriteLabels_eq, List.append_nil]
    rfl

end Cache

/-! ## A render -/

section Render

variable (values : PrecisionValues) (width : ℕ) (latestTimestamp : ℤ)

/-- `oldest_char_timestamp`. -/
def oldestChar : ℤ :=
  (latestTimestamp - values.unitSizeSeconds).tdiv values.unitSizeSeconds * values.unitSizeSeconds
    - (width - 11) * values.unitSizeSeconds

def oldestLabel : ℤ :=
  (oldestChar values width latestTimestamp + values.labelsOnMultiplesOf - 1).tdiv
    values.labelsOnMultiplesOf * values.labelsOnMultiplesOf

def latestLabel : ℤ :=
  latestTimestamp.tdiv values.labelsOnMultiplesOf * values.labelsOnMultiplesOf

/-- `oldest_char_timestamp + labels_on_multiples_of` does not overflow. -/
def SumFits : Prop :=
  -2 ^ 63 ≤ oldestChar values width latestTimestamp + values.labelsOnMultiplesOf
    ∧ oldestChar values width latestTimestamp + values.labelsOnMultiplesOf < 2 ^ 63

instance : Decidable (SumFits values width latestTimestamp) :=
  inferInstanceAs (Decidable (_ ∧ _))

/-- `latest_label_offset`. -/
def latestOffset : ℕ :=
  ((latestTimestamp - latestLabel values latestTimestamp).tdiv values.unitSizeSeconds
    % 2 ^ 16).toNat

/-- The line of the axis and the labels under it. -/
def drawnAxis (area : Rect) (labels : List Str) : List (Drawn Str) :=
  (.cell (area.x + area.width - 1) area.y
      (axisChar ((latestTimestamp - values.unitSizeSeconds).tdiv values.unitSizeSeconds
        * values.unitSizeSeconds + values.unitSizeSeconds) values.markersOnMultiplesOf) ::
    (List.range (area.width - 11)).map fun i =>
      .cell (area.x + area.width - 1 - 1 - i) area.y
        (axisChar ((latestTimestamp - values.unitSizeSeconds).tdiv values.unitSizeSeconds
          * values.unitSizeSeconds - i * values.unitSizeSeconds) values.markersOnMultiplesOf))
  ++ drawLabels (area.x + area.width) (area.y + 1)
    (values.labelsOnMultiplesOf / values.unitSizeSeconds % 2 ^ 16) labels.reverse
    (area.x + area.width - 1 - latestOffset values latestTimestamp)

variable {localTime : LocalTime} {axis : HorizontalAxis} {area : Rect}
  {precisionOption : GraphPrecisionOption} {latestTimestamp}

/-- The cache after a render. -/
def rendered (localTime : LocalTime) (axis : HorizontalAxis)
    (precisionOption : GraphPrecisionOption) (width : ℕ) (latestTimestamp : ℤ) : HorizontalAxis :=
  (axis.recalculateIfNeeded localTime precisionOption latestTimestamp).ensureHasLabels localTime
    (oldestLabel precisionOption.getValues width latestTimestamp)
    (latestLabel precisionOption.getValues latestTimestamp)

theorem rendered_spec (h : axis.Consecutive localTime) (precisionOption : GraphPrecisionOption)
    (width : ℕ) (latestTimestamp : ℤ) :
    (axis.rendered localTime precisionOption width latestTimestamp).values
        = precisionOption.getValues
      ∧ (axis.rendered localTime precisionOption width latestTimestamp).latestLabelTimestamp
        = latestLabel precisionOption.getValues latestTimestamp
      ∧ ∃ n, 0 < n
        ∧ (axis.rendered localTime precisionOption width latestTimestamp).labelStrings
          = (ticks precisionOption.getValues.labelsOnMultiplesOf
            (latestLabel precisionOption.getValues latestTimestamp) n).map
              ((axis.rendered localTime precisionOption width latestTimestamp).labelText localTime)
        ∧ firstTick precisionOption.getValues.labelsOnMultiplesOf
            (latestLabel precisionOption.getValues latestTimestamp) n
          = min (oldestLabel precisionOption.getValues width latestTimestamp)
            (latestLabel precisionOption.getValues latestTimestamp) := by
  obtain ⟨hconsecutive, hvalues⟩ := recalculateIfNeeded_spec h precisionOption latestTimestamp
  obtain ⟨n, hn, ⟨-, hlabels⟩, hlatest, hfirst⟩ := ensureHasLabels_spec hconsecutive
    (hvalues ▸ dvd_tdiv_mul _ _ : _ ∣ oldestLabel precisionOption.getValues width latestTimestamp)
    (hvalues ▸ dvd_tdiv_mul _ _ : _ ∣ latestLabel precisionOption.getValues latestTimestamp)
  rw [hvalues] at hlabels hfirst
  exact ⟨hvalues, hlatest, n, hn, hlabels, hfirst⟩

/-- A render panics where the sum for the oldest label overflows and where the latest label is to
the left of the screen. -/
theorem render_eq (h : axis.Consecutive localTime) (hwidth : 11 ≤ area.width) :
    (axis.render localTime latestTimestamp precisionOption area :
        Except (Stop ε) (List (Drawn Str) × HorizontalAxis))
      = if SumFits precisionOption.getValues area.width latestTimestamp
          ∧ latestOffset precisionOption.getValues latestTimestamp ≤ area.x + area.width - 1 then
        let axis' := axis.rendered localTime precisionOption area.width latestTimestamp
        .ok (drawnAxis precisionOption.getValues latestTimestamp area axis'.labelStrings, axis')
      else .error .panic := by
  obtain ⟨-, hvalues⟩ := recalculateIfNeeded_spec h precisionOption latestTimestamp
  have hright : 1 ≤ area.x + area.width := by omega
  unfold render
  simp only [hvalues, LongList.checkedSub_ok hright, LongList.checkedSub_ok hwidth]
  show Except.bind (checkedI64 (oldestChar precisionOption.getValues area.width latestTimestamp
    + precisionOption.getValues.labelsOnMultiplesOf)) (fun sum => _) = _
  have hchecked : (checkedI64 (oldestChar precisionOption.getValues area.width latestTimestamp
      + precisionOption.getValues.labelsOnMultiplesOf) : Except (Stop ε) ℤ)
        = if SumFits precisionOption.getValues area.width latestTimestamp then
          .ok (oldestChar precisionOption.getValues area.width latestTimestamp
            + precisionOption.getValues.labelsOnMultiplesOf) else .error .panic := rfl
  rw [hchecked]
  by_cases hsum : SumFits precisionOption.getValues area.width latestTimestamp
  · rw [if_pos hsum]
    show Except.bind (LongList.checkedSub (area.x + area.width - 1)
      (latestOffset precisionOption.getValues latestTimestamp)) (fun latestLabelX => _) = _
    by_cases hx : latestOffset precisionOption.getValues latestTimestamp
        ≤ area.x + area.width - 1
    · rw [LongList.checkedSub_ok hx, if_pos ⟨hsum, hx⟩]
      rfl
    · rw [if_neg fun h => hx h.2, LongList.checkedSub, if_neg hx]
      rfl
  · rw [if_neg hsum, if_neg fun h => hsum h.1]
    rfl

end Render

/-! ## What is visible -/

section Visible

/-- What there is to know of the values of a precision. -/
structure Sensible (values : PrecisionValues) : Prop where
  unit_pos : 0 < values.unitSizeSeconds
  unit_dvd : values.unitSizeSeconds ∣ values.labelsOnMultiplesOf
  labels_pos : 0 < values.labelsOnMultiplesOf
  labels_lt : values.labelsOnMultiplesOf < 2 ^ 16

theorem sensible_getValues (precisionOption : GraphPrecisionOption) :
    Sensible precisionOption.getValues := by
  cases precisionOption <;> exact ⟨by decide, by decide, by decide, by decide⟩

variable {values : PrecisionValues} {width : ℕ} {latest : ℤ}

/-- The time at the column where the axes cross. -/
def oldestVisible (values : PrecisionValues) (width : ℕ) (latest : ℤ) : ℤ :=
  latest / values.unitSizeSeconds * values.unitSizeSeconds - (width - 10) * values.unitSizeSeconds

/-- In the first unit after 1970 the division rounds up. -/
theorem oldestChar_eq (h : Sensible values) (hlatest : 0 < latest) :
    oldestChar values width latest = oldestVisible values width latest
      + if latest < values.unitSizeSeconds then (values.unitSizeSeconds : ℤ) else 0 := by
  have hunit : (0 : ℤ) < values.unitSizeSeconds := by exact_mod_cast h.unit_pos
  unfold oldestChar oldestVisible
  split_ifs with hlt
  · have hdiv : latest / values.unitSizeSeconds = 0 := Int.ediv_eq_zero_of_lt hlatest.le hlt
    have htdiv : (latest - values.unitSizeSeconds).tdiv values.unitSizeSeconds = 0 := by
      have hneg : latest - values.unitSizeSeconds = -(values.unitSizeSeconds - latest) := by ring
      rw [hneg, Int.neg_tdiv, Int.tdiv_eq_zero_of_lt (by linarith) (by linarith), neg_zero]
    rw [hdiv, htdiv]
    ring
  · have htdiv : (latest - values.unitSizeSeconds).tdiv values.unitSizeSeconds
        = latest / values.unitSizeSeconds - 1 := by
      rw [Int.tdiv_eq_ediv_of_nonneg (by linarith), Int.sub_ediv_of_dvd _ (Int.dvd_refl _),
        Int.ediv_self hunit.ne']
    rw [htdiv]
    ring

theorem latestLabel_spec (h : Sensible values) (hlatest : 0 < latest) :
    latestLabel values latest ≤ latest
      ∧ latest < latestLabel values latest + values.labelsOnMultiplesOf
      ∧ 0 ≤ latestLabel values latest := by
  have hstep : (0 : ℤ) < values.labelsOnMultiplesOf := by exact_mod_cast h.labels_pos
  obtain ⟨hlt, hle⟩ := tdiv_mul_of_nonneg hstep hlatest.le
  refine ⟨hle, by unfold latestLabel; linarith, ?_⟩
  exact mul_nonneg (Int.tdiv_nonneg hlatest.le hstep.le) hstep.le

theorem exists_visible_iff (h : Sensible values) (hlatest : 0 < latest) {oldest : ℤ} :
    (∃ t, oldest ≤ t ∧ t ≤ latest ∧ (values.labelsOnMultiplesOf : ℤ) ∣ t)
      ↔ oldest ≤ latestLabel values latest := by
  obtain ⟨hle, hlt, -⟩ := latestLabel_spec h hlatest
  constructor
  · rintro ⟨t, hge, htle, hdvd⟩
    exact hge.trans (le_of_lt_add_of_dvd hdvd (dvd_tdiv_mul _ _) (htle.trans_lt hlt))
  · exact fun hge => ⟨_, hge, hle, dvd_tdiv_mul _ _⟩

/-- In the first unit the oldest label is at zero, or already too late. -/
theorem oldestLabel_of_lt_unit (h : Sensible values) (hwidth : 11 ≤ width) (hlatest : 0 < latest)
    (hlt : latest < values.unitSizeSeconds) :
    latestLabel values latest = 0 ∧ oldestVisible values width latest ≤ 0
      ∧ (-values.labelsOnMultiplesOf < oldestVisible values width latest →
        oldestLabel values width latest = 0)
      ∧ (oldestVisible values width latest ≤ -values.labelsOnMultiplesOf →
        oldestVisible values width latest + values.labelsOnMultiplesOf
            ≤ oldestLabel values width latest
          ∧ ¬ (values.labelsOnMultiplesOf : ℤ) ∣ oldestVisible values width latest - 1) := by
  have hstep : (0 : ℤ) < values.labelsOnMultiplesOf := by exact_mod_cast h.labels_pos
  have hunit : (0 : ℤ) < values.unitSizeSeconds := by exact_mod_cast h.unit_pos
  have hunit_dvd : (values.unitSizeSeconds : ℤ) ∣ values.labelsOnMultiplesOf :=
    Int.natCast_dvd_natCast.2 h.unit_dvd
  have hunit_le := Int.le_of_dvd hstep hunit_dvd
  have hwidth' : (11 : ℤ) ≤ width := by exact_mod_cast hwidth
  have hchar : oldestChar values width latest
      = oldestVisible values width latest + values.unitSizeSeconds := by
    rw [oldestChar_eq h hlatest, if_pos hlt]
  have hvisible : oldestVisible values width latest = -((width - 10) * values.unitSizeSeconds) := by
    rw [oldestVisible, Int.ediv_eq_zero_of_lt hlatest.le hlt]
    ring
  have hle : oldestVisible values width latest ≤ -values.unitSizeSeconds := by
    rw [hvisible]
    nlinarith
  have hdvd : (values.labelsOnMultiplesOf : ℤ) ∣ oldestLabel values width latest :=
    dvd_tdiv_mul _ _
  refine ⟨?_, by linarith, fun hgt => ?_, fun hearly => ⟨?_, fun hone => ?_⟩⟩
  · obtain ⟨hle', -, hnonneg⟩ := latestLabel_spec h hlatest
    exact le_antisymm (le_of_lt_add_of_dvd (dvd_tdiv_mul _ _) (Int.dvd_zero _) (by linarith))
      hnonneg
  · obtain ⟨hge, hlt'⟩ := roundUp_of_lt (a := oldestChar values width latest) hstep (by linarith)
    rw [← oldestLabel] at hge hlt'
    exact le_antisymm (le_of_lt_add_of_dvd hdvd (Int.dvd_zero _) (by linarith))
      (le_of_lt_add_of_dvd (Int.dvd_zero _) hdvd (by linarith))
  · by_cases hgt : -values.labelsOnMultiplesOf < oldestChar values width latest
    · obtain ⟨hge, -⟩ := roundUp_of_lt hstep hgt
      rw [← oldestLabel] at hge
      have hnonneg := le_of_lt_add_of_dvd (Int.dvd_zero _) hdvd (by linarith)
      linarith
    · obtain ⟨hge, -⟩ := roundUp_of_le hstep (not_lt.1 hgt)
      rw [← oldestLabel] at hge
      linarith
  · have hunit_one : (values.unitSizeSeconds : ℤ) ∣ 1 := by
      have hdvd' : (values.unitSizeSeconds : ℤ) ∣ oldestVisible values width latest := by
        rw [hvisible]
        exact (Int.dvd_neg).2 (Int.dvd_mul_left _ _)
      have hsub := Int.dvd_sub hdvd' (Int.dvd_trans hunit_dvd hone)
      rwa [sub_sub_cancel] at hsub
    have hle_one := Int.le_of_dvd one_pos hunit_one
    linarith

/-- The oldest label is at the first multiple that is visible exactly if the division does not round
up to another one. -/
theorem oldestLabel_first_iff (h : Sensible values) (hlatest : 0 < latest) (hwidth : 11 ≤ width) :
    (oldestVisible values width latest
          ≤ min (oldestLabel values width latest) (latestLabel values latest)
        ∧ min (oldestLabel values width latest) (latestLabel values latest)
          < oldestVisible values width latest + values.labelsOnMultiplesOf)
      ↔ (∃ t, oldestVisible values width latest ≤ t ∧ t ≤ latest
          ∧ (values.labelsOnMultiplesOf : ℤ) ∣ t)
        ∧ (-values.labelsOnMultiplesOf < oldestVisible values width latest
          ∨ (values.labelsOnMultiplesOf : ℤ) ∣ oldestVisible values width latest - 1) := by
  have hstep : (0 : ℤ) < values.labelsOnMultiplesOf := by exact_mod_cast h.labels_pos
  obtain ⟨hle, hlt, hnonneg⟩ := latestLabel_spec h hlatest
  rw [exists_visible_iff h hlatest]
  by_cases hfirst : latest < values.unitSizeSeconds
  · obtain ⟨hzero, hpast, hlate, hearly⟩ := oldestLabel_of_lt_unit h hwidth hlatest hfirst
    rw [hzero, and_iff_right hpast]
    by_cases hgt : -values.labelsOnMultiplesOf < oldestVisible values width latest
    · rw [hlate hgt, min_self, and_iff_right hpast]
      exact iff_of_true (by linarith) (.inl hgt)
    · obtain ⟨hge, hone⟩ := hearly (not_lt.1 hgt)
      refine iff_of_false (fun hfirst => ?_) (not_or.2 ⟨hgt, hone⟩)
      exact absurd hfirst.2 (not_lt.2 (le_min hge (by linarith)))
  · have hchar : oldestChar values width latest = oldestVisible values width latest := by
      rw [oldestChar_eq h hlatest, if_neg hfirst, add_zero]
    rw [oldestLabel, hchar]
    exact min_roundUp_iff hstep hnonneg

theorem sumFits_iff (h : Sensible values) (hlatest : 0 < latest) (hwidth : 11 ≤ width)
    (hlt : width < 2 ^ 16) :
    SumFits values width latest
      ↔ oldestVisible values width latest + values.labelsOnMultiplesOf < 2 ^ 63 := by
  have hstep : (0 : ℤ) < values.labelsOnMultiplesOf := by exact_mod_cast h.labels_pos
  have hlabels : (values.labelsOnMultiplesOf : ℤ) < 2 ^ 16 := by exact_mod_cast h.labels_lt
  have hunit_le := Int.le_of_dvd hstep (Int.natCast_dvd_natCast.2 h.unit_dvd)
  have hunit : (0 : ℤ) < values.unitSizeSeconds := by exact_mod_cast h.unit_pos
  have hwidth' : (11 : ℤ) ≤ width := by exact_mod_cast hwidth
  have hlt' : (width : ℤ) < 2 ^ 16 := by exact_mod_cast hlt
  have hspan : ((width : ℤ) - 10) * values.unitSizeSeconds ≤ 2 ^ 16 * 2 ^ 16 :=
    mul_le_mul (by linarith) (by linarith) hunit.le (by norm_num)
  have hspan' : 0 ≤ ((width : ℤ) - 10) * values.unitSizeSeconds :=
    mul_nonneg (by linarith) hunit.le
  have hrow : 0 ≤ latest / values.unitSizeSeconds * values.unitSizeSeconds :=
    mul_nonneg (Int.ediv_nonneg hlatest.le hunit.le) hunit.le
  unfold SumFits
  rw [oldestChar_eq h hlatest, and_iff_right]
  · split_ifs with hfirst
    · have hzero : latest / values.unitSizeSeconds = 0 := Int.ediv_eq_zero_of_lt hlatest.le hfirst
      rw [oldestVisible, hzero]
      exact iff_of_true (by linarith) (by linarith)
    · rw [add_zero]
  · unfold oldestVisible
    split_ifs <;> linarith

theorem latestOffset_mul_le (h : Sensible values) (hlatest : 0 < latest) :
    (latestOffset values latest : ℤ) * values.unitSizeSeconds
      ≤ latest - latestLabel values latest := by
  have hunit : (0 : ℤ) < values.unitSizeSeconds := by exact_mod_cast h.unit_pos
  have hlabels : (values.labelsOnMultiplesOf : ℤ) < 2 ^ 16 := by exact_mod_cast h.labels_lt
  obtain ⟨hle, hlt, -⟩ := latestLabel_spec h hlatest
  have hnonneg : 0 ≤ (latest - latestLabel values latest) / values.unitSizeSeconds :=
    Int.ediv_nonneg (by linarith) hunit.le
  have hle' : (latest - latestLabel values latest) / values.unitSizeSeconds
      ≤ latest - latestLabel values latest := Int.ediv_le_self _ (by linarith)
  rw [latestOffset, Int.tdiv_eq_ediv_of_nonneg (by linarith),
    Int.emod_eq_of_lt hnonneg (by linarith), Int.toNat_of_nonneg hnonneg]
  exact Int.ediv_mul_le _ hunit.ne'

/-- As many labels as reach back to what is visible are within the width. -/
theorem columns_lt (h : Sensible values) (hlatest : 0 < latest) {n : ℕ}
    (hfirst : oldestVisible values width latest
      ≤ firstTick values.labelsOnMultiplesOf (latestLabel values latest) n) :
    latestOffset values latest + n * (values.labelsOnMultiplesOf / values.unitSizeSeconds)
      < width + values.labelsOnMultiplesOf / values.unitSizeSeconds := by
  have hunit : (0 : ℤ) < values.unitSizeSeconds := by exact_mod_cast h.unit_pos
  have hspacing : ((values.labelsOnMultiplesOf / values.unitSizeSeconds : ℕ) : ℤ)
      * values.unitSizeSeconds = values.labelsOnMultiplesOf := by
    exact_mod_cast Nat.div_mul_cancel h.unit_dvd
  have hoffset := latestOffset_mul_le h hlatest
  have hmod := Int.emod_lt_of_pos latest hunit
  have hdiv := Int.ediv_mul_add_emod latest values.unitSizeSeconds
  unfold firstTick oldestVisible at hfirst
  have hlt : ((latestOffset values latest : ℤ)
        + n * (values.labelsOnMultiplesOf / values.unitSizeSeconds : ℕ)) * values.unitSizeSeconds
      < (width + (values.labelsOnMultiplesOf / values.unitSizeSeconds : ℕ))
        * values.unitSizeSeconds := by
    rw [add_mul, add_mul, mul_assoc, hspacing]
    linarith
  exact_mod_cast lt_of_mul_lt_mul_right hlt hunit.le

end Visible

/-! ## What is drawn -/

section Drawn

variable {area : Rect} {y spacing : ℕ}

theorem drawLabels_inside (hy : area.y ≤ y ∧ y < area.y + area.height) {labels : List Str} {x : ℕ}
    (hx : area.x + labels.length * spacing ≤ x + spacing) (hlt : x < area.x + area.width) :
    ∀ d ∈ drawLabels (area.x + area.width) y spacing labels x, d.Inside area := by
  induction labels generalizing x with
  | nil => simp [drawLabels]
  | cons label labels ih =>
    rw [List.length_cons, Nat.succ_mul] at hx
    intro d hd
    rw [drawLabels, List.mem_cons, List.mem_append] at hd
    obtain rfl | hd | hd := hd
    · exact ⟨by omega, hlt, hy⟩
    · split_ifs at hd with hwidth
      · obtain rfl := List.mem_singleton.1 hd
        exact ⟨by omega, by omega, hy⟩
      · cases hd
    · exact ih (by omega) (by omega) d hd

theorem drawnAxis_inside {values : PrecisionValues} {latest : ℤ} {labels : List Str}
    (hwidth : 11 ≤ area.width) (hheight : area.height = 2)
    (hne : labels ≠ []) (hcolumns : latestOffset values latest
        + labels.length * (values.labelsOnMultiplesOf / values.unitSizeSeconds % 2 ^ 16)
      < area.width + values.labelsOnMultiplesOf / values.unitSizeSeconds % 2 ^ 16) :
    ∀ d ∈ drawnAxis values latest area labels, d.Inside area := by
  intro d hd
  rw [drawnAxis, List.mem_append, List.mem_cons, List.mem_map] at hd
  obtain (rfl | ⟨i, hi, rfl⟩) | hd := hd
  · exact ⟨by omega, by omega, by omega, by omega⟩
  · rw [List.mem_range] at hi
    exact ⟨by omega, by omega, by omega, by omega⟩
  · have hlength := Nat.le_mul_of_pos_left
      (values.labelsOnMultiplesOf / values.unitSizeSeconds % 2 ^ 16) (List.length_pos_iff.2 hne)
    refine drawLabels_inside (by omega) ?_ (by omega) d hd
    rw [List.length_reverse]
    omega

end Drawn

/-! ## Runs -/

/-- A render that `UsageGraph::render` does. -/
structure RenderCall where
  latestTimestamp : ℤ
  precisionOption : GraphPrecisionOption
  area : Rect
  width_le : 11 ≤ area.width
  height_eq : area.height = 2

def step (localTime : LocalTime) (axis : HorizontalAxis) (call : RenderCall) :
    Option HorizontalAxis :=
  ((axis.render localTime call.latestTimestamp call.precisionOption call.area :
    Except (Stop Empty) (List (Drawn Str) × HorizontalAxis)).toOption).map Prod.snd

/-- The labels are the texts of the multiples between two times, and the latest label's timestamp is
the last of these. -/
def Shows (localTime : LocalTime) (oldest latest : ℤ) (axis : HorizontalAxis) : Prop :=
  ∃ ts, IsWindow axis.values.labelsOnMultiplesOf oldest latest ts
    ∧ axis.labelStrings = ts.map (axis.labelText localTime)
    ∧ ts.getLast? = some axis.latestLabelTimestamp

section Runs

variable {localTime : LocalTime} {axis : HorizontalAxis} {call : RenderCall}

theorem consecutive_new (localTime : LocalTime) : new.Consecutive localTime :=
  ⟨0, Int.dvd_zero _, rfl⟩

theorem consecutive_rendered (h : axis.Consecutive localTime)
    (precisionOption : GraphPrecisionOption) (width : ℕ) (latestTimestamp : ℤ) :
    (axis.rendered localTime precisionOption width latestTimestamp).Consecutive localTime := by
  obtain ⟨hvalues, hlatest, n, -, hlabels, -⟩ :=
    rendered_spec h precisionOption width latestTimestamp
  refine ⟨n, ?_, ?_⟩
  · rw [hlatest, hvalues]
    exact dvd_tdiv_mul _ _
  · rw [hlatest, hvalues, hlabels]

theorem step_consecutive {axis' : HorizontalAxis} (h : axis.Consecutive localTime)
    (hstep : step localTime axis call = some axis') : axis'.Consecutive localTime := by
  rw [step, render_eq h call.width_le] at hstep
  split_ifs at hstep
  · obtain rfl := Option.some.inj hstep
    exact consecutive_rendered h _ _ _
  · cases hstep

/-- The render shows what is visible, and draws nothing outside of its area. -/
def RendersWell (localTime : LocalTime) (axis : HorizontalAxis) (call : RenderCall) : Prop :=
  ∃ drawn axis', (axis.render localTime call.latestTimestamp call.precisionOption call.area :
      Except (Stop Empty) (List (Drawn Str) × HorizontalAxis)) = .ok (drawn, axis')
    ∧ axis'.values = call.precisionOption.getValues
    ∧ axis'.Shows localTime (oldestVisible call.precisionOption.getValues call.area.width
        call.latestTimestamp) call.latestTimestamp
    ∧ ∀ d ∈ drawn, d.Inside call.area

/-- A multiple is visible, the visible time does not go back to before 1970, unless to where the
rounding makes no difference, and no sum overflows. -/
structure Renderable (call : RenderCall) : Prop where
  exists_visible : ∃ t,
    oldestVisible call.precisionOption.getValues call.area.width call.latestTimestamp ≤ t
      ∧ t ≤ call.latestTimestamp ∧ (call.precisionOption.getValues.labelsOnMultiplesOf : ℤ) ∣ t
  roundsUp : -call.precisionOption.getValues.labelsOnMultiplesOf
      < oldestVisible call.precisionOption.getValues call.area.width call.latestTimestamp
    ∨ (call.precisionOption.getValues.labelsOnMultiplesOf : ℤ)
      ∣ oldestVisible call.precisionOption.getValues call.area.width call.latestTimestamp - 1
  sum_lt : oldestVisible call.precisionOption.getValues call.area.width call.latestTimestamp
    + call.precisionOption.getValues.labelsOnMultiplesOf < 2 ^ 63

theorem labels_pos (precisionOption : GraphPrecisionOption) :
    (0 : ℤ) < precisionOption.getValues.labelsOnMultiplesOf := by
  exact_mod_cast (sensible_getValues precisionOption).labels_pos

theorem sum_iff (hlatest : 0 < call.latestTimestamp) :
    SumFits call.precisionOption.getValues call.area.width call.latestTimestamp
      ↔ oldestVisible call.precisionOption.getValues call.area.width call.latestTimestamp
        + call.precisionOption.getValues.labelsOnMultiplesOf < 2 ^ 63 :=
  sumFits_iff (sensible_getValues call.precisionOption) hlatest call.width_le
    ((Nat.le_add_left _ _).trans_lt call.area.right_lt)

/-- The number of labels says where the first of them is. -/
theorem renderable_of_rendersWell (h : axis.Consecutive localTime)
    (hlatest : 0 < call.latestTimestamp) (hwell : RendersWell localTime axis call) :
    Renderable call := by
  have hsensible := sensible_getValues call.precisionOption
  obtain ⟨hle, hlt, -⟩ := latestLabel_spec hsensible hlatest
  obtain ⟨hvalues, -, n, hn, hlabels, hfirst⟩ :=
    rendered_spec h call.precisionOption call.area.width call.latestTimestamp
  obtain ⟨drawn, axis', hrender, -, ⟨ts, hwindow, htexts, -⟩, -⟩ := hwell
  rw [render_eq h call.width_le] at hrender
  split_ifs at hrender with hfits
  obtain ⟨-, rfl⟩ := Prod.mk.inj (Except.ok.inj hrender)
  rw [hvalues] at hwindow
  have hlength : ts.length = n := by
    rw [hlabels] at htexts
    have hcount := congrArg List.length htexts
    rwa [List.length_map, List.length_map, length_ticks, eq_comm] at hcount
  have hbounds := first_of_isWindow (labels_pos _) (dvd_tdiv_mul _ _) hle hlt hn hwindow hlength
  rw [← latestLabel, hfirst] at hbounds
  obtain ⟨hvisible, hround⟩ := (oldestLabel_first_iff hsensible hlatest call.width_le).1 hbounds
  exact ⟨hvisible, hround, (sum_iff hlatest).1 hfits.1⟩

theorem rendersWell_of_renderable (h : axis.Consecutive localTime)
    (hlatest : 0 < call.latestTimestamp) (hcall : Renderable call) :
    RendersWell localTime axis call := by
  have hsensible := sensible_getValues call.precisionOption
  obtain ⟨hle, hlt, -⟩ := latestLabel_spec hsensible hlatest
  obtain ⟨hvalues, hlast, n, hn, hlabels, hfirst⟩ :=
    rendered_spec h call.precisionOption call.area.width call.latestTimestamp
  obtain ⟨hge, hlt'⟩ := (oldestLabel_first_iff hsensible hlatest call.width_le).2
    ⟨hcall.exists_visible, hcall.roundsUp⟩
  rw [← hfirst] at hge hlt'
  have hcolumns := columns_lt hsensible hlatest hge
  have hspacing := Nat.mod_eq_of_lt ((Nat.div_le_self _ _).trans_lt hsensible.labels_lt :
    call.precisionOption.getValues.labelsOnMultiplesOf
      / call.precisionOption.getValues.unitSizeSeconds < 2 ^ 16)
  have hone := Nat.le_mul_of_pos_left (call.precisionOption.getValues.labelsOnMultiplesOf
    / call.precisionOption.getValues.unitSizeSeconds) hn
  have hlength : (axis.rendered localTime call.precisionOption call.area.width
      call.latestTimestamp).labelStrings.length = n := by
    rw [hlabels, List.length_map, length_ticks]
  unfold RendersWell
  rw [render_eq h call.width_le, if_pos ⟨(sum_iff hlatest).2 hcall.sum_lt, by omega⟩]
  refine ⟨_, _, rfl, hvalues, ⟨_, ?_, hlabels, ?_⟩, ?_⟩
  · rw [hvalues]
    exact isWindow_ticks (labels_pos _) (dvd_tdiv_mul _ _) hle hlt hge hlt'
  · rw [hlast]
    exact getLast?_ticks _ _ hn
  · refine drawnAxis_inside call.width_le call.height_eq ?_ ?_
    · rwa [← List.length_pos_iff, hlength]
    · rwa [hspacing, hlength]

theorem rendersWell_iff (h : axis.Consecutive localTime) (hlatest : 0 < call.latestTimestamp) :
    RendersWell localTime axis call ↔ Renderable call :=
  ⟨renderable_of_rendersWell h hlatest, rendersWell_of_renderable h hlatest⟩

theorem exists_step (h : axis.Consecutive localTime) (hlatest : 0 < call.latestTimestamp)
    (hcall : Renderable call) :
    ∃ axis', step localTime axis call = some axis' ∧ axis'.Consecutive localTime := by
  obtain ⟨drawn, axis', hrender, -⟩ := rendersWell_of_renderable h hlatest hcall
  have hstep : step localTime axis call = some axis' := by
    rw [step, hrender]
    rfl
  exact ⟨axis', hstep, step_consecutive h hstep⟩

/-- After any renders, of any time, precision and width, the next one shows what is visible exactly
if it is renderable. -/
theorem render_shows_iff (localTime : LocalTime) (calls : List RenderCall) (axis : HorizontalAxis)
    (hrun : runSteps (step localTime) new calls = some axis) (call : RenderCall)
    (hlatest : 0 < call.latestTimestamp) :
    RendersWell localTime axis call ↔ Renderable call :=
  rendersWell_iff (runSteps_keeps (I := Consecutive localTime)
    (fun _ _ _ h hstep => step_consecutive h hstep) (consecutive_new localTime) hrun) hlatest

/-- Fourteen seconds after a multiple of fifteen, with one-second columns. -/
def callOf (x width : ℕ) (hwidth : 11 ≤ width) (hright : x + width < 2 ^ 16) : RenderCall :=
  ⟨1700000009, .oneSecond, ⟨x, 5, width, 2, hright, by decide⟩, hwidth, rfl⟩

theorem renderable_wide : Renderable (callOf 1 40 (by decide) (by decide)) where
  exists_visible := ⟨1699999995, by decide, by decide, by decide⟩
  roundsUp := .inl (by decide)
  sum_lt := by decide

/-- Sixteen seconds later, on a multiple of fifteen. -/
def laterCall : RenderCall := { callOf 1 40 (by decide) (by decide) with
  latestTimestamp := 1700000025 }

theorem renderable_later : Renderable laterCall where
  exists_visible := ⟨1700000025, by decide, by decide, by decide⟩
  roundsUp := .inl (by decide)
  sum_lt := by decide

def utcTime : LocalTime := fun timestamp =>
  ((timestamp / 3600 % 24).toNat, (timestamp / 60 % 60).toNat, (timestamp % 60).toNat)

theorem render_shows_iff_wide :
    ∃ axis, runSteps (step utcTime) new [callOf 1 40 (by decide) (by decide)] = some axis
      ∧ RendersWell utcTime axis laterCall := by
  obtain ⟨axis, hstep, -⟩ := exists_step (consecutive_new utcTime) (by decide) renderable_wide
  have hrun : runSteps (step utcTime) new [callOf 1 40 (by decide) (by decide)] = some axis :=
    runSteps_cons.2 ⟨axis, hstep, rfl⟩
  exact ⟨axis, hrun, (render_shows_iff _ _ axis hrun _ (by decide)).2 renderable_later⟩

/-- In eleven columns there are two seconds and no multiple of fifteen. -/
theorem not_rendersWell_narrow :
    ¬ ∀ (localTime : LocalTime) (calls : List RenderCall) (axis : HorizontalAxis),
      runSteps (step localTime) new calls = some axis →
        ∀ call : RenderCall, 0 < call.latestTimestamp → RendersWell localTime axis call := by
  intro h
  have hwell := h (fun _ => (22, 13, 29)) [] new rfl (callOf 1 11 (by decide) (by decide))
    (by decide)
  obtain ⟨⟨t, hge, hle, hdvd⟩, -, -⟩ :=
    renderable_of_rendersWell (consecutive_new _) (by decide) hwell
  have hge' : 1700000008 ≤ t := hge
  have hle' : t ≤ 1700000009 := hle
  have hdvd' : (15 : ℤ) ∣ t := hdvd
  omega

end Runs

end HorizontalAxis

end DustDevil
