import DustDevil.Lib.Buckets
import DustDevil.Proofs.UsageTracker

/-!
# What is recorded of each unit

`set_unit_size` sums up the seconds of each unit, and `record_usage` keeps these sums up to date.
They stay what `set_unit_size` would make of the seconds as long as a second that gives way leaves
nothing in a unit that stays, and the window does not start with a unit that it has come to
(`units_agree`).
-/

namespace DustDevil

open Wire

/-! ## Dividing towards zero -/

section Tdiv

variable {u : ℤ}

theorem lt_tdiv_mul_add (hu : 0 < u) (x : ℤ) : x < x.tdiv u * u + u := by
  have h := Int.lt_tdiv_add_one_mul_self x hu
  rwa [Int.add_mul, Int.one_mul] at h

theorem tdiv_mul_sub_lt (hu : 0 < u) (x : ℤ) : x.tdiv u * u - u < x := by
  have h := Int.lt_tmod_of_pos x hu
  have hx := Int.tdiv_mul_add_tmod x u
  omega

theorem tdiv_nonneg_of_lt (hu : 0 < u) {x : ℤ} (hx : -u < x) : 0 ≤ x.tdiv u := by
  rcases lt_or_ge x 0 with hneg | hpos
  · have h := Int.tdiv_eq_zero_of_lt (a := -x) (b := u) (by omega) (by omega)
    rw [Int.neg_tdiv] at h
    omega
  · exact Int.tdiv_nonneg hpos (by omega)

theorem tdiv_lt_of_lt_mul (hu : 0 < u) {x m : ℤ} (hm : 0 < m) (hx : x < m * u) :
    x.tdiv u < m := by
  rcases lt_or_ge x 0 with hneg | hpos
  · have h := Int.tdiv_nonneg (a := -x) (b := u) (by omega) hu.le
    rw [Int.neg_tdiv] at h
    omega
  · rw [Int.tdiv_eq_ediv_of_nonneg hpos]
    exact Int.ediv_lt_of_lt_mul hu hx

theorem tdiv_add_mul (hu : 0 < u) {x : ℤ} (hx : 0 ≤ x) (j : ℕ) :
    (x + j * u).tdiv u = x.tdiv u + j := by
  have hj : 0 ≤ (j : ℤ) * u := Int.mul_nonneg (by omega) hu.le
  rw [Int.tdiv_eq_ediv_of_nonneg hx, Int.tdiv_eq_ediv_of_nonneg (by omega),
    Int.add_mul_ediv_right _ _ hu.ne']

end Tdiv

namespace UsageTracker

variable {ε : Type} {growth : Growth} {tracker tracker' : UsageTracker}

/-! ## Seconds -/

section Stamped

variable {start u b : ℤ} {history later : List UsageMeasure}

theorem stamped_append : ∀ (start : ℤ) (history later : List UsageMeasure),
    stamped start (history ++ later)
      = stamped start history ++ stamped (start + history.length) later
  | start, [], later => by simp [stamped]
  | start, measure :: history, later => by
    rw [List.cons_append, stamped, stamped_append, stamped, List.cons_append, List.length_cons]
    congr 3
    push_cast
    omega

theorem bounds_of_mem_stamped : ∀ {start : ℤ} {history : List UsageMeasure},
    ∀ second ∈ stamped start history, start ≤ second.1 ∧ second.1 < start + history.length
  | _, [], _, h => absurd h List.not_mem_nil
  | start, measure :: history, second, h => by
    rw [List.length_cons]
    push_cast
    rcases List.mem_cons.1 h with rfl | h
    · constructor <;> simp only <;> omega
    · have := bounds_of_mem_stamped second h
      omega

/-- The place of the unit of a second, counted from the one that starts at `b`. -/
def unitKey (u b timestamp : ℤ) : ℤ := (timestamp - b).tdiv u

theorem bucketSum_stamped_replicate (key : ℤ → ℤ) (k : ℤ) : ∀ (n : ℕ) (start : ℤ),
    bucketSum key (stamped start (List.replicate n 0)) k = 0
  | 0, _ => rfl
  | n + 1, start => by
    rw [List.replicate_succ, stamped, bucketSum_cons, bucketSum_stamped_replicate]
    split_ifs <;> rfl

theorem bucketSum_stamped_modify (key : ℤ → ℤ) (k : ℤ) (usage : UsageMeasure) :
    ∀ (history : List UsageMeasure) (i : ℕ) (start : ℤ), i < history.length →
      bucketSum key (stamped start (history.modify i (· + usage))) k
        = bucketSum key (stamped start history ++ [(start + i, usage)]) k
  | [], _, _, hi => absurd hi (Nat.not_lt_zero _)
  | measure :: history, 0, start, _ => by
    rw [List.modify_zero_cons, stamped, stamped, bucketSum_append, bucketSum_cons, bucketSum_cons,
      bucketSum_singleton, Int.natCast_zero, Int.add_zero]
    split_ifs
    · exact add_right_comm _ _ _
    · rw [add_zero]
  | measure :: history, i + 1, start, hi => by
    have hlt : i < history.length := Nat.lt_of_succ_lt_succ hi
    have hstart : start + 1 + (i : ℤ) = start + (i + 1 : ℕ) := by push_cast; omega
    rw [List.modify_succ_cons, stamped, stamped, List.cons_append, bucketSum_cons, bucketSum_cons,
      bucketSum_stamped_modify key k usage history i (start + 1) hlt, hstart]

end Stamped

/-! ## Recomputing the units -/

section Rebuild

variable {u b : ℤ}

theorem addAt_of_key (m : UsageMeasure) {key : ℤ → ℤ} (entries : List (ℤ × UsageMeasure)) {n : ℕ}
    {timestamp : ℤ} (hkey : 0 ≤ key timestamp ∧ key timestamp < n) :
    addAt (ε := ε) m (key timestamp) (buckets key entries n)
      = .ok (buckets key (entries ++ [(timestamp, m)]) n) := by
  obtain ⟨k, hk⟩ := Int.eq_ofNat_of_zero_le hkey.1
  rw [buckets_snoc hk, hk, addAt_ok]
  rw [length_buckets]
  omega

theorem addSeconds_eq : ∀ (seconds entries : List (ℤ × UsageMeasure)) {n : ℕ},
    (∀ second ∈ seconds, 0 ≤ unitKey u b second.1 ∧ unitKey u b second.1 < n) →
      addSeconds (ε := ε) u b seconds (buckets (unitKey u b) entries n)
        = .ok (buckets (unitKey u b) (entries ++ seconds) n)
  | [], entries, _, _ => by rw [List.append_nil]; rfl
  | (timestamp, measure) :: seconds, entries, n, h => by
    obtain ⟨hhead, htail⟩ := List.forall_mem_cons.1 h
    have hadd := addAt_of_key (ε := ε) measure entries hhead
    rw [unitKey] at hadd
    simp only [addSeconds, hadd, bind, Except.bind]
    rw [addSeconds_eq seconds (entries ++ [(timestamp, measure)]) htail, List.append_assoc]
    rfl

theorem addAt_ok_range {measure : UsageMeasure} {index : ℤ} {history history' : List UsageMeasure}
    (h : addAt (ε := ε) measure index history = .ok history') :
    0 ≤ index ∧ index < history.length ∧ history'.length = history.length := by
  rw [addAt] at h
  split_ifs at h with hrange
  obtain rfl := Except.ok.inj h
  exact ⟨hrange.1, hrange.2, by rw [List.length_modify]⟩

theorem range_of_addSeconds : ∀ {seconds : List (ℤ × UsageMeasure)}
    {byUnit byUnit' : List UsageMeasure},
    addSeconds (ε := ε) u b seconds byUnit = .ok byUnit' →
      ∀ second ∈ seconds, 0 ≤ unitKey u b second.1 ∧ unitKey u b second.1 < byUnit.length
  | [], _, _, _ => fun _ h => absurd h List.not_mem_nil
  | (timestamp, measure) :: seconds, byUnit, byUnit', h => by
    rw [addSeconds] at h
    rcases hadd : addAt (ε := ε) measure ((timestamp - b).tdiv u) byUnit with e | byUnit1
    · rw [hadd] at h
      nomatch h
    rw [hadd] at h
    obtain ⟨hle, hlt, hlength⟩ := addAt_ok_range hadd
    have hrest := range_of_addSeconds (show addSeconds u b seconds byUnit1 = _ from h)
    rw [hlength] at hrest
    exact List.forall_mem_cons.2 ⟨⟨hle, hlt⟩, hrest⟩

/-- The start of the unit in which the window starts. -/
def unitStart (u : ℕ) (tracker : UsageTracker) : ℤ :=
  tracker.historyStartTimestamp.tdiv u * u

/-- The seconds of a tracker. -/
def seconds (tracker : UsageTracker) : List (ℤ × UsageMeasure) :=
  stamped tracker.historyStartTimestamp tracker.historyBySecond

/-- Each second has a unit. -/
def InRange (u : ℕ) (tracker : UsageTracker) : Prop :=
  ∀ second ∈ tracker.seconds, 0 ≤ unitKey u (tracker.unitStart u) second.1
    ∧ unitKey u (tracker.unitStart u) second.1 < tracker.unitsLen u (tracker.unitStart u)

def rebuilt (u : ℕ) (tracker : UsageTracker) : UsageTracker :=
  { tracker with
    historyByUnit := buckets (unitKey u (tracker.unitStart u)) tracker.seconds
      (tracker.unitsLen u (tracker.unitStart u)).toNat
    historyByUnitStartTimestamp := tracker.unitStart u
    unitSizeSeconds := u }

variable {size : ℕ}

/-- Where each second has a unit, the units are recomputed, and nowhere else. -/
theorem setUnitSize_ok_iff (hsize : 1 < size) :
    tracker.setUnitSize (ε := ε) size = .ok tracker'
      ↔ InRange size tracker ∧ tracker' = tracker.rebuilt size := by
  have heq : tracker.setUnitSize (ε := ε) size
      = (addSeconds size (tracker.unitStart size) tracker.seconds
          (List.replicate (tracker.unitsLen size (tracker.unitStart size)).toNat 0)).map
        fun byUnit => { tracker.rebuilt size with historyByUnit := byUnit } := by
    rw [setUnitSize, if_neg (by omega)]
    rfl
  have hsum : InRange size tracker → addSeconds (ε := ε) size (tracker.unitStart size)
      tracker.seconds (List.replicate (tracker.unitsLen size (tracker.unitStart size)).toNat 0)
        = .ok (tracker.rebuilt size).historyByUnit := by
    intro hrange
    have hnil : List.replicate (tracker.unitsLen size (tracker.unitStart size)).toNat 0
        = buckets (unitKey size (tracker.unitStart size)) ([] : List (ℤ × UsageMeasure))
          (tracker.unitsLen size (tracker.unitStart size)).toNat := buckets_nil.symm
    rw [hnil, addSeconds_eq _ _ fun second hsecond => ?_, List.nil_append]
    · rfl
    · have h := hrange second hsecond
      exact ⟨h.1, by omega⟩
  rw [heq]
  constructor
  · intro h
    rcases hadd : addSeconds (ε := ε) size (tracker.unitStart size) tracker.seconds
      (List.replicate (tracker.unitsLen size (tracker.unitStart size)).toNat 0) with e | byUnit
    · rw [hadd] at h
      nomatch h
    have hrange : InRange size tracker := by
      intro second hsecond
      have h := range_of_addSeconds hadd second hsecond
      rw [List.length_replicate] at h
      exact ⟨h.1, by omega⟩
    rw [hsum hrange] at h
    exact ⟨hrange, (Except.ok.inj h).symm⟩
  · rintro ⟨hrange, rfl⟩
    rw [hsum hrange]
    rfl

/-- The end of the window, rounded up, fits an `i64`. -/
def EndFits (size : ℕ) (tracker : UsageTracker) : Prop :=
  -2 ^ 63 ≤ tracker.historyStartTimestamp + tracker.historyBySecond.length + size - 1
    ∧ tracker.historyStartTimestamp + tracker.historyBySecond.length + size - 1 < 2 ^ 63

/-- The unit after that of the window's last second. -/
def endUnit (size : ℕ) (tracker : UsageTracker) : ℤ :=
  (tracker.historyStartTimestamp + tracker.historyBySecond.length + size - 1).tdiv size

theorem unitsLen_eq (hsize : 1 < size) (hfits : EndFits size tracker) (m : ℤ) :
    tracker.unitsLen size (m * size) = tracker.endUnit size - m := by
  rw [unitsLen, wrapI64_of_fits hfits.1 hfits.2, ← endUnit, ← Int.sub_mul,
    Int.mul_tdiv_cancel _ (by omega)]

theorem unitKey_range (hsize : 1 < size) (hfits : EndFits size tracker)
    (hlt : tracker.historyStartTimestamp.tdiv size < tracker.endUnit size) {t : ℤ}
    (hle : tracker.historyStartTimestamp ≤ t)
    (hlast : t < tracker.historyStartTimestamp + tracker.historyBySecond.length) :
    0 ≤ unitKey size (tracker.unitStart size) t
      ∧ unitKey size (tracker.unitStart size) t
        < tracker.unitsLen size (tracker.unitStart size) := by
  have hpos : (0 : ℤ) < size := by omega
  have hstart := tdiv_mul_sub_lt hpos tracker.historyStartTimestamp
  have hend := lt_tdiv_mul_add hpos
    (tracker.historyStartTimestamp + tracker.historyBySecond.length + size - 1)
  rw [← endUnit] at hend
  rw [unitStart, unitsLen_eq hsize hfits]
  refine ⟨tdiv_nonneg_of_lt hpos (by omega), tdiv_lt_of_lt_mul hpos (by omega) ?_⟩
  rw [Int.sub_mul]
  omega

theorem inRange_of_lt (hsize : 1 < size) (hfits : EndFits size tracker)
    (hlt : tracker.historyStartTimestamp.tdiv size < tracker.endUnit size) :
    InRange size tracker := by
  intro second hsecond
  obtain ⟨hle, hlast⟩ := bounds_of_mem_stamped second hsecond
  exact unitKey_range hsize hfits hlt hle hlast

theorem lt_of_inRange (hsize : 1 < size) (hfits : EndFits size tracker) (hvalid : tracker.Valid)
    (hrange : InRange size tracker) :
    tracker.historyStartTimestamp.tdiv size < tracker.endUnit size := by
  obtain ⟨measure, history, hhistory⟩ := List.exists_cons_of_length_pos hvalid.pos
  have h := hrange (tracker.historyStartTimestamp, measure)
    (by rw [seconds, hhistory, stamped]; exact List.mem_cons_self)
  rw [unitStart, unitsLen_eq hsize hfits] at h
  omega

/-- The loop drops as many units as lie wholly before the window. -/
theorem dropUnits_eq (hpos : 0 < u) {start : ℤ} : ∀ (j fuel : ℕ) (b : ℤ)
    (byUnit : List UsageMeasure), j ≤ fuel → (j = 0 ∨ b + j * u < start) →
      start ≤ b + j * u + u → dropUnits u start fuel b byUnit = (b + j * u, byUnit.drop j)
  | 0, 0, b, byUnit, _, _, _ => by simp [dropUnits]
  | 0, fuel + 1, b, byUnit, _, _, hend => by
    rw [dropUnits, if_neg (by simpa using hend)]
    simp
  | j + 1, fuel + 1, b, byUnit, hfuel, hstart, hend => by
    have hj : ((j + 1 : ℕ) : ℤ) * u = j * u + u := by push_cast; rw [Int.add_mul, Int.one_mul]
    have hnonneg : 0 ≤ (j : ℤ) * u := Int.mul_nonneg (by omega) hpos.le
    rw [hj] at hstart hend
    rw [dropUnits, if_pos (by omega), dropUnits_eq hpos j fuel (b + u) (byUnit.drop 1) (by omega)
      (by omega) (by omega), hj, List.drop_drop]
    congr 1
    · omega
    · rw [Nat.add_comm]

end Rebuild

/-! ## Recording -/

section Record

variable {size timestampIndex : ℕ}

/-- Where the window starts once there is an entry at an index. -/
def startAfter (timestampIndex : ℕ) (tracker : UsageTracker) : ℤ :=
  tracker.historyStartTimestamp + tracker.removeCount timestampIndex

/-- The seconds that give way. -/
def gone (timestampIndex : ℕ) (tracker : UsageTracker) : List (ℤ × UsageMeasure) :=
  stamped tracker.historyStartTimestamp
    (tracker.historyBySecond.take (tracker.removeCount timestampIndex))

/-- The seconds that do not. -/
def stay (timestampIndex : ℕ) (tracker : UsageTracker) : List (ℤ × UsageMeasure) :=
  stamped (tracker.startAfter timestampIndex)
    (tracker.historyBySecond.drop (tracker.removeCount timestampIndex))

/-- The window stays in the unit in which it starts, and the seconds that give way had no usage; or
it comes to another unit and not to its first second, and those in that unit had none. -/
def LeavesNothing (size timestampIndex : ℕ) (tracker : UsageTracker) : Prop :=
  ((tracker.startAfter timestampIndex).tdiv size = tracker.historyStartTimestamp.tdiv size
      ∧ ((tracker.gone timestampIndex).map Prod.snd).sum = 0)
    ∨ ((tracker.startAfter timestampIndex).tdiv size ≠ tracker.historyStartTimestamp.tdiv size
      ∧ 0 < tracker.startAfter timestampIndex ∧ ¬ (size : ℤ) ∣ tracker.startAfter timestampIndex
      ∧ (((tracker.gone timestampIndex).filter fun second =>
        (tracker.startAfter timestampIndex).tdiv size * size ≤ second.1).map Prod.snd).sum = 0)

/-- A call that leaves the units what they would be recomputed to. -/
structure UnitRegular (size : ℕ) (tracker : UsageTracker) (call : UsageCall) : Prop where
  fits : -2 ^ 63 ≤ call.timestamp - tracker.historyStartTimestamp
    ∧ call.timestamp - tracker.historyStartTimestamp < 2 ^ 63
  endFits : ∀ timestampIndex : ℕ, call.timestamp = tracker.historyStartTimestamp + timestampIndex →
    EndFits size tracker ∧ tracker.startAfter timestampIndex
      + (tracker.shifted timestampIndex).length + size - 1 < 2 ^ 63
  leavesNothing : ∀ timestampIndex : ℕ,
    call.timestamp = tracker.historyStartTimestamp + timestampIndex →
      LeavesNothing size timestampIndex tracker

theorem seconds_eq (timestampIndex : ℕ) (tracker : UsageTracker) :
    tracker.seconds = tracker.gone timestampIndex ++ tracker.stay timestampIndex := by
  rw [seconds, gone, stay, startAfter]
  conv_lhs => rw [← List.take_append_drop (tracker.removeCount timestampIndex)
    tracker.historyBySecond]
  rw [stamped_append, List.length_take]
  rcases Nat.le_total (tracker.removeCount timestampIndex) tracker.historyBySecond.length with h | h
  · rw [Nat.min_eq_left h]
  · rw [List.drop_eq_nil_of_le h]
    rfl

/-- How many units are dropped, and that what gives way leaves nothing in the others. -/
theorem LeavesNothing.exists_dropped (hsize : 1 < size)
    (h : LeavesNothing size timestampIndex tracker) :
    ∃ j : ℕ, (tracker.startAfter timestampIndex).tdiv size
        = tracker.historyStartTimestamp.tdiv size + j
      ∧ (j = 0 ∨ (tracker.startAfter timestampIndex).tdiv size * size
        < tracker.startAfter timestampIndex)
      ∧ ∀ k : ℕ, bucketSum (unitKey size (tracker.unitStart size)) (tracker.gone timestampIndex)
        (k + j : ℕ) = 0 := by
  have hpos : (0 : ℤ) < size := by omega
  have hle : tracker.historyStartTimestamp ≤ tracker.startAfter timestampIndex := by
    rw [startAfter]
    omega
  have hend := lt_tdiv_mul_add hpos (tracker.startAfter timestampIndex)
  have hbounds : ∀ second ∈ tracker.gone timestampIndex,
      tracker.historyStartTimestamp ≤ second.1
        ∧ second.1 < tracker.startAfter timestampIndex := by
    intro second hsecond
    have h := bounds_of_mem_stamped second hsecond
    rw [List.length_take] at h
    rw [startAfter]
    omega
  have hle' := Int.tdiv_le_tdiv hpos hle
  obtain ⟨j, hj⟩ := Int.eq_ofNat_of_zero_le (Int.sub_nonneg.2 hle')
  have hmul : (tracker.startAfter timestampIndex).tdiv size * size
      = tracker.unitStart size + j * size := by
    rw [unitStart, ← Int.add_mul]
    congr 1
    omega
  -- No second that gives way is of a unit after the first of those that stay.
  have hlast : ∀ second ∈ tracker.gone timestampIndex,
      unitKey size (tracker.unitStart size) second.1 < j + 1 := by
    intro second hsecond
    have h := hbounds second hsecond
    refine tdiv_lt_of_lt_mul hpos (by omega) ?_
    rw [Int.add_mul, Int.one_mul]
    omega
  have hafter : ∀ k : ℕ, k ≠ 0 → bucketSum (unitKey size (tracker.unitStart size))
      (tracker.gone timestampIndex) (k + j : ℕ) = 0 := fun k hk =>
    bucketSum_of_forall_ne fun second hsecond heq => by
      have h := hlast second hsecond
      omega
  refine ⟨j, by omega, ?_, fun k => ?_⟩
  · rcases h with ⟨heq, -⟩ | ⟨-, hstart, hdvd, -⟩
    · exact .inl (by omega)
    · have hmod := Int.tmod_nonneg (size : ℤ) hstart.le
      have hdiv := Int.tdiv_mul_add_tmod (tracker.startAfter timestampIndex) size
      have hne : (tracker.startAfter timestampIndex).tmod size ≠ 0 := fun h0 =>
        hdvd (Int.dvd_of_tmod_eq_zero h0)
      exact .inr (by omega)
  · rcases Nat.eq_zero_or_pos k with rfl | hk
    · rw [Nat.zero_add]
      have hstart := tdiv_mul_sub_lt hpos tracker.historyStartTimestamp
      rw [← unitStart] at hstart
      rcases h with ⟨heq, hsum⟩ | ⟨hne, -, -, hsum⟩
      · rw [bucketSum_of_iff (p := fun _ => true) fun second hsecond => ?_, List.filter_true]
        · exact hsum
        · have hlt := hlast second hsecond
          have hnonneg : 0 ≤ unitKey size (tracker.unitStart size) second.1 :=
            tdiv_nonneg_of_lt hpos (by have := hbounds second hsecond; omega)
          exact iff_of_true (by omega) rfl
      · rw [bucketSum_of_iff fun second hsecond => ?_]
        · exact hsum
        · have hlt := hlast second hsecond
          rw [decide_eq_true_eq, hmul]
          constructor
          · intro hkey
            by_contra hlt'
            have := tdiv_lt_of_lt_mul (x := second.1 - tracker.unitStart size) (m := j) hpos
              (by omega) (by omega)
            rw [unitKey] at hkey
            omega
          · intro hle
            have hadd := tdiv_add_mul hpos
              (x := second.1 - tracker.unitStart size - j * size) (by omega) j
            have hnonneg := Int.tdiv_nonneg
              (a := second.1 - tracker.unitStart size - j * size) (b := size) (by omega) hpos.le
            rw [Int.sub_add_cancel] at hadd
            rw [unitKey] at hlt ⊢
            omega
    · exact hafter k hk.ne'

/-- The seconds that stay are in the units they were in. -/
theorem unitKey_stay (hsize : 1 < size) {j : ℕ} {start b : ℤ} {history : List UsageMeasure}
    (hj : j = 0 ∨ b + j * size < start) :
    ∀ second ∈ stamped start history,
      unitKey size b second.1 = unitKey size (b + j * size) second.1 + j := by
  intro second hsecond
  rcases hj with rfl | hj
  · simp
  · have hle := (bounds_of_mem_stamped second hsecond).1
    have hadd := tdiv_add_mul (u := size) (by omega)
      (x := second.1 - (b + j * size)) (by omega) j
    rw [unitKey, unitKey, ← hadd]
    congr 1
    omega

theorem startTimestamp_afterSecond (usage : UsageMeasure) :
    (tracker.afterSecond growth timestampIndex usage).historyStartTimestamp
      = tracker.startAfter timestampIndex := rfl

theorem length_afterSecond (usage : UsageMeasure) :
    (tracker.afterSecond growth timestampIndex usage).historyBySecond.length
      = (tracker.shifted timestampIndex).length := List.length_modify _ _ _

/-- The window's end does not move back. -/
theorem end_le_shifted (hvalid : tracker.Valid) (timestampIndex : ℕ) :
    tracker.historyStartTimestamp + tracker.historyBySecond.length
      ≤ tracker.startAfter timestampIndex + (tracker.shifted timestampIndex).length := by
  have hpos := hvalid.pos
  have hle := hvalid.le
  rw [startAfter, length_shifted]
  unfold removeCount newSecondsCount
  omega

/-- The units of the seconds after the call are those of the seconds that stay, with the call's
usage. -/
theorem bucketSum_afterSecond (hvalid : tracker.Valid) (usage : UsageMeasure) (key : ℤ → ℤ)
    (k : ℤ) :
    bucketSum key (tracker.afterSecond growth timestampIndex usage).seconds k
      = bucketSum key (tracker.stay timestampIndex
        ++ [(tracker.historyStartTimestamp + timestampIndex, usage)]) k := by
  have hremove := hvalid.removeCount_le timestampIndex
  have htimestamp : tracker.startAfter timestampIndex
      + (timestampIndex - tracker.removeCount timestampIndex : ℕ)
        = tracker.historyStartTimestamp + timestampIndex := by
    rw [startAfter]
    omega
  rw [seconds, startTimestamp_afterSecond, afterSecond,
    bucketSum_stamped_modify _ _ _ _ _ _ (hvalid.index_lt _), htimestamp, bucketSum_append,
    bucketSum_append, shifted, stamped_append, bucketSum_append, bucketSum_stamped_replicate,
    add_zero, stay]

variable {j : ℕ} {usage : UsageMeasure}

/-- After a call too, the window ends with a later unit than it starts with. -/
theorem lt_endUnit_afterSecond (growth : Growth) (usage : UsageMeasure) (hsize : 1 < size)
    (hvalid : tracker.Valid)
    (hlt : tracker.historyStartTimestamp.tdiv size < tracker.endUnit size)
    (hj : (tracker.startAfter timestampIndex).tdiv size
      = tracker.historyStartTimestamp.tdiv size + j)
    (hstart : j = 0 ∨ (tracker.startAfter timestampIndex).tdiv size * size
      < tracker.startAfter timestampIndex) :
    tracker.endUnit size ≤ (tracker.afterSecond growth timestampIndex usage).endUnit size
      ∧ (tracker.startAfter timestampIndex).tdiv size
        < (tracker.afterSecond growth timestampIndex usage).endUnit size := by
  have hpos : (0 : ℤ) < size := by omega
  have hle : tracker.endUnit size
      ≤ (tracker.afterSecond growth timestampIndex usage).endUnit size := by
    refine Int.tdiv_le_tdiv hpos ?_
    have hend := end_le_shifted hvalid timestampIndex
    rw [startTimestamp_afterSecond, length_afterSecond]
    omega
  refine ⟨hle, ?_⟩
  rcases hstart with rfl | hstart
  · omega
  · have hend := lt_tdiv_mul_add hpos (tracker.startAfter timestampIndex
      + (tracker.shifted timestampIndex).length + size - 1)
    have hlen := (hvalid.afterSecond growth timestampIndex usage).pos
    rw [length_afterSecond] at hlen
    rw [endUnit, startTimestamp_afterSecond, length_afterSecond]
    have hmul : (tracker.startAfter timestampIndex).tdiv size * size
        < (tracker.startAfter timestampIndex + (tracker.shifted timestampIndex).length + size
          - 1).tdiv size * size := by omega
    exact Int.lt_of_mul_lt_mul_right hmul hpos.le

/-- The units of the seconds that stay, once those before them are dropped. -/
theorem drop_buckets_seconds (hsize : 1 < size) (n : ℕ)
    (hstart : j = 0 ∨ tracker.unitStart size + j * size < tracker.startAfter timestampIndex)
    (hgone : ∀ k : ℕ, bucketSum (unitKey size (tracker.unitStart size))
      (tracker.gone timestampIndex) (k + j : ℕ) = 0) :
    (buckets (unitKey size (tracker.unitStart size)) tracker.seconds n).drop j
      = buckets (unitKey size (tracker.unitStart size + j * size))
        (tracker.stay timestampIndex) (n - j) := by
  refine buckets_drop j fun k => ?_
  rw [seconds_eq timestampIndex, bucketSum_append, hgone, zero_add]
  refine bucketSum_congr fun second hsecond => ?_
  rw [unitKey_stay hsize hstart second hsecond]
  push_cast
  omega

/-- These units with the new ones after them. -/
theorem extend_buckets_stay (hsize : 1 < size) {n n' : ℕ} (hn : n - j ≤ n')
    (hstart : j = 0 ∨ tracker.unitStart size + j * size < tracker.startAfter timestampIndex)
    (hrange : ∀ second ∈ tracker.seconds, unitKey size (tracker.unitStart size) second.1 < n) :
    buckets (unitKey size (tracker.unitStart size + j * size)) (tracker.stay timestampIndex) (n - j)
        ++ List.replicate (n' - (n - j)) 0
      = buckets (unitKey size (tracker.unitStart size + j * size)) (tracker.stay timestampIndex)
        n' := by
  rw [buckets_extend fun second hsecond => ?_, Nat.add_sub_cancel' hn]
  have hkey := unitKey_stay hsize hstart second hsecond
  have hold := hrange second (by
    rw [seconds_eq timestampIndex]
    exact List.mem_append_right _ hsecond)
  omega

/-- The call's usage added to its unit. -/
theorem addAt_stay (hsize : 1 < size) (hvalid : tracker.Valid)
    (hfits : EndFits size (tracker.afterSecond growth timestampIndex usage))
    (hlt : (tracker.startAfter timestampIndex).tdiv size
      < (tracker.afterSecond growth timestampIndex usage).endUnit size) :
    addAt (ε := ε) usage
        ((tracker.historyStartTimestamp + timestampIndex
          - (tracker.afterSecond growth timestampIndex usage).unitStart size).tdiv size)
        (buckets (unitKey size ((tracker.afterSecond growth timestampIndex usage).unitStart size))
          (tracker.stay timestampIndex)
          ((tracker.afterSecond growth timestampIndex usage).unitsLen size
            ((tracker.afterSecond growth timestampIndex usage).unitStart size)).toNat)
      = .ok ((tracker.afterSecond growth timestampIndex usage).rebuilt size).historyByUnit := by
  have hremove := hvalid.removeCount_le timestampIndex
  have hindex := hvalid.index_lt timestampIndex
  have hstartAfter : (tracker.afterSecond growth timestampIndex usage).historyStartTimestamp
      = tracker.historyStartTimestamp + tracker.removeCount timestampIndex := rfl
  have hlength : (tracker.afterSecond growth timestampIndex usage).historyBySecond.length
      = (tracker.shifted timestampIndex).length := length_afterSecond usage
  have hkey := unitKey_range hsize hfits hlt
    (t := tracker.historyStartTimestamp + timestampIndex) (by omega) (by omega)
  rw [← unitKey, addAt_of_key usage _ ⟨hkey.1, by omega⟩]
  exact congrArg Except.ok (buckets_congr fun k _ =>
    (bucketSum_afterSecond hvalid usage _ _).symm)

/-- After a call that leaves nothing, the units are what they would be recomputed to. -/
theorem recordByUnit_eq (growth : Growth) (hsize : 1 < size) (hvalid : tracker.Valid)
    (hset : tracker.setUnitSize (ε := ε) size = .ok tracker) (usage : UsageMeasure)
    (hfits : EndFits size tracker)
    (hfits' : EndFits size (tracker.afterSecond growth timestampIndex usage))
    (hleaves : LeavesNothing size timestampIndex tracker) :
    InRange size (tracker.afterSecond growth timestampIndex usage)
      ∧ (tracker.afterSecond growth timestampIndex usage).recordByUnit (ε := ε)
          (tracker.historyStartTimestamp + timestampIndex) usage
        = .ok ((tracker.afterSecond growth timestampIndex usage).rebuilt size) := by
  obtain ⟨hrange, heq⟩ := (setUnitSize_ok_iff hsize).1 hset
  obtain ⟨j, hj, hstart, hgone⟩ := hleaves.exists_dropped hsize
  have hlt := lt_of_inRange hsize hfits hvalid hrange
  obtain ⟨hend, hlt'⟩ :=
    lt_endUnit_afterSecond growth usage hsize hvalid hlt hj hstart
  have hadded := addAt_stay (ε := ε) hsize hvalid hfits' hlt'
  set after := tracker.afterSecond growth timestampIndex usage
  refine ⟨inRange_of_lt hsize hfits' hlt', ?_⟩
  have hunits : after.historyByUnit = buckets (unitKey size (tracker.unitStart size))
      tracker.seconds (tracker.unitsLen size (tracker.unitStart size)).toNat :=
    congrArg historyByUnit heq
  have hunitsStart : after.historyByUnitStartTimestamp = tracker.unitStart size :=
    congrArg historyByUnitStartTimestamp heq
  have hunitsSize : after.unitSizeSeconds = size := congrArg unitSizeSeconds heq
  have hunitStart : after.unitStart size = tracker.unitStart size + j * size := by
    rw [unitStart, unitStart, ← Int.add_mul, ← hj]
    rfl
  have hstart' : j = 0
      ∨ tracker.unitStart size + j * size < tracker.startAfter timestampIndex := by
    rw [← hunitStart]
    exact hstart
  have hdropped := drop_buckets_seconds hsize
    (tracker.unitsLen size (tracker.unitStart size)).toNat hstart' hgone
  have hdrop : dropUnits size after.historyStartTimestamp
      (after.historyStartTimestamp - tracker.unitStart size).toNat (tracker.unitStart size)
      after.historyByUnit
      = (after.unitStart size, buckets (unitKey size (after.unitStart size))
          (tracker.stay timestampIndex)
          ((tracker.unitsLen size (tracker.unitStart size)).toNat - j)) := by
    have hpos : (0 : ℤ) < size := by omega
    have hafter := lt_tdiv_mul_add hpos after.historyStartTimestamp
    have hmul : (j : ℤ) * 1 ≤ j * size := Int.mul_le_mul_of_nonneg_left (by omega) (by omega)
    have hstart'' : j = 0
        ∨ tracker.unitStart size + j * size < after.historyStartTimestamp := hstart'
    rw [← unitStart, hunitStart] at hafter
    rw [hunitStart, ← hdropped, ← hunits]
    exact dropUnits_eq hpos j _ _ _ (by omega) hstart' hafter.le
  have hlen : tracker.unitsLen size (tracker.unitStart size)
      = tracker.endUnit size - tracker.historyStartTimestamp.tdiv size :=
    unitsLen_eq hsize hfits _
  have hlen' : after.unitsLen size (after.unitStart size)
      = after.endUnit size - (tracker.startAfter timestampIndex).tdiv size :=
    unitsLen_eq hsize hfits' _
  have hextended := extend_buckets_stay hsize
    (show (tracker.unitsLen size (tracker.unitStart size)).toNat - j
      ≤ (after.unitsLen size (after.unitStart size)).toNat by omega) hstart'
    fun second hsecond => by
      have h := hrange second hsecond
      omega
  have hcount : (after.unitsLen size (after.unitStart size)
      - ((tracker.unitsLen size (tracker.unitStart size)).toNat - j : ℕ)).toNat
      = (after.unitsLen size (after.unitStart size)).toNat
        - ((tracker.unitsLen size (tracker.unitStart size)).toNat - j) := by omega
  rw [← hunitStart] at hextended
  simp only [recordByUnit, hunitsSize, hunitsStart, hdrop, length_buckets, hcount, hextended,
    hadded, bind, Except.bind, pure, Except.pure]
  rfl

end Record

variable {size : ℕ} {calls : List UsageCall} {call : UsageCall}

theorem historyByUnit_ne_nil (hsize : 1 < size) (hvalid : tracker.Valid)
    (hset : tracker.setUnitSize (ε := ε) size = .ok tracker) : tracker.historyByUnit ≠ [] := by
  obtain ⟨hrange, heq⟩ := (setUnitSize_ok_iff hsize).1 hset
  obtain ⟨measure, history, hhistory⟩ := List.exists_cons_of_length_pos hvalid.pos
  have h := hrange (tracker.historyStartTimestamp, measure)
    (by rw [seconds, hhistory, stamped]; exact List.mem_cons_self)
  have hlen : tracker.historyByUnit.length
      = (tracker.unitsLen size (tracker.unitStart size)).toNat := by
    rw [congrArg historyByUnit heq]
    exact length_buckets
  refine List.ne_nil_of_length_pos ?_
  omega

theorem units_step (growth : Growth) (hsize : 1 < size) (hvalid : tracker.Valid)
    (hset : tracker.setUnitSize (ε := Empty) size = .ok tracker)
    (hcall : UnitRegular size tracker call) :
    ∃ tracker', step growth tracker call = some tracker' ∧ tracker'.Valid
      ∧ tracker'.setUnitSize (ε := Empty) size = .ok tracker' := by
  rcases lt_or_ge call.timestamp tracker.historyStartTimestamp with hlt | hge
  · refine ⟨tracker, ?_, hvalid, hset⟩
    rw [step, recordUsage_of_lt hcall.fits.1 hlt]
    rfl
  · obtain ⟨timestampIndex, hindex⟩ := Int.eq_ofNat_of_zero_le (Int.sub_nonneg.2 hge)
    have htimestamp : call.timestamp = tracker.historyStartTimestamp + timestampIndex := by omega
    obtain ⟨hfits, hend⟩ := hcall.endFits timestampIndex htimestamp
    have hfits' : EndFits size (tracker.afterSecond growth timestampIndex call.usage) := by
      have hle := end_le_shifted hvalid timestampIndex
      unfold EndFits at hfits ⊢
      rw [startTimestamp_afterSecond, length_afterSecond]
      omega
    obtain ⟨hrange, hunits⟩ := recordByUnit_eq growth hsize hvalid hset call.usage hfits
      hfits' (hcall.leavesNothing timestampIndex htimestamp)
    have hempty : tracker.historyByUnit.isEmpty = false :=
      List.isEmpty_eq_false_iff.2 (historyByUnit_ne_nil hsize hvalid hset)
    have hvalid' := hvalid.afterSecond growth timestampIndex call.usage
    refine ⟨(tracker.afterSecond growth timestampIndex call.usage).rebuilt size, ?_,
      ⟨hvalid'.pos, hvalid'.le⟩, (setUnitSize_ok_iff hsize).2 ⟨hrange, rfl⟩⟩
    have hlt := hcall.fits.2
    rw [step, htimestamp, hvalid.recordUsage_of_le (by omega), hempty, hunits]
    rfl

theorem units_run (hsize : 1 < size) (hvalid : tracker.Valid)
    (hset : tracker.setUnitSize (ε := Empty) size = .ok tracker)
    (hcalls : AlongRun (step growth) (UnitRegular size) tracker calls) :
    ∃ tracker', runSteps (step growth) tracker calls = some tracker'
      ∧ tracker'.setUnitSize (ε := Empty) size = .ok tracker' := by
  induction calls generalizing tracker with
  | nil => exact ⟨tracker, rfl, hset⟩
  | cons call calls ih =>
    obtain ⟨tracker', hstep, hvalid', hset'⟩ :=
      units_step growth hsize hvalid hset hcalls.1
    obtain ⟨tracker'', hrun, hend⟩ := ih hvalid' hset' (hcalls.2 tracker' hstep)
    exact ⟨tracker'', runSteps_cons.2 ⟨tracker', hstep, hrun⟩, hend⟩

/-- After calls that leave nothing, setting the unit size again gives the tracker that is there. -/
theorem units_agree (growth : Growth) (hsize : 1 < size) (hvalid : tracker.Valid)
    (hset : tracker.setUnitSize (ε := Empty) size = .ok tracker')
    (hcalls : AlongRun (step growth) (UnitRegular size) tracker' calls) :
    ∃ tracker'', runSteps (step growth) tracker' calls = some tracker''
      ∧ tracker''.setUnitSize (ε := Empty) size = .ok tracker'' := by
  obtain ⟨hrange, rfl⟩ := (setUnitSize_ok_iff hsize).1 hset
  exact units_run hsize ⟨hvalid.pos, hvalid.le⟩ ((setUnitSize_ok_iff hsize).2 ⟨hrange, rfl⟩) hcalls

theorem unitRegular_of_index (timestampIndex : ℕ)
    (htimestamp : call.timestamp = tracker.historyStartTimestamp + timestampIndex)
    (hfits : timestampIndex < 2 ^ 63) (hend : EndFits size tracker)
    (hend' : tracker.startAfter timestampIndex
      + (tracker.shifted timestampIndex).length + size - 1 < 2 ^ 63)
    (hleaves : LeavesNothing size timestampIndex tracker) : UnitRegular size tracker call where
  fits := by omega
  endFits i hi := by
    obtain rfl : i = timestampIndex := by omega
    exact ⟨hend, hend'⟩
  leavesNothing i hi := by
    obtain rfl : i = timestampIndex := by omega
    exact hleaves

/-- With the second of them a second gives way, and with the third a whole unit does. -/
def leavingCalls : List UsageCall := [⟨1, 3, 4⟩, ⟨2, 0, 0⟩, ⟨4, 2, 2⟩]

theorem units_agree_once :
    runSteps (step ⟨id, le_refl⟩) ⟨[0], 2, 0, [0], 0, 2⟩ leavingCalls
        = some ⟨[0, ⟨2, 2⟩], 2, 3, [0, ⟨2, 2⟩], 2, 2⟩
      ∧ (⟨[0, ⟨2, 2⟩], 2, 3, [0, ⟨2, 2⟩], 2, 2⟩ : UsageTracker).setUnitSize (ε := Empty) 2
        = .ok ⟨[0, ⟨2, 2⟩], 2, 3, [0, ⟨2, 2⟩], 2, 2⟩ := by
  have hrun : runSteps (step ⟨id, le_refl⟩) ⟨[0], 2, 0, [0], 0, 2⟩ leavingCalls
      = some ⟨[0, ⟨2, 2⟩], 2, 3, [0, ⟨2, 2⟩], 2, 2⟩ := rfl
  have hcalls : AlongRun (step ⟨id, le_refl⟩) (UnitRegular 2) ⟨[0], 2, 0, [0], 0, 2⟩
      leavingCalls := by
    refine .cons ?_ (show _ = some ⟨[0, ⟨3, 4⟩], 2, 0, [⟨3, 4⟩], 0, 2⟩ from rfl) <|
      .cons ?_ (show _ = some ⟨[⟨3, 4⟩, 0], 2, 1, [⟨3, 4⟩, 0], 0, 2⟩ from rfl) <|
      .cons ?_ rfl trivial
    · exact unitRegular_of_index 1 rfl (by decide) ⟨by decide, by decide⟩ (by decide)
        (.inl ⟨rfl, rfl⟩)
    · exact unitRegular_of_index 2 rfl (by decide) ⟨by decide, by decide⟩ (by decide)
        (.inl ⟨rfl, rfl⟩)
    · exact unitRegular_of_index 3 rfl (by decide) ⟨by decide, by decide⟩ (by decide)
        (.inr ⟨by decide, by decide, by decide, rfl⟩)
  obtain ⟨tracker, hrun', hagree⟩ := units_agree _ (by decide)
    (show (new 2 0).Valid from ⟨by decide, by decide⟩) rfl hcalls
  obtain rfl := Option.some.inj (hrun.symm.trans hrun')
  exact ⟨hrun, hagree⟩

/-- A window that has come to a unit's first second still has the unit before it. -/
theorem not_units_agree_aligned :
    ¬ ∃ tracker' tracker'', (new 2 0).setUnitSize (ε := Empty) 2 = .ok tracker'
      ∧ runSteps (step ⟨id, le_refl⟩) tracker' [⟨1, 0, 0⟩, ⟨3, 0, 0⟩] = some tracker''
      ∧ tracker''.setUnitSize (ε := Empty) 2 = .ok tracker'' := by
  rintro ⟨tracker', tracker'', hset, hrun, hagree⟩
  have hset' : (new 2 0).setUnitSize (ε := Empty) 2 = .ok ⟨[0], 2, 0, [0], 0, 2⟩ := rfl
  obtain rfl := Except.ok.inj (hset'.symm.trans hset)
  have hrun' : runSteps (step ⟨id, le_refl⟩) ⟨[0], 2, 0, [0], 0, 2⟩ [⟨1, 0, 0⟩, ⟨3, 0, 0⟩]
      = some ⟨[0, 0], 2, 2, [0, 0], 0, 2⟩ := rfl
  obtain rfl := Option.some.inj (hrun'.symm.trans hrun)
  have hagree' : (⟨[0, 0], 2, 2, [0, 0], 0, 2⟩ : UsageTracker).setUnitSize (ε := Empty) 2
      = .ok ⟨[0, 0], 2, 2, [0], 2, 2⟩ := rfl
  exact absurd (Except.ok.inj (hagree'.symm.trans hagree)) (by decide)

end UsageTracker

end DustDevil
