import Mathlib.Algebra.GroupWithZero.Nat
import Mathlib.Algebra.Order.Group.Int
import Mathlib.Tactic.SplitIfs
import DustDevil.Client.UsageTracker
import DustDevil.Lib.Steps

/-!
# What is recorded of each second

As long as no timestamp leaves more seconds out than the deque has room for, its last entry is that
of the latest timestamp and each one is the usage recorded for its second (`usage_recorded`).
-/

namespace DustDevil

open Wire

namespace UsageTracker

variable {ε : Type} {growth : Growth} {tracker tracker' : UsageTracker}

theorem wrapI64_of_fits {x : ℤ} (hle : -2 ^ 63 ≤ x) (hlt : x < 2 ^ 63) : wrapI64 x = x :=
  Int.bmod_eq_of_le (by omega) (by omega)

theorem addAt_ok (usage : UsageMeasure) {index : ℕ} {history : List UsageMeasure}
    (h : index < history.length) :
    addAt (ε := ε) usage (index : ℤ) history = .ok (history.modify index (· + usage)) := by
  rw [addAt, if_pos ⟨Int.natCast_nonneg _, by omega⟩, Int.toNat_natCast]

/-- What the deque and the clock see to: there is a second, and there is room for all of them. -/
structure Valid (tracker : UsageTracker) : Prop where
  pos : 1 ≤ tracker.historyBySecond.length
  le : tracker.historyBySecond.length ≤ tracker.capacity

/-- The seconds after those that give way, with the new ones. -/
def shifted (tracker : UsageTracker) (timestampIndex : ℕ) : List UsageMeasure :=
  tracker.historyBySecond.drop (tracker.removeCount timestampIndex)
    ++ List.replicate (tracker.newSecondsCount timestampIndex) 0

variable {timestampIndex : ℕ}

theorem length_shifted (timestampIndex : ℕ) (tracker : UsageTracker) :
    (tracker.shifted timestampIndex).length
      = tracker.historyBySecond.length - tracker.removeCount timestampIndex
        + tracker.newSecondsCount timestampIndex := by
  rw [shifted, List.length_append, List.length_drop, List.length_replicate]

theorem Valid.removeCount_le (h : tracker.Valid) (timestampIndex : ℕ) :
    tracker.removeCount timestampIndex ≤ timestampIndex := by
  have hpos := h.pos
  have hle := h.le
  unfold removeCount newSecondsCount
  omega

theorem Valid.index_lt (h : tracker.Valid) (timestampIndex : ℕ) :
    timestampIndex - tracker.removeCount timestampIndex
      < (tracker.shifted timestampIndex).length := by
  have hpos := h.pos
  have hle := h.le
  rw [length_shifted]
  unfold removeCount newSecondsCount
  omega

/-- What is left of a tracker, whatever its units are. -/
def afterSecond (growth : Growth) (timestampIndex : ℕ) (usage : UsageMeasure)
    (tracker : UsageTracker) : UsageTracker where
  historyBySecond := (tracker.shifted timestampIndex).modify
    (timestampIndex - tracker.removeCount timestampIndex) (· + usage)
  capacity :=
    if (tracker.shifted timestampIndex).length ≤ tracker.capacity then tracker.capacity
    else growth.capacityFor (tracker.shifted timestampIndex).length
  historyStartTimestamp := tracker.historyStartTimestamp + tracker.removeCount timestampIndex
  historyByUnit := tracker.historyByUnit
  historyByUnitStartTimestamp := tracker.historyByUnitStartTimestamp
  unitSizeSeconds := tracker.unitSizeSeconds

theorem Valid.recordBySecond_ok (h : tracker.Valid) (usage : UsageMeasure) :
    tracker.recordBySecond (ε := ε) growth timestampIndex usage
      = .ok (tracker.afterSecond growth timestampIndex usage) := by
  have hindex : (timestampIndex - tracker.removeCount timestampIndex : ℤ)
      = ((timestampIndex - tracker.removeCount timestampIndex : ℕ) : ℤ) :=
    (Int.natCast_sub (h.removeCount_le _)).symm
  have hadd := addAt_ok (ε := ε) usage (h.index_lt timestampIndex)
  rw [shifted] at hadd
  simp only [recordBySecond, hindex, hadd, bind, Except.bind, pure, Except.pure, afterSecond,
    shifted]
  rfl

theorem Valid.afterSecond (h : tracker.Valid) (growth : Growth) (timestampIndex : ℕ)
    (usage : UsageMeasure) :
    (tracker.afterSecond growth timestampIndex usage).Valid := by
  have hlt := h.index_lt timestampIndex
  constructor
  · simp only [UsageTracker.afterSecond, List.length_modify]
    omega
  · simp only [UsageTracker.afterSecond, List.length_modify]
    split_ifs with hroom
    · exact hroom
    · exact growth.le _

theorem recordUsage_of_lt {timestamp : ℤ} {usage : UsageMeasure}
    (hfits : -2 ^ 63 ≤ timestamp - tracker.historyStartTimestamp)
    (hlt : timestamp < tracker.historyStartTimestamp) :
    tracker.recordUsage (ε := ε) growth timestamp usage = .ok tracker := by
  rw [recordUsage, wrapI64_of_fits hfits (by omega), if_pos (by omega)]

theorem Valid.recordUsage_of_le (h : tracker.Valid) {usage : UsageMeasure}
    (hfits : (timestampIndex : ℤ) < 2 ^ 63) :
    tracker.recordUsage (ε := ε) growth (tracker.historyStartTimestamp + timestampIndex) usage
      = if tracker.historyByUnit.isEmpty then
          .ok (tracker.afterSecond growth timestampIndex usage)
        else (tracker.afterSecond growth timestampIndex usage).recordByUnit
          (tracker.historyStartTimestamp + timestampIndex) usage := by
  have hv : wrapI64 (tracker.historyStartTimestamp + timestampIndex
      - tracker.historyStartTimestamp) = timestampIndex := by
    rw [add_sub_cancel_left]
    exact wrapI64_of_fits (by omega) hfits
  rw [recordUsage, hv, if_neg (by omega), Int.toNat_natCast, h.recordBySecond_ok]
  rfl

/-! ## The window -/

/-- A measure is the sums of the usage of some calls. -/
def IsSum (measure : UsageMeasure) (calls : List UsageCall) : Prop :=
  measure.sent.toNat = (calls.map fun call => call.usage.sent.toNat).sum
    ∧ measure.received.toNat = (calls.map fun call => call.usage.received.toNat).sum

/-- The history after some calls, on a deque of some capacity. -/
structure Tracks (capacity : ℕ) (timestampNow : ℤ) (calls : List UsageCall)
    (tracker : UsageTracker) : Prop where
  pos : 1 ≤ tracker.historyBySecond.length
  le : tracker.historyBySecond.length ≤ capacity
  capacity_eq : tracker.capacity = capacity
  latest : tracker.getLatestTimestamp
    = calls.foldl (fun latest call => max latest call.timestamp) timestampNow
  entry : ∀ (i : ℕ) measure, tracker.historyBySecond[i]? = some measure →
    IsSum measure (calls.filter (·.timestamp = tracker.historyStartTimestamp + i))

/-- A call whose timestamp is not further ahead than the deque is long, with as much usage as its
second has room for. -/
structure Regular (tracker : UsageTracker) (call : UsageCall) : Prop where
  fits : -2 ^ 63 ≤ call.timestamp - tracker.historyStartTimestamp
    ∧ call.timestamp - tracker.historyStartTimestamp < 2 ^ 63
  near : call.timestamp ≤ tracker.getLatestTimestamp + tracker.capacity
  room : ∀ (i : ℕ) measure, call.timestamp = tracker.historyStartTimestamp + i →
    tracker.historyBySecond[i]? = some measure →
      measure.sent.toNat + call.usage.sent.toNat < 2 ^ 64
        ∧ measure.received.toNat + call.usage.received.toNat < 2 ^ 64

theorem IsSum.add {measure : UsageMeasure} {calls : List UsageCall} {call : UsageCall}
    (h : IsSum measure calls)
    (hroom : measure.sent.toNat + call.usage.sent.toNat < 2 ^ 64
      ∧ measure.received.toNat + call.usage.received.toNat < 2 ^ 64) :
    IsSum (measure + call.usage) (calls ++ [call]) := by
  constructor
  · rw [UsageMeasure.sent_add, UInt64.toNat_add, Nat.mod_eq_of_lt hroom.1, h.1]
    simp
  · rw [UsageMeasure.received_add, UInt64.toNat_add, Nat.mod_eq_of_lt hroom.2, h.2]
    simp

theorem isSum_zero : IsSum 0 [] := ⟨rfl, rfl⟩

variable {capacity : ℕ} {timestampNow : ℤ} {calls : List UsageCall}

theorem tracks_new (hcapacity : 1 ≤ capacity) :
    Tracks capacity timestampNow [] (new capacity timestampNow) where
  pos := le_rfl
  le := hcapacity
  capacity_eq := rfl
  latest := by simp [getLatestTimestamp, new]
  entry i measure h := by
    cases i with
    | zero =>
      obtain rfl : 0 = measure := Option.some.inj h
      exact isSum_zero
    | succ i => nomatch h

theorem Tracks.valid (h : Tracks capacity timestampNow calls tracker) : tracker.Valid :=
  ⟨h.pos, h.capacity_eq ▸ h.le⟩

theorem le_foldl_max (calls : List UsageCall) (timestamp : ℤ) :
    timestamp ≤ calls.foldl (fun latest call => max latest call.timestamp) timestamp
      ∧ ∀ call ∈ calls,
        call.timestamp ≤ calls.foldl (fun latest call => max latest call.timestamp) timestamp := by
  induction calls generalizing timestamp with
  | nil => simp
  | cons call calls ih =>
    obtain ⟨hle, hcalls⟩ := ih (max timestamp call.timestamp)
    rw [List.foldl_cons, List.forall_mem_cons]
    exact ⟨(le_max_left _ _).trans hle, (le_max_right _ _).trans hle, hcalls⟩

/-- No call was for a second after the latest. -/
theorem Tracks.filter_after (h : Tracks capacity timestampNow calls tracker) {timestamp : ℤ}
    (hlt : tracker.getLatestTimestamp < timestamp) :
    calls.filter (·.timestamp = timestamp) = [] := by
  refine List.filter_eq_nil_iff.2 fun call hcall => ?_
  have hle := (le_foldl_max calls timestampNow).2 call hcall
  rw [← h.latest] at hle
  simp only [decide_eq_true_eq]
  omega

/-- What the seconds hold once some have given way to new ones. -/
theorem Tracks.isSum_shifted (h : Tracks capacity timestampNow calls tracker) {i : ℕ}
    {measure : UsageMeasure} (hi : (tracker.shifted timestampIndex)[i]? = some measure) :
    (tracker.historyBySecond[tracker.removeCount timestampIndex + i]? = some measure ∨ measure = 0)
      ∧ IsSum measure (calls.filter
        (·.timestamp
          = tracker.historyStartTimestamp + tracker.removeCount timestampIndex + i)) := by
  rw [shifted, List.getElem?_append, List.length_drop] at hi
  split_ifs at hi with hold
  · rw [List.getElem?_drop] at hi
    have hentry := h.entry _ measure hi
    rw [Int.natCast_add, ← add_assoc] at hentry
    exact ⟨.inl hi, hentry⟩
  · rw [List.getElem?_replicate] at hi
    split_ifs at hi
    obtain rfl := Option.some.inj hi
    have hlt : tracker.getLatestTimestamp
        < tracker.historyStartTimestamp + tracker.removeCount timestampIndex + i := by
      have hpos := h.pos
      unfold getLatestTimestamp
      omega
    rw [h.filter_after hlt]
    exact ⟨.inr rfl, isSum_zero⟩

theorem Tracks.afterSecond (h : Tracks capacity timestampNow calls tracker) {call : UsageCall}
    (hcall : Regular tracker call)
    (htimestamp : call.timestamp = tracker.historyStartTimestamp + timestampIndex) :
    Tracks capacity timestampNow (calls ++ [call])
      (tracker.afterSecond growth timestampIndex call.usage) := by
  have hvalid := h.valid
  have hcap := h.capacity_eq
  have hnear := hcall.near
  have hpos := h.pos
  have hle := h.le
  have hremove := hvalid.removeCount_le timestampIndex
  have hlength := length_shifted timestampIndex tracker
  have hcounts : tracker.removeCount timestampIndex
      = tracker.historyBySecond.length + (timestampIndex + 1 - tracker.historyBySecond.length)
        - capacity := by
    rw [removeCount, newSecondsCount, hcap]
  rw [newSecondsCount] at hlength
  rw [getLatestTimestamp, htimestamp, hcap] at hnear
  have hroom : (tracker.shifted timestampIndex).length ≤ tracker.capacity := by omega
  refine ⟨(hvalid.afterSecond growth _ call.usage).pos, ?_, ?_, ?_, ?_⟩
  · simp only [UsageTracker.afterSecond, List.length_modify]
    omega
  · exact (if_pos hroom).trans hcap
  · rw [List.foldl_append, ← h.latest]
    simp only [getLatestTimestamp, UsageTracker.afterSecond, List.length_modify, List.foldl_cons,
      List.foldl_nil, htimestamp]
    omega
  · intro i measure hi
    change ((tracker.shifted timestampIndex).modify _ _)[i]? = _ at hi
    change IsSum measure ((calls ++ [call]).filter (·.timestamp
      = tracker.historyStartTimestamp + tracker.removeCount timestampIndex + i))
    rw [List.getElem?_modify] at hi
    obtain ⟨base, hbase, rfl⟩ := Option.map_eq_some_iff.1 hi
    obtain ⟨hold, hsum⟩ := h.isSum_shifted hbase
    rw [List.filter_append]
    by_cases hhere : timestampIndex - tracker.removeCount timestampIndex = i
    · have heq : call.timestamp
          = tracker.historyStartTimestamp + tracker.removeCount timestampIndex + i := by omega
      rw [if_pos hhere, List.filter_cons_of_pos (by simpa using heq), List.filter_nil]
      refine hsum.add ?_
      rcases hold with hold | rfl
      · exact hcall.room _ base (by rw [heq]; push_cast; omega) hold
      · have hsent := call.usage.sent.toNat_lt
        have hreceived := call.usage.received.toNat_lt
        simpa using ⟨hsent, hreceived⟩
    · have hne : call.timestamp
          ≠ tracker.historyStartTimestamp + tracker.removeCount timestampIndex + i := by omega
      rw [if_neg hhere, List.filter_cons_of_neg (by simpa using hne), List.filter_nil,
        List.append_nil]
      exact hsum

/-- A call for a second before the window changes nothing. -/
theorem Tracks.of_lt (h : Tracks capacity timestampNow calls tracker) {call : UsageCall}
    (hlt : call.timestamp < tracker.historyStartTimestamp) :
    Tracks capacity timestampNow (calls ++ [call]) tracker where
  pos := h.pos
  le := h.le
  capacity_eq := h.capacity_eq
  latest := by
    rw [List.foldl_append, ← h.latest, List.foldl_cons, List.foldl_nil, getLatestTimestamp]
    omega
  entry i measure hi := by
    rw [List.filter_append, List.filter_cons_of_neg (by simp; omega), List.filter_nil,
      List.append_nil]
    exact h.entry i measure hi

theorem Tracks.step (growth : Growth) (h : Tracks capacity timestampNow calls tracker)
    (hunits : tracker.historyByUnit = []) {call : UsageCall} (hcall : Regular tracker call) :
    ∃ tracker', step growth tracker call = some tracker'
      ∧ Tracks capacity timestampNow (calls ++ [call]) tracker' ∧ tracker'.historyByUnit = [] := by
  rcases lt_or_ge call.timestamp tracker.historyStartTimestamp with hlt | hge
  · refine ⟨tracker, ?_, h.of_lt hlt, hunits⟩
    rw [UsageTracker.step, recordUsage_of_lt hcall.fits.1 hlt]
    rfl
  · obtain ⟨timestampIndex, hindex⟩ := Int.eq_ofNat_of_zero_le (Int.sub_nonneg.2 hge)
    have htimestamp : call.timestamp = tracker.historyStartTimestamp + timestampIndex := by omega
    refine ⟨tracker.afterSecond growth timestampIndex call.usage, ?_,
      h.afterSecond hcall htimestamp, hunits⟩
    have hfits := hcall.fits.2
    rw [UsageTracker.step, htimestamp, h.valid.recordUsage_of_le (by omega), hunits]
    rfl

theorem Tracks.run (hunits : tracker.historyByUnit = []) :
    ∀ {later : List UsageCall}, Tracks capacity timestampNow calls tracker →
      AlongRun (UsageTracker.step growth) Regular tracker later →
      ∃ tracker', runSteps (UsageTracker.step growth) tracker later = some tracker'
        ∧ Tracks capacity timestampNow (calls ++ later) tracker' := by
  intro later h hlater
  induction later generalizing tracker calls with
  | nil => exact ⟨tracker, rfl, by rwa [List.append_nil]⟩
  | cons call later ih =>
    obtain ⟨tracker', hstep, htracks, hunits'⟩ := h.step growth hunits hlater.1
    obtain ⟨tracker'', hrun, hend⟩ := ih hunits' htracks (hlater.2 tracker' hstep)
    refine ⟨tracker'', runSteps_cons.2 ⟨tracker', hstep, hrun⟩, ?_⟩
    rwa [← List.append_cons] at hend

/-- After calls of which each is regular where it comes, the window is that of the latest second, no
longer than the deque, and has what was recorded for each of its seconds. -/
theorem usage_recorded (growth : Growth) (hcapacity : 1 ≤ capacity) (timestampNow : ℤ)
    (hcalls : AlongRun (UsageTracker.step growth) Regular (new capacity timestampNow) calls) :
    ∃ tracker, runSteps (UsageTracker.step growth) (new capacity timestampNow) calls = some tracker
      ∧ Tracks capacity timestampNow calls tracker :=
  Tracks.run rfl (tracks_new hcapacity) hcalls

theorem regular_of_index {call : UsageCall} (timestampIndex : ℕ)
    (htimestamp : call.timestamp = tracker.historyStartTimestamp + timestampIndex)
    (hfits : timestampIndex < 2 ^ 63)
    (hnear : call.timestamp ≤ tracker.getLatestTimestamp + tracker.capacity)
    (hroom : ∀ measure ∈ tracker.historyBySecond[timestampIndex]?,
      measure.sent.toNat + call.usage.sent.toNat < 2 ^ 64
        ∧ measure.received.toNat + call.usage.received.toNat < 2 ^ 64) :
    Regular tracker call where
  fits := by omega
  near := hnear
  room i measure hi hmeasure := by
    obtain rfl : i = timestampIndex := by omega
    exact hroom measure hmeasure

/-- The window moves on with the second and the third of them. -/
def movingCalls : List UsageCall := [⟨1, 3, 4⟩, ⟨2, 1, 0⟩, ⟨4, 5, 5⟩]

theorem usage_recorded_once :
    runSteps (UsageTracker.step ⟨id, le_refl⟩) (new 2 0) movingCalls
        = some ⟨[0, ⟨5, 5⟩], 2, 3, [], 0, 1⟩
      ∧ Tracks 2 0 movingCalls ⟨[0, ⟨5, 5⟩], 2, 3, [], 0, 1⟩ := by
  have hrun : runSteps (UsageTracker.step ⟨id, le_refl⟩) (new 2 0) movingCalls
      = some ⟨[0, ⟨5, 5⟩], 2, 3, [], 0, 1⟩ := rfl
  have hcalls : AlongRun (UsageTracker.step ⟨id, le_refl⟩) Regular (new 2 0) movingCalls := by
    refine .cons ?_ (show _ = some ⟨[0, ⟨3, 4⟩], 2, 0, [], 0, 1⟩ from rfl) <|
      .cons ?_ (show _ = some ⟨[⟨3, 4⟩, ⟨1, 0⟩], 2, 1, [], 0, 1⟩ from rfl) <| .cons ?_ rfl trivial
    · exact regular_of_index 1 rfl (by decide) (by decide) (by decide)
    · exact regular_of_index 2 rfl (by decide) (by decide) (by decide)
    · exact regular_of_index 3 rfl (by decide) (by decide) (by decide)
  obtain ⟨tracker, hrun', htracks⟩ := usage_recorded _ (by decide) 0 hcalls
  obtain rfl := Option.some.inj (hrun.symm.trans hrun')
  exact ⟨hrun, htracks⟩

/-- Five seconds on, a deque for two has five, and its last one is of a second yet to come. -/
theorem not_tracks_after_sleep :
    ¬ ∃ tracker, runSteps (UsageTracker.step ⟨id, le_refl⟩) (new 2 0) [⟨5, 1, 0⟩] = some tracker
      ∧ Tracks 2 0 [⟨5, 1, 0⟩] tracker := by
  rintro ⟨tracker, hrun, htracks⟩
  have hend : runSteps (UsageTracker.step ⟨id, le_refl⟩) (new 2 0) [⟨5, 1, 0⟩]
      = some ⟨[0, ⟨1, 0⟩, 0, 0, 0], 5, 4, [], 0, 1⟩ := rfl
  obtain rfl := Option.some.inj (hend.symm.trans hrun)
  exact absurd htracks.le (by decide)

end UsageTracker

end DustDevil
