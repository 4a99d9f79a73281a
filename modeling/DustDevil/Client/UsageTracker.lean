import Mathlib.Algebra.Group.Defs
import Mathlib.Algebra.Group.Nat.Defs
import DustDevil.Lib.Proc

/-!
# The usage of the last seconds

The client's `usage_tracker.rs`: how many bytes went through in each second of a window that ends
with the latest one, and the same by units of several seconds. A timestamp is an `i64`, whose
differences and ends wrap around; the bytes of a second are counted in a `u64`, that does so too.
How a full `VecDeque` grows is a parameter.
-/

namespace DustDevil

open Wire

/-- An `i64` in which a result is kept. -/
def wrapI64 (x : ℤ) : ℤ := x.bmod (2 ^ 64)

@[ext]
structure UsageMeasure where
  sent : UInt64
  received : UInt64
  deriving DecidableEq, Repr

namespace UsageMeasure

def zero : UsageMeasure := ⟨0, 0⟩

def add (x y : UsageMeasure) : UsageMeasure := ⟨x.sent + y.sent, x.received + y.received⟩

def sum (measure : UsageMeasure) : UInt64 := measure.sent + measure.received

instance : Zero UsageMeasure := ⟨zero⟩

instance : Add UsageMeasure := ⟨add⟩

instance : AddCommMonoid UsageMeasure where
  add_assoc x y z := by
    ext1
    · exact UInt64.add_assoc x.sent y.sent z.sent
    · exact UInt64.add_assoc x.received y.received z.received
  zero_add x := by
    ext1
    · exact UInt64.zero_add x.sent
    · exact UInt64.zero_add x.received
  add_zero x := by
    ext1
    · exact UInt64.add_zero x.sent
    · exact UInt64.add_zero x.received
  add_comm x y := by
    ext1
    · exact UInt64.add_comm x.sent y.sent
    · exact UInt64.add_comm x.received y.received
  nsmul := nsmulRec

@[simp] theorem sent_zero : (0 : UsageMeasure).sent = 0 := rfl

@[simp] theorem received_zero : (0 : UsageMeasure).received = 0 := rfl

@[simp] theorem sent_add (x y : UsageMeasure) : (x + y).sent = x.sent + y.sent := rfl

@[simp] theorem received_add (x y : UsageMeasure) :
    (x + y).received = x.received + y.received := rfl

end UsageMeasure

/-- The capacity of a `VecDeque` once it has had to grow for so many elements. -/
structure Growth where
  capacityFor : ℕ → ℕ
  le : ∀ n, n ≤ capacityFor n

structure UsageTracker where
  historyBySecond : List UsageMeasure
  /-- `history_by_second.capacity()`. -/
  capacity : ℕ
  historyStartTimestamp : ℤ
  historyByUnit : List UsageMeasure
  historyByUnitStartTimestamp : ℤ
  unitSizeSeconds : ℕ
  deriving DecidableEq, Repr

namespace UsageTracker

variable {ε : Type}

/-- A tracker whose deque has a capacity once its first second is in it. -/
def new (capacity : ℕ) (timestampNow : ℤ) : UsageTracker where
  historyBySecond := [0]
  capacity := capacity
  historyStartTimestamp := timestampNow
  historyByUnit := []
  historyByUnitStartTimestamp := 0
  unitSizeSeconds := 1

/-- Adding to an entry, which panics where there is none. -/
def addAt (usage : UsageMeasure) (index : ℤ) (history : List UsageMeasure) :
    Except (Stop ε) (List UsageMeasure) :=
  if 0 ≤ index ∧ index < history.length then .ok (history.modify index.toNat (· + usage))
  else .error .panic

/-- How many seconds are added for one at an index. -/
def newSecondsCount (tracker : UsageTracker) (timestampIndex : ℕ) : ℕ :=
  timestampIndex + 1 - tracker.historyBySecond.length

/-- How many seconds give way to these. -/
def removeCount (tracker : UsageTracker) (timestampIndex : ℕ) : ℕ :=
  tracker.historyBySecond.length + tracker.newSecondsCount timestampIndex - tracker.capacity

/-- The part of `record_usage` on `history_by_second`. -/
def recordBySecond (growth : Growth) (timestampIndex : ℕ) (usage : UsageMeasure)
    (tracker : UsageTracker) : Except (Stop ε) UsageTracker := do
  let newSecondsCount := tracker.newSecondsCount timestampIndex
  let removeCount := tracker.removeCount timestampIndex
  let history := tracker.historyBySecond.drop removeCount ++ List.replicate newSecondsCount 0
  let historyBySecond ← addAt usage (timestampIndex - removeCount : ℤ) history
  pure { tracker with
    historyBySecond := historyBySecond
    capacity :=
      if history.length ≤ tracker.capacity then tracker.capacity
      else growth.capacityFor history.length
    historyStartTimestamp := tracker.historyStartTimestamp + removeCount }

/-- The `while` that drops units, of at most `fuel` rounds. -/
def dropUnits (unitSizeSeconds start : ℤ) : ℕ → ℤ → List UsageMeasure → ℤ × List UsageMeasure
  | 0, byUnitStart, byUnit => (byUnitStart, byUnit)
  | fuel + 1, byUnitStart, byUnit =>
    if byUnitStart + unitSizeSeconds < start then
      dropUnits unitSizeSeconds start fuel (byUnitStart + unitSizeSeconds) (byUnit.drop 1)
    else (byUnitStart, byUnit)

/-- How many units there are from one to that of the window's last second. -/
def unitsLen (tracker : UsageTracker) (unitSizeSeconds byUnitStart : ℤ) : ℤ :=
  let endPlus := wrapI64 (tracker.historyStartTimestamp + tracker.historyBySecond.length
    + unitSizeSeconds - 1)
  let byUnitEnd := endPlus.tdiv unitSizeSeconds * unitSizeSeconds
  (byUnitEnd - byUnitStart).tdiv unitSizeSeconds

/-- The part of `record_usage` on `history_by_unit`. Each round of the first loop moves on by a
second at least. -/
def recordByUnit (timestamp : ℤ) (usage : UsageMeasure) (tracker : UsageTracker) :
    Except (Stop ε) UsageTracker := do
  let unitSizeSeconds : ℤ := tracker.unitSizeSeconds
  let start := tracker.historyStartTimestamp
  let (byUnitStart, byUnit) := dropUnits unitSizeSeconds start
    (start - tracker.historyByUnitStartTimestamp).toNat tracker.historyByUnitStartTimestamp
    tracker.historyByUnit
  let unitsLen := tracker.unitsLen unitSizeSeconds byUnitStart
  let byUnit := byUnit ++ List.replicate (unitsLen - byUnit.length).toNat 0
  let byUnit ← addAt usage ((timestamp - byUnitStart).tdiv unitSizeSeconds) byUnit
  pure { tracker with historyByUnit := byUnit, historyByUnitStartTimestamp := byUnitStart }

def recordUsage (growth : Growth) (timestamp : ℤ) (usage : UsageMeasure) (tracker : UsageTracker) :
    Except (Stop ε) UsageTracker :=
  let v := wrapI64 (timestamp - tracker.historyStartTimestamp)
  if v < 0 then .ok tracker
  else do
    let tracker ← tracker.recordBySecond growth v.toNat usage
    if tracker.historyByUnit.isEmpty then pure tracker
    else tracker.recordByUnit timestamp usage

/-- The seconds of a history, each with its timestamp. -/
def stamped : ℤ → List UsageMeasure → List (ℤ × UsageMeasure)
  | _, [] => []
  | timestamp, measure :: history => (timestamp, measure) :: stamped (timestamp + 1) history

/-- The loop in which each second's usage is added to its unit. -/
def addSeconds (unitSizeSeconds byUnitStart : ℤ) :
    List (ℤ × UsageMeasure) → List UsageMeasure → Except (Stop ε) (List UsageMeasure)
  | [], byUnit => .ok byUnit
  | (timestamp, measure) :: seconds, byUnit => do
    let byUnit ← addAt measure ((timestamp - byUnitStart).tdiv unitSizeSeconds) byUnit
    addSeconds unitSizeSeconds byUnitStart seconds byUnit

def setUnitSize (unitSizeSeconds : ℕ) (tracker : UsageTracker) :
    Except (Stop ε) UsageTracker :=
  let tracker := { tracker with historyByUnit := [], unitSizeSeconds := unitSizeSeconds }
  if unitSizeSeconds ≤ 1 then .ok tracker
  else do
    let start := tracker.historyStartTimestamp
    let byUnitStart := start.tdiv unitSizeSeconds * unitSizeSeconds
    let totalUnits := tracker.unitsLen unitSizeSeconds byUnitStart
    let byUnit ← addSeconds unitSizeSeconds byUnitStart (stamped start tracker.historyBySecond)
      (List.replicate totalUnits.toNat 0)
    pure { tracker with historyByUnit := byUnit, historyByUnitStartTimestamp := byUnitStart }

def getLatestTimestamp (tracker : UsageTracker) : ℤ :=
  tracker.historyStartTimestamp + (tracker.historyBySecond.length - 1 : ℕ)

/-- `get_usage_by_unit`: what it returns, and the tracker after it. -/
def getUsageByUnit (unitSizeSeconds : ℕ) (tracker : UsageTracker) :
    Except (Stop ε) (List UsageMeasure × UsageTracker) := do
  let tracker ←
    if unitSizeSeconds ≠ tracker.unitSizeSeconds then tracker.setUnitSize unitSizeSeconds
    else pure tracker
  pure (if tracker.historyByUnit.isEmpty then tracker.historyBySecond else tracker.historyByUnit,
    tracker)

/-- A call of `record_usage`. -/
structure UsageCall where
  timestamp : ℤ
  usage : UsageMeasure
  deriving DecidableEq, Repr

def step (growth : Growth) (tracker : UsageTracker) (call : UsageCall) : Option UsageTracker :=
  (tracker.recordUsage (ε := Empty) growth call.timestamp call.usage).toOption

end UsageTracker

end DustDevil
