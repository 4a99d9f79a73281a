import Mathlib.Algebra.Order.Ring.Int
import Mathlib.Data.Nat.Log
import DustDevil.Client.LongList
import DustDevil.Client.UsageTracker

/-!
# The usage graph

The client's `usage_graph.rs`: the plot of the usage by unit, with a column for each unit, and the
horizontal axis under it, with labels that are kept from one render to the next. The bytes are in
`u64`s; a coordinate is a `u16`.
-/

namespace DustDevil

open Wire

variable {ε : Type}

/-! ## The plot -/

def blockChar : Char := '█'

def halfBlockChar : Char := '▄'

inductive Color where
  | lightGreen
  | lightBlue
  deriving DecidableEq, Repr

def sendColor : Color := .lightGreen

def receiveColor : Color := .lightBlue

structure PlotCell where
  x : UInt16
  y : UInt16
  symbol : Char
  color : Color
  deriving DecidableEq, Repr

/-- The next power of two, at least 64, where a `u64` has room for it. -/
def prettyRoundMaxBytesValue (max : UInt64) : UInt64 :=
  if max = 0 then 0
  else if 2 ^ Nat.clog 2 (Max.max max 64).toNat < 2 ^ 64 then
    UInt64.ofNat (2 ^ Nat.clog 2 (Max.max max 64).toNat)
  else max

/-- A subtraction in `u64`, which panics below zero. -/
def checkedSubU64 (a b : UInt64) : Except (Stop ε) UInt64 :=
  if b ≤ a then .ok (a - b) else .error .panic

def saturatingSubU64 (a b : UInt64) : UInt64 := if b ≤ a then a - b else 0

/-- What the received bytes get of a column, or one half of a cell that the sent ones give. -/
def splitHeights (desiredHeight sendHeight : UInt64) : Except (Stop ε) (UInt64 × UInt64) :=
  let receiveHeight := saturatingSubU64 desiredHeight sendHeight
  if receiveHeight = 0 then do
    let sendHeight ← checkedSubU64 sendHeight 2
    return (sendHeight, 1)
  else .ok (sendHeight, receiveHeight)

/-- `send_height` and `receive_height`, in halves of a cell. -/
def plotHeights (measure : UsageMeasure) (max height : UInt64) :
    Except (Stop ε) (UInt64 × UInt64) :=
  if measure.received = 0 then
    if measure.sent = 0 then .ok (0, 0)
    else .ok (Max.max (measure.sent * 2 * height / max) 1, 0)
  else if measure.sent = 0 then .ok (0, Max.max (measure.received * 2 * height / max) 1)
  else
    splitHeights (Max.max ((measure.sent + measure.received) * 2 * height / max) 1)
      (Max.max (measure.sent * height / max) 1 * 2)

/-- `Buffer::get_mut`, which panics outside of the buffer's area. -/
def getMut (buffer : Rect) (x y : UInt16) : Except (Stop ε) Unit :=
  if (buffer.x ≤ x.toNat ∧ x.toNat < buffer.x + buffer.width)
      ∧ buffer.y ≤ y.toNat ∧ y.toNat < buffer.y + buffer.height then
    .ok ()
  else .error .panic

/-- The cells for what remains of a height, upwards, and the row above them. A row or a column of
which nothing is drawn may have wrapped around, as without overflow checks. -/
def plotBar (buffer : Rect) (x : UInt16) (color : Color) :
    ℕ → UInt16 → Except (Stop ε) (List PlotCell × UInt16)
  | 0, y => .ok ([], y)
  | 1, y => do
    getMut buffer x y
    return ([⟨x, y, halfBlockChar, color⟩], y - 1)
  | remaining + 2, y => do
    getMut buffer x y
    let (cells, y') ← plotBar buffer x color remaining (y - 1)
    return (⟨x, y, blockChar, color⟩ :: cells, y')

def plotColumn (measure : UsageMeasure) (max : UInt64) (area buffer : Rect) (x : UInt16) :
    Except (Stop ε) (List PlotCell) := do
  let (sendHeight, receiveHeight) ← plotHeights measure max (.ofNat area.height)
  let y := UInt16.ofNat (area.y + area.height) - 1
  let (send, y) ← plotBar buffer x sendColor sendHeight.toNat y
  let (receive, _) ← plotBar buffer x receiveColor receiveHeight.toNat y
  return send ++ receive

/-- The loop over the measures, from the right to the left. -/
def plotColumns (max : UInt64) (area buffer : Rect) :
    List UsageMeasure → UInt16 → Except (Stop ε) (List (List PlotCell))
  | [], _ => .ok []
  | measure :: measures, x => do
    let column ← plotColumn measure max area buffer x
    let columns ← plotColumns max area buffer measures (x - 1)
    return column :: columns

/-- The cells of each column, the latest one first. -/
def renderGraphPlot (history : List UsageMeasure) (recordCount : ℕ) (max : UInt64)
    (area buffer : Rect) : Except (Stop ε) (List (List PlotCell)) :=
  if max = 0 then .ok []
  else plotColumns max area buffer (history.reverse.take recordCount)
    (UInt16.ofNat (area.x + area.width) - 1)

/-- The `max` that `render` has for the records that it shows. -/
def plotMax (history : List UsageMeasure) (recordCount : ℕ) : UInt64 :=
  prettyRoundMaxBytesValue
    ((((history.reverse.take recordCount).map UsageMeasure.sum).max?).getD 0)

/-! ## The horizontal axis -/

inductive GraphPrecisionOption where
  | oneSecond
  | twoSeconds
  | fiveSeconds
  | tenSeconds
  | thirtySeconds
  | oneMinute
  | twoMinutes
  | fiveMinutes
  | tenMinutes
  deriving DecidableEq, Repr

structure PrecisionValues where
  unitSizeSeconds : ℕ
  labelsOnMultiplesOf : ℕ
  markersOnMultiplesOf : ℕ
  printSeconds : Bool
  deriving DecidableEq, Repr

def GraphPrecisionOption.getValues : GraphPrecisionOption → PrecisionValues
  | oneSecond => ⟨1, 15, 5, true⟩
  | twoSeconds => ⟨2, 30, 10, true⟩
  | fiveSeconds => ⟨5, 60, 20, false⟩
  | tenSeconds => ⟨10, 120, 30, false⟩
  | thirtySeconds => ⟨30, 240, 120, false⟩
  | oneMinute => ⟨60, 600, 150, false⟩
  | twoMinutes => ⟨120, 1200, 300, false⟩
  | fiveMinutes => ⟨300, 3600, 1200, false⟩
  | tenMinutes => ⟨600, 7200, 1800, false⟩

def verticalChar : Char := '│'

def horizontalChar : Char := '─'

def crossChar : Char := '┼'

/-- The hour, the minute and the second of a timestamp, at the offset from UTC that the axis has. -/
abbrev LocalTime := ℤ → ℕ × ℕ × ℕ

def twoDigits (n : ℕ) : Str := (Nat.toDigits 10 n).leftpad 2 '0'

def writeTimestampToString (localTime : LocalTime) (timestamp : ℤ) (printSeconds : Bool) : Str :=
  let (hour, minute, second) := localTime timestamp
  twoDigits hour ++ ':' :: twoDigits minute ++
    if printSeconds then ':' :: twoDigits second else []

/-- A `HorizontalAxis`, whose values are those of its precision. The string that it keeps to write
the next label to is left out. -/
structure HorizontalAxis where
  precisionOption : GraphPrecisionOption
  values : PrecisionValues
  labelStrings : List Str
  latestLabelTimestamp : ℤ
  values_eq : values = precisionOption.getValues

namespace HorizontalAxis

def new : HorizontalAxis where
  precisionOption := .oneSecond
  values := GraphPrecisionOption.getValues .oneSecond
  labelStrings := []
  latestLabelTimestamp := 0
  values_eq := rfl

theorem labelsOnMultiplesOf_pos (axis : HorizontalAxis) : 0 < axis.values.labelsOnMultiplesOf := by
  rw [axis.values_eq]
  cases axis.precisionOption <;> decide

section Labels

variable (text : ℤ → Str) {step : ℕ}

/-- The loop of `recalculate_if_needed`, from the last label to the first. -/
def rewriteLabels (step : ℕ) : ℕ → ℤ → List Str → List Str
  | 0, _, written => written
  | dequeIndex + 1, labelTimestamp, written =>
    rewriteLabels step dequeIndex (labelTimestamp - step) (text labelTimestamp :: written)

/-- The labels that are too old are taken from the front. -/
def removeTooOld (hstep : 0 < step) (oldestLabelTimestamp currentOldestLabelTimestamp : ℤ)
    (labels : List Str) : List Str :=
  if currentOldestLabelTimestamp < oldestLabelTimestamp then
    removeTooOld hstep oldestLabelTimestamp (currentOldestLabelTimestamp + step) labels.tail
  else labels
termination_by (oldestLabelTimestamp - currentOldestLabelTimestamp).toNat
decreasing_by omega

/-- The labels that are too new are taken from the back. -/
def removeTooNew (hstep : 0 < step) (latestLabelTimestamp selfLatest : ℤ) (labels : List Str) :
    ℤ × List Str :=
  if latestLabelTimestamp < selfLatest then
    removeTooNew hstep latestLabelTimestamp (selfLatest - step) labels.dropLast
  else (selfLatest, labels)
termination_by (selfLatest - latestLabelTimestamp).toNat
decreasing_by omega

def addMissingOld (hstep : 0 < step) (oldestLabelTimestamp currentOldestLabelTimestamp : ℤ)
    (labels : List Str) : List Str :=
  if oldestLabelTimestamp < currentOldestLabelTimestamp then
    addMissingOld hstep oldestLabelTimestamp (currentOldestLabelTimestamp - step)
      (text (currentOldestLabelTimestamp - step) :: labels)
  else labels
termination_by (currentOldestLabelTimestamp - oldestLabelTimestamp).toNat
decreasing_by omega

def addMissingNew (hstep : 0 < step) (latestLabelTimestamp selfLatest : ℤ) (labels : List Str) :
    ℤ × List Str :=
  if selfLatest < latestLabelTimestamp then
    addMissingNew hstep latestLabelTimestamp (selfLatest + step)
      (labels ++ [text (selfLatest + step)])
  else (selfLatest, labels)
termination_by (latestLabelTimestamp - selfLatest).toNat
decreasing_by omega

end Labels

variable (localTime : LocalTime)

def recalculateIfNeeded (precisionOption : GraphPrecisionOption) (latestTimestamp : ℤ)
    (axis : HorizontalAxis) : HorizontalAxis :=
  if axis.precisionOption = precisionOption then axis
  else
    let values := precisionOption.getValues
    let latestLabelTimestamp :=
      latestTimestamp.tdiv values.labelsOnMultiplesOf * values.labelsOnMultiplesOf
    { precisionOption := precisionOption
      values := values
      labelStrings := rewriteLabels (writeTimestampToString localTime · values.printSeconds)
        values.labelsOnMultiplesOf axis.labelStrings.length latestLabelTimestamp []
      latestLabelTimestamp := latestLabelTimestamp
      values_eq := rfl }

/-- The labels that stay, and the timestamp of the latest one. -/
def removeOutside (oldestLabelTimestamp latestLabelTimestamp : ℤ) (axis : HorizontalAxis) :
    ℤ × List Str :=
  let step := axis.values.labelsOnMultiplesOf
  let hstep := axis.labelsOnMultiplesOf_pos
  if axis.labelStrings = [] then (axis.latestLabelTimestamp, [])
  else
    removeTooNew hstep latestLabelTimestamp axis.latestLabelTimestamp
      (removeTooOld hstep oldestLabelTimestamp
        (axis.latestLabelTimestamp - (axis.labelStrings.length - 1) * step) axis.labelStrings)

/-- What is written to a label. -/
def labelText (axis : HorizontalAxis) (timestamp : ℤ) : Str :=
  writeTimestampToString localTime timestamp axis.values.printSeconds

def ensureHasLabels (oldestLabelTimestamp latestLabelTimestamp : ℤ) (axis : HorizontalAxis) :
    HorizontalAxis :=
  let text := axis.labelText localTime
  let step := axis.values.labelsOnMultiplesOf
  let hstep := axis.labelsOnMultiplesOf_pos
  let (latest, labels) := axis.removeOutside oldestLabelTimestamp latestLabelTimestamp
  let (latest, labels) :=
    if labels = [] then (latestLabelTimestamp, [text latestLabelTimestamp]) else (latest, labels)
  let labels := addMissingOld text hstep oldestLabelTimestamp
    (latest - (labels.length - 1) * step) labels
  let (latest, labels) := addMissingNew text hstep latestLabelTimestamp latest labels
  { axis with labelStrings := labels, latestLabelTimestamp := latest }

def axisChar (timestamp : ℤ) (markersOnMultiplesOf : ℕ) : Char :=
  if timestamp.tmod markersOnMultiplesOf = 0 then crossChar else horizontalChar

/-- The labels from the latest to the oldest, at a column each. -/
def drawLabels (right y labelSpacing : ℕ) : List Str → ℕ → List (Drawn Str)
  | [], _ => []
  | label :: labels, labelX =>
    .cell labelX y verticalChar ::
      ((if right - (labelX + 1) ≠ 0 then [.line (labelX + 1) y label (right - (labelX + 1))]
        else []) ++ drawLabels right y labelSpacing labels (labelX - labelSpacing))

/-- An `i64`, outside of which a sum panics. -/
def checkedI64 (x : ℤ) : Except (Stop ε) ℤ :=
  if -2 ^ 63 ≤ x ∧ x < 2 ^ 63 then .ok x else .error .panic

open LongList (checkedSub) in
/-- With a positive timestamp only the sum for the oldest label can leave the `i64`s. -/
def render (latestTimestamp : ℤ) (precisionOption : GraphPrecisionOption) (area : Rect)
    (axis : HorizontalAxis) : Except (Stop ε) (List (Drawn Str) × HorizontalAxis) := do
  let axis := axis.recalculateIfNeeded localTime precisionOption latestTimestamp
  let unit := axis.values.unitSizeSeconds
  let step := axis.values.labelsOnMultiplesOf
  let markers := axis.values.markersOnMultiplesOf
  let penultimateCharTimestamp := (latestTimestamp - unit).tdiv unit * unit
  let oldestCharTimestamp := penultimateCharTimestamp - (area.width - 11) * unit
  let right ← checkedSub (area.x + area.width) 1
  let count ← checkedSub area.width 11
  let drawn := .cell right area.y (axisChar (penultimateCharTimestamp + unit) markers) ::
    (List.range count).map fun i =>
      .cell (right - 1 - i) area.y (axisChar (penultimateCharTimestamp - i * unit) markers)
  let sum ← checkedI64 (oldestCharTimestamp + step)
  let oldestLabelTimestamp := (sum - 1).tdiv step * step
  let latestLabelTimestamp := latestTimestamp.tdiv step * step
  let axis := axis.ensureHasLabels localTime oldestLabelTimestamp latestLabelTimestamp
  let latestLabelOffset := ((latestTimestamp - latestLabelTimestamp).tdiv unit % 2 ^ 16).toNat
  let latestLabelX ← checkedSub right latestLabelOffset
  let labelSpacing := step / unit % 2 ^ 16
  return (drawn ++ drawLabels (area.x + area.width) (area.y + 1) labelSpacing
    axis.labelStrings.reverse latestLabelX, axis)

end HorizontalAxis

end DustDevil
