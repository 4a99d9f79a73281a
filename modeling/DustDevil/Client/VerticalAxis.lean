import DustDevil.Client.PrettyPrint
import DustDevil.Client.UiElement
import DustDevil.Client.UsageGraph

/-!
# The vertical axis

The rest of the client's `usage_graph.rs`: the vertical axis, whose labels are kept for as long as
they are for the same scale, and the whole graph, with what its controller changes. A width that is
not limited is that of the text.
-/

namespace DustDevil

open Wire

/-- The width of the area where the labels are, and the space after them. -/
def verticalLabelsAreaWidth : ℕ := 9

def markerZero : Str := "0B/s".toList

structure VerticalAxis where
  currentMax : UInt64
  currentUnitSizeSeconds : ℕ
  distanceBetweenMarkers : ℕ
  markerLabels : List Str

namespace VerticalAxis

def new : VerticalAxis := ⟨0, 0, 0, []⟩

/-- How many rows there are from a marker to the next one, on an axis of so many rows. -/
def distanceFor (height : ℕ) : ℕ :=
  let h := height - 1
  if h % 3 = 0 then 3
  else if h % 4 = 0 then 4
  else if h % 5 = 0 then 5
  else if h % 2 = 0 then 2
  else if (h - 1) % 3 = 0 then 3
  else if (h - 1) % 4 = 0 then 4
  else 3

/-- Labels are added, which are empty, or the last ones removed. -/
def resize (height : ℕ) (axis : VerticalAxis) : VerticalAxis :=
  let distanceBetweenMarkers := distanceFor height
  let markerCount := (height - 1) / distanceBetweenMarkers
  { currentMax := 0
    currentUnitSizeSeconds := 0
    distanceBetweenMarkers := distanceBetweenMarkers
    markerLabels := axis.markerLabels.take markerCount
      ++ List.replicate (markerCount - axis.markerLabels.length) [] }

def unitChar : ℕ → Char
  | 1 => 's'
  | 60 => 'm'
  | _ => 'u'

/-- The bytes that a marker stands for. The product must fit a `u64`. -/
def markerBytes (max : UInt64) (markerHeight height : ℕ) : Ui ℕ :=
  if max.toNat * markerHeight < 2 ^ 64 ∧ height ≠ 0 then .ok (max.toNat * markerHeight / height)
  else .error .panic

def label (unitSizeSeconds bytes : ℕ) : Str :=
  prettyByteDisplayer bytes ++ ['/', unitChar unitSizeSeconds]

/-- The loop over the labels, from the lowest one upwards. -/
def writeLabels (max : UInt64) (unitSizeSeconds height distance : ℕ) :
    ℕ → List Str → Ui (List Str)
  | _, [] => .ok []
  | markerHeight, _ :: labels => do
    let bytes ← markerBytes max markerHeight height
    let labels ← writeLabels max unitSizeSeconds height distance (markerHeight + distance) labels
    pure (label unitSizeSeconds bytes :: labels)

def recalculateIfNeeded (max : UInt64) (unitSizeSeconds height : ℕ) (axis : VerticalAxis) :
    Ui VerticalAxis :=
  if axis.currentMax = max ∧ axis.currentUnitSizeSeconds = unitSizeSeconds then .ok axis
  else do
    let markerLabels ←
      if max ≠ 0 then
        writeLabels max unitSizeSeconds (height - 1) axis.distanceBetweenMarkers
          axis.distanceBetweenMarkers axis.markerLabels
      else pure axis.markerLabels
    pure { axis with
      currentMax := max
      currentUnitSizeSeconds := unitSizeSeconds
      markerLabels := markerLabels }

/-- The labels from a row upwards, to the left of a column. -/
def drawLabels (right distance : ℕ) : ℕ → List Str → Ui (List (Drawn Str))
  | _, [] => .ok []
  | y, label :: labels => do
    let y ← subU16 y distance
    let x ← subU16 right ((utf8 label).length % 2 ^ 16)
    let drawn ← drawLabels right distance y labels
    pure (.line x y label label.length :: drawn)

/-- The rows of the axis above the lowest one. -/
def drawAxis (x y height : ℕ) (charAt : ℕ → Char) : List (Drawn Str) :=
  (List.range (height - 1)).map fun i => .cell x (y - (i + 1)) (charAt (i + 1))

def render (max : UInt64) (unitSizeSeconds : ℕ) (area : Rect) (axis : VerticalAxis) :
    Ui (List (Drawn Str) × VerticalAxis) := do
  let axis ← axis.recalculateIfNeeded max unitSizeSeconds area.height
  let y ← subU16 area.bottom 1
  let zeroX ← subU16 area.right (3 + markerZero.length)
  let lineX ← subU16 area.right 2
  let x := area.right - 1
  let zero := [.line zeroX y markerZero markerZero.length, .cell lineX y horizontalChar,
    .cell x y crossChar]
  if max = 0 then pure (zero ++ drawAxis x y area.height fun _ => verticalChar, axis)
  else do
    let labels ← drawLabels lineX axis.distanceBetweenMarkers y axis.markerLabels
    pure (zero ++ labels ++ drawAxis x y area.height fun i =>
      if i % axis.distanceBetweenMarkers = 0 then crossChar else verticalChar, axis)

end VerticalAxis

/-- A `UsageGraph` with its controller. -/
structure UsageGraph where
  history : UsageTracker
  precisionOption : GraphPrecisionOption
  unitSizeSeconds : ℕ
  verticalAxis : VerticalAxis
  horizontalAxis : HorizontalAxis
  currentArea : Rect
  unitSizeSeconds_eq : unitSizeSeconds = precisionOption.getValues.unitSizeSeconds

/-- What is drawn of a graph that there is room for. -/
structure DrawnGraph where
  plot : List (List PlotCell)
  vertical : List (Drawn Str)
  horizontal : List (Drawn Str)

namespace UsageGraph

/-- A graph whose tracker is new. -/
def new (history : UsageTracker) : UsageGraph where
  history := history
  precisionOption := .oneSecond
  unitSizeSeconds := GraphPrecisionOption.oneSecond.getValues.unitSizeSeconds
  verticalAxis := .new
  horizontalAxis := .new
  currentArea := .default
  unitSizeSeconds_eq := rfl

def setPrecision (precisionOption : GraphPrecisionOption) (graph : UsageGraph) : UsageGraph :=
  { graph with
    precisionOption := precisionOption
    unitSizeSeconds := precisionOption.getValues.unitSizeSeconds
    unitSizeSeconds_eq := rfl }

def recordUsage (growth : Growth) (timestamp : ℤ) (usage : UsageMeasure) (graph : UsageGraph) :
    Ui UsageGraph := do
  let history ← graph.history.recordUsage growth timestamp usage
  pure { graph with history := history }

/-- A tick of the background task. -/
def tick (growth : Growth) (timestampNow : ℤ) (graph : UsageGraph) : Ui UsageGraph :=
  if timestampNow > graph.history.getLatestTimestamp then graph.recordUsage growth timestampNow 0
  else pure graph

def resize (area : Rect) (graph : UsageGraph) : Ui UsageGraph := do
  let graph' := { graph with currentArea := area }
  if graph.currentArea.height ≠ area.height then do
    let height ← subU16 area.height 1
    pure { graph' with verticalAxis := graph.verticalAxis.resize height }
  else pure graph'

/-- How many of the latest units there is room for. -/
def recordCount (history : List UsageMeasure) (plotArea : Rect) : ℕ :=
  min history.length plotArea.width

/-- Nothing is drawn where there is no room for it. Of the frame's buffer there is `area`, which it
has all of. -/
def render (localTime : LocalTime) (area : Rect) (graph : UsageGraph) :
    Ui (Option DrawnGraph × UsageGraph) :=
  if area.width < verticalLabelsAreaWidth + 2 ∨ area.height < 3 then pure (none, graph)
  else do
    let plotArea ← Rect.new (area.x + verticalLabelsAreaWidth + 1) area.y
      (area.width - (verticalLabelsAreaWidth + 1)) (area.height - 2)
    let (units, history) ← graph.history.getUsageByUnit graph.unitSizeSeconds
    let count := recordCount units plotArea
    let max := plotMax units count
    let plot ← renderGraphPlot units count max plotArea area
    let verticalAxisArea ← Rect.new area.x area.y (verticalLabelsAreaWidth + 1) (area.height - 1)
    let (vertical, verticalAxis) ←
      graph.verticalAxis.render max graph.unitSizeSeconds verticalAxisArea
    let horizontalAxisArea ← Rect.new area.x (area.bottom - 2) area.width 2
    let (horizontal, horizontalAxis) ← graph.horizontalAxis.render localTime
      history.getLatestTimestamp graph.precisionOption horizontalAxisArea
    pure (some ⟨plot, vertical, horizontal⟩, { graph with
      history := history, verticalAxis := verticalAxis, horizontalAxis := horizontalAxis })

end UsageGraph

end DustDevil
