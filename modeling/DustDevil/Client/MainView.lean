import DustDevil.Client.LogBlock
import DustDevil.Client.VerticalAxis
import DustDevil.Server.Logger

/-!
# The main view

The client's `main_view/mod.rs`: where the log, the graph, the metrics and the two lines over the
graph are, which of them has the focus, and what the streamed events are told to. What this uses of
other crates are parameters.
-/

namespace DustDevil

open Wire

/-- What the UI uses that is not its own. -/
structure UiEnv where
  growth : Growth
  localTime : LocalTime
  localDateTime : LocalDateTime
  search : KeySearch (Line LogStyle × ℕ)
  borders : BlockInner
  setStringn : SetStringn

/-! ## The parts as elements -/

def LogBlock.element (env : UiEnv) : UIElement LogBlock where
  resize area block := .ok (block.resize area)
  render area block := do
    let (_, block) ← block.render env.search env.borders area
    pure ([area], block)
  handleEvent event isFocused block := .ok (block.handleEvent event.tui isFocused)
  receiveFocus _ block := .ok block.receiveFocus
  focusLost := LogBlock.focusLost

def UsageGraph.element (env : UiEnv) : UIElement UsageGraph where
  resize := UsageGraph.resize
  render area graph := do
    let (_, graph) ← graph.render env.localTime area
    pure ([area], graph)
  handleEvent _ _ graph := .ok (.unhandled, graph)
  receiveFocus _ graph := .ok (false, graph)
  focusLost graph := graph

def MetricsDisplay.element : UIElement MetricsDisplay where
  resize _ display := .ok display
  render area display := .ok ([area], display)
  handleEvent _ _ display := .ok (.unhandled, display)
  receiveFocus _ display := .ok (false, display)
  focusLost display := display

/-- `HEIGHT` and `MIN_WIDTH` of the metrics. -/
def metricsDisplayHeight : ℕ := 6

def metricsDisplayMinWidth : ℕ := 25

/-- `MIN_HEIGHT` of the graph. -/
def usageGraphMinHeight : ℕ := 7

/-! ## Labels and options -/

def clientActivityLabel : Str := "Client Activity".toList

def expandGraphLabel : Str := "[expand graph (g)]".toList

def expandGraphShortcut : Option Char := some 'g'

def returnToMainViewLabel : Str := "[return to main view (q)]".toList

def returnToMainViewShortcut : Option Char := some 'q'

def graphPrecisionLabel : Str := "Graph precision:".toList

def precisionSelectorAfterText : Str := "[change (1/2/3...9)]".toList

namespace GraphPrecisionOption

def all : List GraphPrecisionOption :=
  [oneSecond, twoSeconds, fiveSeconds, tenSeconds, thirtySeconds, oneMinute, twoMinutes,
    fiveMinutes, tenMinutes]

def toStr : GraphPrecisionOption → Str
  | oneSecond => "1s".toList
  | twoSeconds => "2s".toList
  | fiveSeconds => "5s".toList
  | tenSeconds => "10s".toList
  | thirtySeconds => "30s".toList
  | oneMinute => "1m".toList
  | twoMinutes => "2m".toList
  | fiveMinutes => "5m".toList
  | tenMinutes => "10m".toList

def fromIndex : ℕ → Option GraphPrecisionOption
  | 0 => some oneSecond
  | 1 => some twoSeconds
  | 2 => some fiveSeconds
  | 3 => some tenSeconds
  | 4 => some thirtySeconds
  | 5 => some oneMinute
  | 6 => some twoMinutes
  | 7 => some fiveMinutes
  | 8 => some tenMinutes
  | _ => none

end GraphPrecisionOption

/-- The options of the selector, with a digit each. -/
def precisionOptions : List (StaticString × Option Char) :=
  (GraphPrecisionOption.all.map fun option => .static option.toStr).zip
    (['1', '2', '3', '4', '5', '6', '7', '8', '9'].map some)

/-! ## Layouts -/

inductive LayoutMode where
  | full
  | logsOnly
  | graphExpanded
  deriving DecidableEq, Repr

namespace MainView

inductive FocusedElement where
  | logBlock
  | expandButton
  | precisionSelector
  deriving DecidableEq, Repr

namespace FocusedElement

def isVisibleIn (element : FocusedElement) : LayoutMode → Bool
  | .full => true
  | .logsOnly => element ≠ precisionSelector
  | .graphExpanded => element ≠ logBlock

def up (element : FocusedElement) : LayoutMode → Option FocusedElement
  | .full =>
    match element with
    | logBlock | expandButton => none
    | precisionSelector => some expandButton
  | .logsOnly =>
    match element with
    | logBlock | precisionSelector => some expandButton
    | expandButton => none
  | .graphExpanded => none

def down (element : FocusedElement) : LayoutMode → Option FocusedElement
  | .full =>
    match element with
    | logBlock | precisionSelector => none
    | expandButton => some precisionSelector
  | .logsOnly =>
    match element with
    | logBlock => none
    | expandButton | precisionSelector => some logBlock
  | .graphExpanded => none

def left (element : FocusedElement) : LayoutMode → Option FocusedElement
  | .full =>
    match element with
    | logBlock => none
    | expandButton | precisionSelector => some logBlock
  | .logsOnly => none
  | .graphExpanded =>
    match element with
    | logBlock | expandButton => none
    | precisionSelector => some expandButton

def right (element : FocusedElement) : LayoutMode → Option FocusedElement
  | .full =>
    match element with
    | logBlock => some precisionSelector
    | expandButton | precisionSelector => none
  | .logsOnly => none
  | .graphExpanded =>
    match element with
    | logBlock | precisionSelector => none
    | expandButton => some precisionSelector

def forward (element : FocusedElement) : LayoutMode → Option FocusedElement
  | .full =>
    match element with
    | logBlock => some expandButton
    | expandButton => some precisionSelector
    | precisionSelector => none
  | .logsOnly =>
    match element with
    | logBlock => none
    | expandButton | precisionSelector => some logBlock
  | .graphExpanded =>
    match element with
    | logBlock | precisionSelector => none
    | expandButton => some precisionSelector

/-- The element that is tried next, in a direction. -/
def next (element : FocusedElement) (layoutMode : LayoutMode) :
    PassFocusDirection → Option FocusedElement
  | .up => element.up layoutMode
  | .down => element.down layoutMode
  | .left => element.left layoutMode
  | .right => element.right layoutMode
  | .forward => element.forward layoutMode
  | .away => none

end FocusedElement

/-- Where the parts are. One whose area is empty is not rendered. -/
structure Areas where
  logBlock : Rect
  usageGraph : Rect
  metricsDisplay : Rect
  clientActivityLine : Rect
  graphPrecisionLine : Rect

def Areas.default : Areas := ⟨.default, .default, .default, .default, .default⟩

/-- The button's handler has whether the graph is `expanded`. -/
abbrev ClientActivityLine : Type := HorizontalSplit TextLine (CenteredButton Bool)

abbrev GraphPrecisionLine : Type := HorizontalSplit TextLine ArrowSelector

/-- `ExpandButtonHandler`'s `on_pressed`. -/
def toggleExpanded : ButtonHandler Bool := fun expanded => (.handled, !expanded)

end MainView

/-- A `MainView` with its controller. -/
structure MainView where
  logBlock : LogBlock
  usageGraph : UsageGraph
  metricsDisplay : MetricsDisplay
  clientActivityLine : MainView.ClientActivityLine
  graphPrecisionLine : MainView.GraphPrecisionLine
  areas : MainView.Areas
  layoutMode : LayoutMode
  isFocused : Bool
  focusedElement : MainView.FocusedElement

namespace MainView

def clientActivityElement : AutosizeUIElement ClientActivityLine :=
  HorizontalSplit.autosizeElement TextLine.element (CenteredButton.element toggleExpanded)

def graphPrecisionElement (env : UiEnv) : AutosizeUIElement GraphPrecisionLine :=
  HorizontalSplit.autosizeElement TextLine.element (ArrowSelector.element env.setStringn)

/-- The view of some metrics, with a tracker that is new. -/
def new (env : UiEnv) (history : UsageTracker) (metrics : Metrics) : MainView where
  logBlock := .new env.localDateTime
  usageGraph := .new history
  metricsDisplay := metrics
  clientActivityLine :=
    .new (.new clientActivityLabel .left) (.new expandGraphLabel expandGraphShortcut false)
      clientActivityLabel.length 1
  graphPrecisionLine :=
    .new (.new graphPrecisionLabel .left)
      (.new precisionOptions 0 (.static precisionSelectorAfterText) false)
      graphPrecisionLabel.length 1
  areas := .default
  layoutMode := .full
  isFocused := false
  focusedElement := .logBlock

def expanded (view : MainView) : Bool := view.clientActivityLine.second.handler

/-- What the selector's handler does. As the graph has no other precision than the one that was
set last, it may be set to it again. -/
def setPrecision (view : MainView) : Ui MainView :=
  match view.graphPrecisionLine.second.selectionsChanged.getLast? with
  | none => pure view
  | some selectedIndex =>
    match GraphPrecisionOption.fromIndex (selectedIndex % 2 ^ 8) with
    | some option => pure { view with usageGraph := view.usageGraph.setPrecision option }
    | none => .error .panic

/-! ## Streamed events -/

/-- What the graph is told of an event. -/
def recordEvent (env : UiEnv) (event : Event) (graph : UsageGraph) : Ui UsageGraph :=
  match event.data with
  | .clientBytesSent _ count =>
    graph.recordUsage env.growth event.timestamp.toInt ⟨UInt64.ofNat count, 0⟩
  | .clientBytesReceived _ count =>
    graph.recordUsage env.growth event.timestamp.toInt ⟨0, UInt64.ofNat count⟩
  | _ => pure graph

/-- What the metrics are told of it. A count that overflows panics. -/
def countEvent (event : Event) (display : MetricsDisplay) : Ui MetricsDisplay :=
  match display.newStreamEvent event.data with
  | .ok display => pure display
  | .error _ => .error .panic

def newStreamEvent (env : UiEnv) (event : Event) (view : MainView) : Ui MainView := do
  let metricsDisplay ← countEvent event view.metricsDisplay
  let usageGraph ← recordEvent env event view.usageGraph
  pure { view with
    logBlock := view.logBlock.newStreamEvent event
    usageGraph := usageGraph
    metricsDisplay := metricsDisplay }

/-! ## The parts -/

/-- Lets a part handle an event. -/
def handlePart (env : UiEnv) (event : UiEvent) (isFocused : Bool) (element : FocusedElement)
    (view : MainView) : Ui (HandleEventStatus × MainView) :=
  match element with
  | .logBlock => do
    let (status, logBlock) ← (LogBlock.element env).handleEvent event isFocused view.logBlock
    pure (status, { view with logBlock := logBlock })
  | .expandButton => do
    let (status, line) ←
      clientActivityElement.handleEvent event isFocused view.clientActivityLine
    pure (status, { view with clientActivityLine := line })
  | .precisionSelector => do
    let (status, line) ←
      (graphPrecisionElement env).handleEvent event isFocused view.graphPrecisionLine
    let view ← { view with graphPrecisionLine := line }.setPrecision
    pure (status, view)

/-- Offers the focus to a part. -/
def offerPart (env : UiEnv) (position : ℕ × ℕ) (element : FocusedElement) (view : MainView) :
    Ui (Bool × MainView) :=
  match element with
  | .logBlock => do
    let (received, logBlock) ← (LogBlock.element env).receiveFocus position view.logBlock
    pure (received, { view with logBlock := logBlock })
  | .expandButton => do
    let (received, line) ← clientActivityElement.receiveFocus position view.clientActivityLine
    pure (received, { view with clientActivityLine := line })
  | .precisionSelector => do
    let (received, line) ←
      (graphPrecisionElement env).receiveFocus position view.graphPrecisionLine
    pure (received, { view with graphPrecisionLine := line })

/-- Takes the focus from a part. -/
def takeFromPart (env : UiEnv) (element : FocusedElement) (view : MainView) : MainView :=
  match element with
  | .logBlock => { view with logBlock := (LogBlock.element env).focusLost view.logBlock }
  | .expandButton =>
    { view with clientActivityLine := clientActivityElement.focusLost view.clientActivityLine }
  | .precisionSelector =>
    { view with
      graphPrecisionLine := (graphPrecisionElement env).focusLost view.graphPrecisionLine }

/-! ## Focus -/

/-- The order in which the parts are offered the focus. -/
def receiveOrder (position : ℕ × ℕ) (view : MainView) : Ui (List FocusedElement) :=
  match view.layoutMode with
  | .full =>
    let lines :=
      if position.2 ≤ view.areas.clientActivityLine.y then
        [FocusedElement.expandButton, .precisionSelector]
      else [.precisionSelector, .expandButton]
    if position.1 ≤ view.areas.logBlock.right then pure (.logBlock :: lines)
    else pure (lines ++ [.logBlock])
  | .logsOnly =>
    if position.2 > view.areas.logBlock.y then pure [.logBlock, .expandButton]
    else pure [.expandButton, .logBlock]
  | .graphExpanded => do
    if position.1 < (← addU16 view.areas.clientActivityLine.right 2) then
      pure [.expandButton, .precisionSelector]
    else pure [.precisionSelector, .expandButton]

def offerInOrder (env : UiEnv) (position : ℕ × ℕ) :
    List FocusedElement → MainView → Ui (Bool × MainView)
  | [], view => pure (false, { view with isFocused := false })
  | element :: order, view => do
    let (received, view) ← view.offerPart env position element
    if received then pure (true, { view with focusedElement := element })
    else offerInOrder env position order view

def receiveFocus (env : UiEnv) (position : ℕ × ℕ) (view : MainView) : Ui (Bool × MainView) := do
  let view := { view with isFocused := true }
  let order ← view.receiveOrder position
  offerInOrder env position order view

def focusLost (env : UiEnv) (view : MainView) : MainView :=
  { view with isFocused := false }.takeFromPart env view.focusedElement

/-- The loop that passes the focus in a direction, from the part that was tried last. There are no
more rounds than parts. -/
def passFocus (env : UiEnv) (position : ℕ × ℕ) (direction : PassFocusDirection) :
    ℕ → FocusedElement → MainView → Ui (HandleEventStatus × MainView)
  | 0, _, _ => .error .running
  | fuel + 1, tryFocusedElement, view =>
    match tryFocusedElement.next view.layoutMode direction with
    | none => pure (.passFocus position direction, view)
    | some element => do
      let (received, view) ← view.offerPart env position element
      if received then
        pure (.handled,
          { view.takeFromPart env view.focusedElement with focusedElement := element })
      else passFocus env position direction fuel element view

/-! ## Layout -/

def minRightAreaWidth : ℕ := 34

def minFullDisplayHeight : ℕ := metricsDisplayHeight + usageGraphMinHeight + 4

/-- What is to the right of the log and a space. -/
def rightArea (area : Rect) : Ui Rect := do
  let logWidth := (← addU16 area.width 1) / 2
  Rect.new (area.x + logWidth + 1) area.y (area.width - logWidth - 1) area.height

/-- The log, with the line over it in the middle, which is not empty as the area is not. -/
def distributeLogsOnly (area : Rect) (view : MainView) : Ui MainView := do
  let ((lineWidth, _), line) :=
    clientActivityElement.beginResize area.width 1 view.clientActivityLine
  let extraWidth := area.width - lineWidth
  let lineArea ← Rect.new (area.x + extraWidth / 2) area.y (area.width - extraWidth)
    (min area.height 1)
  let logBlockArea ← Rect.new area.x (area.y + 2) area.width (area.height - 2)
  pure { view with
    clientActivityLine := line
    areas := { Areas.default with logBlock := logBlockArea, clientActivityLine := lineArea }
    layoutMode := .logsOnly }

/-- The area of the metrics where there is enough space for them, and the rows that are left. -/
def distributeMetrics (rightArea : Rect) : Ui (Rect × ℕ) :=
  if metricsDisplayMinWidth ≤ rightArea.width ∧ minFullDisplayHeight ≤ rightArea.height then do
    let metricsAreaY ← subU16 rightArea.bottom metricsDisplayHeight
    let area ← Rect.new rightArea.x metricsAreaY rightArea.width metricsDisplayHeight
    pure (area, ← subU16 rightArea.height (metricsDisplayHeight + 1))
  else pure (.default, rightArea.height)

/-- Both lines are moved to be aligned with the graph's vertical axis. -/
def distributeFull (env : UiEnv) (logBlockArea rightArea : Rect) (view : MainView) :
    Ui MainView := do
  let (metricsDisplayArea, remainingHeight) ← distributeMetrics rightArea
  let lineHeight := min remainingHeight 1
  let remainingHeight ← subU16 remainingHeight 1
  let lineHeight' := min remainingHeight 1
  let remainingHeight ← subU16 remainingHeight 2
  let usageGraphArea ← Rect.new rightArea.x (rightArea.y + 3) rightArea.width remainingHeight
  let ((lineWidth, _), line) :=
    clientActivityElement.beginResize rightArea.width lineHeight view.clientActivityLine
  let extraWidth := rightArea.width - lineWidth
  let ((lineWidth', _), line') :=
    (graphPrecisionElement env).beginResize rightArea.width lineHeight' view.graphPrecisionLine
  let extraWidth' := rightArea.width - lineWidth'
  let labelsOffsetX := min (min verticalLabelsAreaWidth extraWidth) extraWidth'
  let lineArea ← Rect.new (rightArea.x + labelsOffsetX) rightArea.y (rightArea.width - extraWidth)
    lineHeight
  let lineArea' ← Rect.new (rightArea.x + labelsOffsetX) (rightArea.y + 1)
    (rightArea.width - extraWidth') lineHeight'
  pure { view with
    clientActivityLine := line
    graphPrecisionLine := line'
    areas := ⟨logBlockArea, usageGraphArea, metricsDisplayArea, lineArea, lineArea'⟩
    layoutMode := .full }

def distributeAreas (env : UiEnv) (area : Rect) (view : MainView) : Ui MainView :=
  if area.isEmpty then pure { view with areas := .default, layoutMode := .full }
  else do
    let right ← rightArea area
    if right.width < minRightAreaWidth ∨ right.height < usageGraphMinHeight + 3 then
      view.distributeLogsOnly area
    else view.distributeFull env (area.narrow ((area.width + 1) / 2)) right

def distributeAreasExpanded (area : Rect) (view : MainView) : Ui MainView :=
  if area.height = 0 ∨ area.width < verticalLabelsAreaWidth + 4 then
    pure { view with areas := .default, layoutMode := .graphExpanded }
  else do
    let area ← Rect.new (area.x + 1) area.y (area.width - 2) area.height
    let ((lineWidth, _), line) :=
      clientActivityElement.beginResize area.width 1 view.clientActivityLine
    let lineWidth := min area.width lineWidth
    let lineArea ← Rect.new area.x area.y lineWidth 1
    let lineArea' ← Rect.new (area.x + lineWidth + 3) area.y (area.width - (lineWidth + 3)) 1
    let usageGraphArea ← Rect.new area.x (area.y + 2) area.width (area.height - 2)
    pure { view with
      clientActivityLine := line
      areas := { Areas.default with
        usageGraph := usageGraphArea
        clientActivityLine := lineArea
        graphPrecisionLine := lineArea' }
      layoutMode := .graphExpanded }

/-- Resizes the parts that have an area. -/
def resizeParts (env : UiEnv) (view : MainView) : Ui MainView := do
  let logBlock ← (LogBlock.element env).resizeVisible view.areas.logBlock view.logBlock
  let usageGraph ← (UsageGraph.element env).resizeVisible view.areas.usageGraph view.usageGraph
  let metricsDisplay ←
    MetricsDisplay.element.resizeVisible view.areas.metricsDisplay view.metricsDisplay
  let clientActivityLine ← clientActivityElement.toUIElement.resizeVisible
    view.areas.clientActivityLine view.clientActivityLine
  let graphPrecisionLine ← (graphPrecisionElement env).toUIElement.resizeVisible
    view.areas.graphPrecisionLine view.graphPrecisionLine
  pure { view with
    logBlock := logBlock
    usageGraph := usageGraph
    metricsDisplay := metricsDisplay
    clientActivityLine := clientActivityLine
    graphPrecisionLine := graphPrecisionLine }

/-- Passes the focus on where the part that has it is not in the layout any more. -/
def refocus (env : UiEnv) (view : MainView) : Ui MainView :=
  if view.isFocused && !view.focusedElement.isVisibleIn view.layoutMode then do
    let (_, view) ← (view.focusLost env).receiveFocus env (0, 0)
    pure view
  else pure view

def performResize (env : UiEnv) (area : Rect) (expanded : Bool) (view : MainView) :
    Ui MainView := do
  let view ←
    if expanded then view.distributeAreasExpanded area else view.distributeAreas env area
  let view ← view.resizeParts env
  view.refocus env

/-! ## As an element -/

def isLayoutExpanded (view : MainView) : Bool := view.layoutMode = .graphExpanded

/-- The button of a view that is laid out anew. -/
def relabel (view : MainView) : MainView :=
  { view with
    clientActivityLine :=
      { view.clientActivityLine with
        second :=
          if view.expanded then
            (view.clientActivityLine.second.setTextNoRedraw returnToMainViewLabel).setShortcut
              returnToMainViewShortcut
          else
            (view.clientActivityLine.second.setTextNoRedraw expandGraphLabel).setShortcut
              expandGraphShortcut } }

def relayoutIfNeeded (env : UiEnv) (area : Rect) (view : MainView) : Ui MainView :=
  if view.expanded ≠ view.isLayoutExpanded then
    view.relabel.performResize env area view.expanded
  else pure view

/-- The cell between the lines of a graph that is expanded. -/
def separator (area : Rect) (expanded : Bool) (view : MainView) : Ui (List Rect) :=
  if expanded && !view.areas.clientActivityLine.isEmpty then do
    let x ← addU16 view.areas.clientActivityLine.right 1
    if x < area.right then do
      let cell ← Rect.new x view.areas.clientActivityLine.y 1 1
      pure [cell]
    else pure []
  else pure []

def render (env : UiEnv) (area : Rect) (view : MainView) : Ui (List Rect × MainView) := do
  let expanded := view.expanded
  let view ← view.relayoutIfNeeded env area
  let (drawn₁, logBlock) ←
    (LogBlock.element env).renderVisible view.areas.logBlock view.logBlock
  let (drawn₂, usageGraph) ←
    (UsageGraph.element env).renderVisible view.areas.usageGraph view.usageGraph
  let (drawn₃, metricsDisplay) ←
    MetricsDisplay.element.renderVisible view.areas.metricsDisplay view.metricsDisplay
  let (drawn₄, clientActivityLine) ← clientActivityElement.toUIElement.renderVisible
    view.areas.clientActivityLine view.clientActivityLine
  let drawn₅ ← view.separator area expanded
  let (drawn₆, graphPrecisionLine) ← (graphPrecisionElement env).toUIElement.renderVisible
    view.areas.graphPrecisionLine view.graphPrecisionLine
  pure (drawn₁ ++ drawn₂ ++ drawn₃ ++ drawn₄ ++ drawn₅ ++ drawn₆, { view with
    logBlock := logBlock
    usageGraph := usageGraph
    metricsDisplay := metricsDisplay
    clientActivityLine := clientActivityLine
    graphPrecisionLine := graphPrecisionLine })

/-- The parts to which an event goes that the focused one has not handled. -/
def handleUnfocused (env : UiEnv) (event : UiEvent) :
    List FocusedElement → MainView → Ui (HandleEventStatus × MainView)
  | [], view => pure (.unhandled, view)
  | element :: elements, view => do
    let (status, view) ← view.handlePart env event false element
    if status = .unhandled then handleUnfocused env event elements view else pure (status, view)

def handleEvent (env : UiEnv) (event : UiEvent) (isFocused : Bool) (view : MainView) :
    Ui (HandleEventStatus × MainView) :=
  let elements := [FocusedElement.logBlock, .expandButton, .precisionSelector]
  if isFocused then do
    let (status, view) ← view.handlePart env event true view.focusedElement
    match status with
    | .handled => pure (.handled, view)
    | .passFocus position direction =>
      view.passFocus env position direction (elements.length + 1) view.focusedElement
    | .unhandled => view.handleUnfocused env event elements
  else view.handleUnfocused env event elements

def element (env : UiEnv) : UIElement MainView where
  resize area view := view.performResize env area view.expanded
  render := render env
  handleEvent := handleEvent env
  receiveFocus := receiveFocus env
  focusLost := focusLost env

end MainView

end DustDevil
