import Mathlib.Data.Int.Notation
import DustDevil.Client.TextWrapper
import DustDevil.Lib.Slice

/-!
# Long lists

The client's `elements/long_list.rs`: a list of which only the items in view are turned into lines,
which are kept until they go out of view. A line is any type. Of ratatui there is what a block
leaves of its area, which is a parameter, and what is drawn and where; `usize` and `i32` counters
are numbers, as no list has as many lines as they have room for.
-/

namespace DustDevil

open Wire

/-! ## Areas and what is drawn in them -/

/-- An area within a frame, whose sides a `u16` has room for. -/
structure Rect where
  x : ℕ
  y : ℕ
  width : ℕ
  height : ℕ
  right_lt : x + width < 2 ^ 16
  bottom_lt : y + height < 2 ^ 16
  deriving DecidableEq

namespace Rect

def default : Rect := ⟨0, 0, 0, 0, by decide, by decide⟩

def isEmpty (area : Rect) : Bool := area.width = 0 ∨ area.height = 0

theorem isEmpty_iff {area : Rect} : area.isEmpty ↔ area.width = 0 ∨ area.height = 0 := by
  simp [isEmpty]

end Rect

/-- `Block::inner` of a block with a border at each side. -/
structure BlockInner where
  inner : Rect → Rect
  width_eq : ∀ area, (inner area).width = area.width - 2
  height_eq : ∀ area, (inner area).height = area.height - 2
  x_le : ∀ area, area.x ≤ (inner area).x
    ∧ (inner area).x + (inner area).width ≤ area.x + area.width
  y_le : ∀ area, area.y ≤ (inner area).y
    ∧ (inner area).y + (inner area).height ≤ area.y + area.height

/-- As ratatui has it. -/
def BlockInner.bordered : BlockInner where
  inner area :=
    { x := min (area.x + 1) (area.x + area.width)
      y := min (area.y + 1) (area.y + area.height)
      width := area.width - 2
      height := area.height - 2
      right_lt := by have h := area.right_lt; omega
      bottom_lt := by have h := area.bottom_lt; omega }
  width_eq _ := rfl
  height_eq _ := rfl
  x_le area := by simp only; omega
  y_le area := by simp only; omega

/-- Something that is drawn: the block around the list, a line from a cell to the right, or a
cell. -/
inductive Drawn (Line : Type) where
  | block (title : StaticString) (area : Rect)
  | line (x y : ℕ) (line : Line) (width : ℕ)
  | cell (x y : ℕ) (symbol : Char)

/-! ## Events -/

inductive PassFocusDirection where
  | away
  | forward
  | up
  | down
  | left
  | right
  deriving DecidableEq, Repr

inductive HandleEventStatus where
  | handled
  | unhandled
  | passFocus (position : ℕ × ℕ) (direction : PassFocusDirection)
  deriving DecidableEq, Repr

inductive OnEnterResult where
  | handled
  | unhandled
  | passFocus (direction : PassFocusDirection)
  deriving DecidableEq, Repr

/-- The keys of crossterm's `KeyCode` that a list knows, and any other. -/
inductive KeyCode where
  | up
  | down
  | pageUp
  | pageDown
  | home
  | endKey
  | left
  | right
  | tab
  | esc
  | enter
  | other
  deriving DecidableEq, Repr

structure KeyModifiers where
  shift : Bool
  control : Bool
  deriving DecidableEq, Repr

structure KeyEvent where
  code : KeyCode
  modifiers : KeyModifiers
  /-- Whether its kind is `KeyEventKind::Release`. -/
  isRelease : Bool
  deriving DecidableEq, Repr

inductive MouseEventKind where
  | scrollUp
  | scrollDown
  | other
  deriving DecidableEq, Repr

structure MouseEvent where
  kind : MouseEventKind
  modifiers : KeyModifiers
  deriving DecidableEq, Repr

/-- crossterm's `Event`. -/
inductive TuiEvent where
  | mouse (mouseEvent : MouseEvent)
  | key (keyEvent : KeyEvent)
  | other
  deriving DecidableEq, Repr

/-- The keys of an element that characters are typed into. -/
inductive InputKeyCode where
  | char (c : Char)
  | backspace
  | delete
  | key (code : KeyCode)
  deriving DecidableEq, Repr

structure InputKeyEvent where
  code : InputKeyCode
  modifiers : KeyModifiers
  /-- Whether its kind is `KeyEventKind::Release`. -/
  isRelease : Bool
  deriving DecidableEq, Repr

/-- An `Event` as such an element knows it. -/
inductive InputEvent where
  | key (keyEvent : InputKeyEvent)
  | other
  deriving DecidableEq, Repr

/-! ## The list -/

/-- What a list asks of its handler. It gives no lines of an item that it does not have, but
panics. -/
structure LongListHandler (Line : Type) where
  getItemLines : ℕ → ℕ → Option (List Line)
  modifyLineToSelected : ℕ → Line → UInt16 → Line
  modifyLineToUnselected : ℕ → Line → UInt16 → Line
  onEnter : ℕ → OnEnterResult

/-- A `LongList` with its controller. -/
structure LongList (Line : Type) where
  currentArea : Rect
  title : StaticString
  /-- The lines in view, each with the index of its item. -/
  lines : List (Line × ℕ)
  itemCount : ℕ
  selectedIndex : Option ℕ
  selectLastFirst : Bool
  deselectOnRemove : Bool
  redrawNotified : Bool

namespace LongList

variable {Line ε : Type}

def keyShiftScrollAmount : ℕ := 5

def new (title : StaticString) (itemCount : ℕ) (selectLastFirst deselectOnRemove : Bool) :
    LongList Line where
  currentArea := .default
  title := title
  lines := []
  itemCount := itemCount
  selectedIndex := none
  selectLastFirst := selectLastFirst
  deselectOnRemove := deselectOnRemove
  redrawNotified := false

def indexOfFirst (itemCount : ℕ) : Option ℕ := if itemCount = 0 then none else some 0

def indexOfLast (itemCount : ℕ) : Option ℕ := if itemCount = 0 then none else some (itemCount - 1)

def selectionStartIndex (selectLastFirst : Bool) (itemCount : ℕ) : Option ℕ :=
  if itemCount = 0 then none else if selectLastFirst then some (itemCount - 1) else some 0

def redrawNotify (list : LongList Line) : LongList Line := { list with redrawNotified := true }

/-! ### The controller's operations -/

def setSelectedIndex (selectedIndex : Option ℕ) (list : LongList Line) :
    Except (Stop ε) (LongList Line) :=
  if selectedIndex.any (list.itemCount ≤ ·) then .error .panic
  else .ok { list with selectedIndex := selectedIndex }

def resetItemsNoRedraw (itemCount : ℕ) (tryKeepSelected : Bool) (list : LongList Line) :
    LongList Line :=
  { list with
    itemCount := itemCount
    lines := []
    selectedIndex := list.selectedIndex.filter fun idx => tryKeepSelected && idx < itemCount }

def setItemCount (itemCount : ℕ) (list : LongList Line) : LongList Line :=
  if list.itemCount = itemCount then list
  else
    ({ list with
      itemCount := itemCount
      lines := list.lines.rdropWhile fun line => itemCount ≤ line.2
      selectedIndex :=
        match list.selectedIndex, indexOfLast itemCount with
        | some si, some il => some (min si il)
        | _, _ => none }).redrawNotify

/-- Where the lines of an item are in `lines`, if they are. -/
def indexInLines (index : ℕ) (lines : List (Line × ℕ)) : Option ℕ :=
  let i := (lines.takeWhile fun line => line.2 < index).length
  if lines[i]?.map Prod.snd = some index then some i else none

/-- `lines` without those of a removed item, and with those after it one index lower. -/
def removeLines (index : ℕ) (lines : List (Line × ℕ)) : List (Line × ℕ) :=
  let decrease (line : Line × ℕ) : Line × ℕ := (line.1, line.2 - 1)
  match indexInLines index lines with
  | some i => lines.take i ++ ((lines.drop i).dropWhile fun line => line.2 = index).map decrease
  | none =>
    if lines.head?.any fun line => index < line.2 then lines.map decrease
    else lines

def onItemRemoved (index : ℕ) (list : LongList Line) : LongList Line :=
  let itemCount := list.itemCount - 1
  ({ list with
    itemCount := itemCount
    lines := removeLines index list.lines
    selectedIndex :=
      match list.selectedIndex with
      | some selectedIndex =>
        if (list.deselectOnRemove ∧ selectedIndex = index) ∨ itemCount = 0 then none
        else if index ≤ selectedIndex then some (selectedIndex - 1)
        else some selectedIndex
      | none => none }).redrawNotify

/-! ### Events -/

def getFocusPosition (list : LongList Line) : ℕ × ℕ :=
  (list.currentArea.x, list.currentArea.y + list.currentArea.height / 2)

def scrollAmount (modifiers : KeyModifiers) : ℕ :=
  if modifiers.shift then keyShiftScrollAmount else 1

/-- Selecting another index than before asks for a redraw. -/
def select (selectedIndex : Option ℕ) (list : LongList Line) : LongList Line :=
  if selectedIndex ≠ list.selectedIndex then
    ({ list with selectedIndex := selectedIndex }).redrawNotify
  else list

def handleMouseEvent (mouseEvent : MouseEvent) (isFocused : Bool) (list : LongList Line) :
    HandleEventStatus × LongList Line :=
  let amount := scrollAmount mouseEvent.modifiers
  let scrolled (scroll : ℕ → ℕ) : HandleEventStatus × LongList Line :=
    (.handled, list.select <|
      match list.selectedIndex with
      | some selectedIndex => some (scroll selectedIndex)
      | none => selectionStartIndex list.selectLastFirst list.itemCount)
  if !isFocused then (.unhandled, list)
  else
    match mouseEvent.kind with
    | .scrollUp => scrolled fun selectedIndex => selectedIndex - amount
    | .scrollDown => scrolled fun selectedIndex =>
      min (selectedIndex + amount) (list.itemCount - 1)
    | .other => (.unhandled, list)

/-- The arms of the up and down keys: the index to select, and whether the focus is passed. -/
def stepSelection (limit : Option ℕ) (step : ℕ → ℕ → ℕ) (list : LongList Line) :
    Option ℕ × Bool :=
  match list.selectedIndex, limit with
  | none, _ =>
    let selectedIndex := selectionStartIndex list.selectLastFirst list.itemCount
    (selectedIndex, selectedIndex.isNone)
  | some selectedIndex, some limit =>
    if selectedIndex = limit then (some selectedIndex, true)
    else (some (step selectedIndex limit), false)
  | some selectedIndex, none => (some selectedIndex, true)

def handleKeyEvent (handler : LongListHandler Line) (keyEvent : KeyEvent) (isFocused : Bool)
    (list : LongList Line) : HandleEventStatus × LongList Line :=
  let passFocus := HandleEventStatus.passFocus list.getFocusPosition
  let amount := scrollAmount keyEvent.modifiers
  let pageAmount := amount * (list.currentArea.height - 2)
  let start := selectionStartIndex list.selectLastFirst list.itemCount
  if !isFocused || keyEvent.isRelease then (.unhandled, list)
  else if keyEvent.modifiers.control && keyEvent.code = .up then (passFocus .up, list)
  else if keyEvent.modifiers.control && keyEvent.code = .down then (passFocus .down, list)
  else
    match keyEvent.code with
    | .up =>
      let (selectedIndex, pass) := list.stepSelection (indexOfFirst list.itemCount)
        fun selectedIndex first => max (selectedIndex - amount) first
      (if pass then passFocus .up else .handled, list.select selectedIndex)
    | .down =>
      let (selectedIndex, pass) := list.stepSelection (indexOfLast list.itemCount)
        fun selectedIndex last => min (selectedIndex + amount) last
      (if pass then passFocus .down else .handled, list.select selectedIndex)
    | .pageUp =>
      (.handled, list.select <|
        match list.selectedIndex with
        | some selectedIndex => some (selectedIndex - pageAmount)
        | none => start)
    | .pageDown =>
      (.handled, list.select <|
        match list.selectedIndex, indexOfLast list.itemCount with
        | some selectedIndex, some last => some (min (selectedIndex + pageAmount) last)
        | some selectedIndex, none => some selectedIndex
        | none, _ => start)
    | .home => (.handled, list.select (indexOfFirst list.itemCount))
    | .endKey => (.handled, list.select (indexOfLast list.itemCount))
    | .left => (passFocus .left, list)
    | .right => (passFocus .right, list)
    | .tab => (passFocus .forward, list)
    | .esc => (passFocus .away, list)
    | .enter =>
      match list.selectedIndex.map handler.onEnter with
      | some .handled => (.handled, list)
      | some .unhandled => (.unhandled, list)
      | some (.passFocus direction) => (passFocus direction, list)
      | none => (.unhandled, list)
    | .other => (.unhandled, list)

def handleEvent (handler : LongListHandler Line) (event : TuiEvent) (isFocused : Bool)
    (list : LongList Line) : HandleEventStatus × LongList Line :=
  match event with
  | .mouse mouseEvent => list.handleMouseEvent mouseEvent isFocused
  | .key keyEvent => list.handleKeyEvent handler keyEvent isFocused
  | .other => (.unhandled, list)

def receiveFocus (list : LongList Line) : Bool × LongList Line :=
  match selectionStartIndex list.selectLastFirst list.itemCount with
  | some index => (true, ({ list with selectedIndex := some index }).redrawNotify)
  | none => (false, list)

def focusLost (list : LongList Line) : LongList Line :=
  if list.selectedIndex.isSome then ({ list with selectedIndex := none }).redrawNotify else list

def resize (area : Rect) (list : LongList Line) : LongList Line :=
  if list.currentArea.width ≠ area.width ∨ list.currentArea.height ≠ area.height then
    { list with currentArea := area, lines := [] }
  else { list with currentArea := area }

/-! ### Processing lines -/

/-- The item of a line, which panics where there is no such line. -/
def itemAt (lines : List (Line × ℕ)) (i : ℕ) : Except (Stop ε) ℕ :=
  match lines[i]? with
  | some line => .ok line.2
  | none => .error .panic

/-- How many lines from a place on are of an item. -/
def countFrom (lines : List (Line × ℕ)) (i item : ℕ) : ℕ :=
  ((lines.drop i).takeWhile fun line => line.2 = item).length

/-- How many lines before a place are of an item. -/
def countBefore (lines : List (Line × ℕ)) (i item : ℕ) : ℕ :=
  ((lines.take i).rtakeWhile fun line => line.2 = item).length

/-- The lines that the handler gives of an item, each with the item's index. -/
def itemLines (handler : LongListHandler Line) (width index : ℕ) :
    Except (Stop ε) (List (Line × ℕ)) :=
  match handler.getItemLines index width with
  | some lines => .ok (lines.map (·, index))
  | none => .error .panic

/-- The variables of `process_lines` while it fills the view. -/
structure Viewport (Line : Type) where
  lines : List (Line × ℕ)
  remainingLowerLinesCount : ℤ
  lowerItemsCurrentIndex : ℕ
  linesLowerItemCurrentI : ℕ
  remainingHigherLinesCount : ℤ
  higherItemsNextIndex : ℕ
  linesHigherItemNextI : ℕ

namespace Viewport

/-- The view with the center item only, for so many lines. -/
def center (handler : LongListHandler Line) (search : KeySearch (Line × ℕ))
    (centerItemIndex : ℕ) (width height : ℕ) (lines : List (Line × ℕ)) :
    Except (Stop ε) (Viewport Line) := do
  let (lines, centerStartLineI, centerLineCount) ←
    match search.search Prod.snd centerItemIndex lines with
    | .ok index =>
      let index := index - countBefore lines index centerItemIndex
      pure (lines, index, 1 + countFrom lines (index + 1) centerItemIndex)
    | .error _ => do
      let lines ← itemLines handler width centerItemIndex
      pure (lines, 0, lines.length)
  let additionalLineCount := height - centerLineCount
  if lines.length < centerStartLineI + 1 then .error .panic
  else pure {
    lines := lines
    remainingLowerLinesCount := (additionalLineCount / 2 : ℕ)
    lowerItemsCurrentIndex := centerItemIndex
    linesLowerItemCurrentI := centerStartLineI
    remainingHigherLinesCount := ((additionalLineCount + 1) / 2 : ℕ)
    higherItemsNextIndex := centerItemIndex + 1
    linesHigherItemNextI :=
      centerStartLineI + 1 + countFrom lines (centerStartLineI + 1) centerItemIndex }

/-- Adding lines at the start, or passing what remains there over to the higher side. -/
def addLower (handler : LongListHandler Line) (width : ℕ) (view : Viewport Line) :
    Except (Stop ε) (Viewport Line) :=
  if view.lowerItemsCurrentIndex = 0 then
    .ok { view with
      remainingHigherLinesCount := view.remainingHigherLinesCount + view.remainingLowerLinesCount
      remainingLowerLinesCount := 0 }
  else
    let item := view.lowerItemsCurrentIndex - 1
    if view.linesLowerItemCurrentI = 0 then do
      let added ← itemLines handler width item
      pure { view with
        lines := added ++ view.lines
        remainingLowerLinesCount := view.remainingLowerLinesCount - added.length
        lowerItemsCurrentIndex := item
        linesHigherItemNextI := view.linesHigherItemNextI + added.length }
    else do
      let i := view.linesLowerItemCurrentI - 1
      let skippingItemIndex ← itemAt view.lines i
      let count := countBefore view.lines i skippingItemIndex
      pure { view with
        remainingLowerLinesCount := view.remainingLowerLinesCount - 1 - count
        lowerItemsCurrentIndex := item
        linesLowerItemCurrentI := i - count }

/-- Adding lines at the end, or passing what remains there over to the lower side. -/
def addHigher (handler : LongListHandler Line) (width itemCount : ℕ) (view : Viewport Line) :
    Except (Stop ε) (Viewport Line) :=
  if view.higherItemsNextIndex = itemCount then
    .ok { view with
      remainingLowerLinesCount := view.remainingLowerLinesCount + view.remainingHigherLinesCount
      remainingHigherLinesCount := 0 }
  else
    let item := view.higherItemsNextIndex
    if view.linesHigherItemNextI = view.lines.length then do
      let added ← itemLines handler width item
      pure { view with
        lines := view.lines ++ added
        remainingHigherLinesCount := view.remainingHigherLinesCount - added.length
        higherItemsNextIndex := item + 1
        linesHigherItemNextI := view.lines.length + added.length }
    else do
      let skippingItemIndex ← itemAt view.lines view.linesHigherItemNextI
      let i := view.linesHigherItemNextI + 1
      let count := countFrom view.lines i skippingItemIndex
      pure { view with
        remainingHigherLinesCount := view.remainingHigherLinesCount - 1 - count
        higherItemsNextIndex := item + 1
        linesHigherItemNextI := i + count }

/-- The loop that fills the view, of at most `fuel` rounds. -/
def fill (handler : LongListHandler Line) (width itemCount : ℕ) :
    ℕ → Viewport Line → Except (Stop ε) (Viewport Line)
  | 0, _ => .error .running
  | fuel + 1, view =>
    if (0 < view.remainingLowerLinesCount ∨ 0 < view.remainingHigherLinesCount)
        ∧ (0 < view.lowerItemsCurrentIndex ∨ view.higherItemsNextIndex < itemCount) then do
      let view ←
        if view.remainingHigherLinesCount < view.remainingLowerLinesCount then
          view.addLower handler width
        else view.addHigher handler width itemCount
      fill handler width itemCount fuel view
    else .ok view

/-- The lines that are kept. -/
def kept (view : Viewport Line) : List (Line × ℕ) :=
  (view.lines.take view.linesHigherItemNextI).drop view.linesLowerItemCurrentI

end Viewport

/-- The loop that draws lines, of which those of the selected item are modified and modified back:
the lines that are drawn, and what is left of all. -/
def drawLines (handler : LongListHandler Line) (selectedIndex : Option ℕ) :
    Option ℕ → UInt16 → List (Line × ℕ) → List Line × List (Line × ℕ)
  | _, _, [] => ([], [])
  | previousItemIndex, itemLineNumber, (line, itemIndex) :: lines =>
    let itemLineNumber :=
      if previousItemIndex.any (· ≠ itemIndex) then 0 else itemLineNumber
    let (drawn, rest) :=
      drawLines handler selectedIndex (some itemIndex) (itemLineNumber + 1) lines
    if selectedIndex = some itemIndex then
      let selected := handler.modifyLineToSelected itemIndex line itemLineNumber
      let unselected := handler.modifyLineToUnselected itemIndex selected itemLineNumber
      (selected :: drawn, (unselected, itemIndex) :: rest)
    else (line :: drawn, (line, itemIndex) :: rest)

/-- `process_lines`: the lines that are drawn, and the list after it. No more rounds are needed to
fill the view than the fuel is for. -/
def processLines (handler : LongListHandler Line) (search : KeySearch (Line × ℕ))
    (centerItemIndex : ℕ) (area : Rect) (list : LongList Line) :
    Except (Stop ε) (List Line × LongList Line) :=
  if list.itemCount = 0 ∨ area.isEmpty then .ok ([], list)
  else do
    let view ← Viewport.center handler search centerItemIndex area.width area.height list.lines
    let view ← view.fill handler area.width list.itemCount (2 * list.itemCount + 1)
    let skipped := (-view.remainingLowerLinesCount).toNat
    let shown := (view.kept.drop skipped).take area.height
    let (drawn, lines) :=
      drawLines handler list.selectedIndex none (UInt16.ofNat skipped) shown
    pure (drawn, { list with
      lines := view.kept.take skipped ++ lines ++ (view.kept.drop skipped).drop area.height })

/-! ### Rendering -/

section Render

/-- An unsigned subtraction. -/
def checkedSub (a b : ℕ) : Except (Stop ε) ℕ := if b ≤ a then .ok (a - b) else .error .panic

def roundedDivide (a b : ℕ) : Except (Stop ε) ℕ :=
  if b = 0 then .error .panic else .ok ((a + b / 2) / b)

/-- A run of a symbol in a column. -/
def column (x y : ℕ) (symbol : Char) (length : ℕ) : List (Drawn Line) :=
  (List.range length).map fun i => .cell x (y + i) symbol

def renderScrollbar (area : Rect) (lowestIndex highestIndex itemCount : ℕ) :
    Except (Stop ε) (List (Drawn Line)) := do
  let trackLen := area.height - 2
  let thumbStart ← roundedDivide (lowestIndex * trackLen) (← checkedSub itemCount 1)
  let thumbEnd ← roundedDivide (highestIndex * trackLen) (← checkedSub itemCount 1)
  let thumbStart := min thumbStart (trackLen - 1)
  let thumbEnd := max thumbEnd (thumbStart + 1)
  let trackStartLen := thumbStart
  let thumbLen ← checkedSub thumbEnd thumbStart
  let trackEndLen ← checkedSub (← checkedSub trackLen thumbStart) thumbLen
  let x := area.x + area.width - 1
  let y := area.y + 1
  pure (column x area.y '↑' 1 ++ column x y '║' trackStartLen
    ++ column x (y + trackStartLen) '█' thumbLen
    ++ column x (y + trackStartLen + thumbLen) '║' trackEndLen
    ++ column x (y + trackStartLen + thumbLen + trackEndLen) '↓' 1)

/-- The item of a line at one end, which panics where there is none. -/
def unwrapItem : Option (Line × ℕ) → Except (Stop ε) ℕ
  | some line => .ok line.2
  | none => .error .panic

/-- The item around which the others are. -/
def centerItemIndex (list : LongList Line) : ℕ :=
  list.selectedIndex.getD ((selectionStartIndex list.selectLastFirst list.itemCount).getD 0)

def render (handler : LongListHandler Line) (search : KeySearch (Line × ℕ)) (block : BlockInner)
    (area : Rect) (list : LongList Line) : Except (Stop ε) (List (Drawn Line) × LongList Line) := do
  let listArea := block.inner area
  let title := list.title
  let (lines, list) ← list.processLines handler search list.centerItemIndex listArea
  let drawn := .block title area :: lines.mapIdx fun i line =>
    .line listArea.x (listArea.y + i) line listArea.width
  if listArea.height ≤ list.lines.length then do
    let lowestIndex ← unwrapItem list.lines.head?
    let highestIndex ← unwrapItem list.lines.getLast?
    if 0 < lowestIndex ∨ highestIndex + 1 < list.itemCount
        ∨ listArea.height < list.lines.length then do
      let scrollbar ← renderScrollbar area lowestIndex highestIndex list.itemCount
      pure (drawn ++ scrollbar, list)
    else pure (drawn, list)
  else pure (drawn, list)

end Render

end LongList

end DustDevil
