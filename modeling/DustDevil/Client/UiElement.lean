import DustDevil.Client.ArrowSelector

/-!
# Elements of the UI

The client's `ui_element.rs`, the elements that hold others (`focus_cell.rs`,
`horizontal_split.rs`, `vertical_split.rs`), `centered_button.rs` and the `TextLine` of `text.rs`.
The methods of an element are the fields of a `UIElement`. Any of them may panic, but for
`focus_lost`. Of what is drawn there are the areas that it is drawn in.
-/

namespace DustDevil

open Wire

/-- What may panic, and does nothing else but return. -/
abbrev Ui (α : Type) : Type := Except (Stop Empty) α

/-- An addition of `u16`s. -/
def addU16 (a b : ℕ) : Ui ℕ := if a + b < 2 ^ 16 then .ok (a + b) else .error .panic

/-- A subtraction of unsigned numbers. -/
def subU16 (a b : ℕ) : Ui ℕ := if b ≤ a then .ok (a - b) else .error .panic

/-- `u16::saturating_add`. -/
def saturatingAddU16 (a b : ℕ) : ℕ := min (a + b) (2 ^ 16 - 1)

/-- `s.chars().count().min(u16::MAX as usize) as u16`. -/
def charCountU16 (s : Str) : ℕ := min s.length (2 ^ 16 - 1)

namespace Rect

def right (area : Rect) : ℕ := area.x + area.width

def bottom (area : Rect) : ℕ := area.y + area.height

/-- `Rect::new`, of an area that is within a frame and so has no more cells than one may have. -/
def new (x y width height : ℕ) : Ui Rect :=
  if h : x + width < 2 ^ 16 ∧ y + height < 2 ^ 16 then .ok ⟨x, y, width, height, h.1, h.2⟩
  else .error .panic

/-- The area with another width, where it is no wider than before. -/
def narrow (area : Rect) (width : ℕ) : Rect :=
  { area with
    width := min area.width width
    right_lt := by have h := area.right_lt; omega }

def shorten (area : Rect) (height : ℕ) : Rect :=
  { area with
    height := min area.height height
    bottom_lt := by have h := area.bottom_lt; omega }

end Rect

/-! ## Events -/

/-- crossterm's `Event`. -/
inductive UiEvent where
  | mouse (mouseEvent : MouseEvent)
  | key (keyEvent : InputKeyEvent)
  | other
  deriving DecidableEq, Repr

namespace UiEvent

/-- As a list knows it, to which a character is any other key. -/
def tui : UiEvent → TuiEvent
  | mouse mouseEvent => .mouse mouseEvent
  | key keyEvent =>
    .key ⟨match keyEvent.code with
      | .key code => code
      | .char _ | .backspace | .delete => .other, keyEvent.modifiers, keyEvent.isRelease⟩
  | other => .other

def input : UiEvent → InputEvent
  | key keyEvent => .key keyEvent
  | mouse _ | other => .other

/-- The key of an event that is a key's, unless it is that the key is let go. -/
def pressed : UiEvent → Option InputKeyCode
  | key keyEvent => if keyEvent.isRelease then none else some keyEvent.code
  | mouse _ | other => none

end UiEvent

/-! ## The traits -/

/-- An implementation of `UIElement`. -/
structure UIElement (σ : Type) where
  resize : Rect → σ → Ui σ
  render : Rect → σ → Ui (List Rect × σ)
  handleEvent : UiEvent → Bool → σ → Ui (HandleEventStatus × σ)
  receiveFocus : ℕ × ℕ → σ → Ui (Bool × σ)
  focusLost : σ → σ

/-- And one of `AutosizeUIElement`. -/
structure AutosizeUIElement (σ : Type) extends UIElement σ where
  beginResize : ℕ → ℕ → σ → (ℕ × ℕ) × σ

namespace UIElement

variable {σ : Type} (element : UIElement σ)

/-- Resizes an element unless its area is empty. -/
def resizeVisible (area : Rect) (s : σ) : Ui σ :=
  if area.isEmpty then .ok s else element.resize area s

/-- Renders an element unless its area is empty. -/
def renderVisible (area : Rect) (s : σ) : Ui (List Rect × σ) :=
  if area.isEmpty then .ok ([], s) else element.render area s

end UIElement

/-! ## Text lines -/

inductive Alignment where
  | left
  | center
  | right
  deriving DecidableEq, Repr

structure TextLine where
  text : Str
  alignment : Alignment
  textLen : ℕ
  currentWidth : ℕ
  textDrawOffset : ℕ

namespace TextLine

def new (text : Str) (alignment : Alignment) : TextLine :=
  ⟨text, alignment, charCountU16 text, 0, 0⟩

def resize (area : Rect) (line : TextLine) : TextLine :=
  if area.width = line.currentWidth then line
  else
    { line with
      currentWidth := area.width
      textDrawOffset :=
        match line.alignment with
        | .left => 0
        | .center => (area.width - line.textLen) / 2
        | .right => area.width - line.textLen }

def element : AutosizeUIElement TextLine where
  resize area line := .ok (line.resize area)
  render area line := .ok ([area], line)
  handleEvent _ _ line := .ok (.unhandled, line)
  receiveFocus _ line := .ok (false, line)
  focusLost line := line
  beginResize width _ line := ((min width line.textLen, 1), line)

end TextLine

/-! ## Buttons -/

/-- A `CenteredButton`, whose handler has a state of any type. -/
structure CenteredButton (η : Type) where
  text : Str
  textLenChars : ℕ
  shortcutKey : Option Char
  handler : η
  isFocused : Bool
  currentPosition : ℕ × ℕ
  currentWidth : ℕ
  redrawNotified : Bool

/-- A `ButtonHandler`'s `on_pressed`. -/
abbrev ButtonHandler (η : Type) : Type := η → OnEnterResult × η

namespace CenteredButton

variable {η : Type} (onPressed : ButtonHandler η)

def new (text : Str) (shortcutKey : Option Char) (handler : η) : CenteredButton η where
  text := text
  textLenChars := charCountU16 text
  shortcutKey := shortcutKey.map Char.toLower
  handler := handler
  isFocused := false
  currentPosition := (0, 0)
  currentWidth := 0
  redrawNotified := false

def setTextNoRedraw (text : Str) (button : CenteredButton η) : CenteredButton η :=
  { button with text := text, textLenChars := charCountU16 text }

def setShortcut (shortcutKey : Option Char) (button : CenteredButton η) : CenteredButton η :=
  { button with shortcutKey := shortcutKey }

def resize (area : Rect) (button : CenteredButton η) : CenteredButton η :=
  { button with currentPosition := (area.x, area.y), currentWidth := area.width }

def press (button : CenteredButton η) : OnEnterResult × CenteredButton η :=
  let (result, handler) := onPressed button.handler
  (result, { button with handler := handler })

/-- The keys that are no characters, while the button is focused. -/
def handleKey (code : KeyCode) (button : CenteredButton η) : HandleEventStatus × CenteredButton η :=
  match code with
  | .enter =>
    let (result, button) := button.press onPressed
    match result with
    | .handled => (.handled, button)
    | .unhandled => (.unhandled, button)
    | .passFocus direction => (.passFocus button.currentPosition direction, button)
  | code =>
    match ArrowSelector.passFocusDirection code with
    | some direction => (.passFocus button.currentPosition direction, button)
    | none => (.unhandled, button)

def handleEvent (event : UiEvent) (isFocused : Bool) (button : CenteredButton η) :
    HandleEventStatus × CenteredButton η :=
  match event.pressed with
  | none => (.unhandled, button)
  | some (.char c) =>
    if button.shortcutKey = some c.toLower then (.handled, (button.press onPressed).2)
    else (.unhandled, button)
  | some .backspace | some .delete => (.unhandled, button)
  | some (.key code) => if isFocused then button.handleKey onPressed code else (.unhandled, button)

def receiveFocus (button : CenteredButton η) : Bool × CenteredButton η :=
  (true, { button with isFocused := true, redrawNotified := true })

def focusLost (button : CenteredButton η) : CenteredButton η :=
  { button with isFocused := false, redrawNotified := true }

def element : AutosizeUIElement (CenteredButton η) where
  resize area button := .ok (button.resize area)
  render area button := .ok ([area], button)
  handleEvent event isFocused button := .ok (button.handleEvent onPressed event isFocused)
  receiveFocus _ button := .ok button.receiveFocus
  focusLost := focusLost
  beginResize width _ button := ((min width button.textLenChars, 1), button)

end CenteredButton

/-! ## Arrow selectors -/

namespace ArrowSelector

/-- The width of the widest option, `options_max_width`. -/
def optionsMaxWidth (selector : ArrowSelector) : ℕ :=
  min (selector.options.foldr (fun option width => max option.1.toStr.length width) 0) (2 ^ 16 - 1)

def beginResize (width : ℕ) (selector : ArrowSelector) : ℕ × ℕ :=
  (min width (saturatingAddU16 (saturatingAddU16 selector.optionsMaxWidth 4)
    (charCountU16 selector.afterText.toStr)), 1)

def element (setStringn : SetStringn) : AutosizeUIElement ArrowSelector where
  resize area selector := .ok (selector.resize area)
  render area selector := do
    let _ ← selector.render setStringn area
    pure ([area], selector)
  handleEvent event isFocused selector := .ok (selector.handleEvent event.input isFocused)
  receiveFocus _ selector := .ok selector.receiveFocus
  focusLost := focusLost
  beginResize width _ selector := (selector.beginResize width, selector)

end ArrowSelector

/-! ## Splits -/

/-- The direction in which a split has its elements after each other. -/
inductive Axis where
  | horizontal
  | vertical
  deriving DecidableEq, Repr

namespace Axis

def start : Axis → Rect → ℕ
  | horizontal, area => area.x
  | vertical, area => area.y

def coord : Axis → ℕ × ℕ → ℕ
  | horizontal, position => position.1
  | vertical, position => position.2

/-- The directions that lead from the first element to the second. -/
def forwards : Axis → PassFocusDirection → Bool
  | horizontal, direction => direction = .right ∨ direction = .forward
  | vertical, direction => direction = .down ∨ direction = .forward

def backwards : Axis → PassFocusDirection → Bool
  | horizontal, direction => direction = .left
  | vertical, direction => direction = .up

/-- The first so many columns or rows of an area. -/
def before : Axis → ℕ → Rect → Rect
  | horizontal, size, area => area.narrow size
  | vertical, size, area => area.shorten size

/-- What is after them. -/
def after : Axis → ℕ → Rect → Ui Rect
  | horizontal, size, area => Rect.new (area.x + size) area.y (area.width - size) area.height
  | vertical, size, area => Rect.new area.x (area.y + size) area.width (area.height - size)

end Axis

/-- A `HorizontalSplit` or a `VerticalSplit`: its left or upper element, and the other one. -/
structure Split (α β : Type) where
  first : α
  second : β
  firstSize : ℕ
  spaceBetween : ℕ
  currentArea : Rect
  /-- Whether its `focused_element` is the second one. -/
  secondFocused : Bool

namespace Split

variable {α β : Type}

def new (first : α) (second : β) (firstSize spaceBetween : ℕ) : Split α β :=
  ⟨first, second, firstSize, spaceBetween, .default, false⟩

variable (axis : Axis) (first : UIElement α) (second : UIElement β)

def secondArea (area : Rect) (split : Split α β) : Ui Rect := do
  axis.after (← addU16 split.firstSize split.spaceBetween) area

def resize (area : Rect) (split : Split α β) : Ui (Split α β) := do
  let firstState ← first.resize (axis.before split.firstSize area) split.first
  let secondState ← second.resize (← split.secondArea axis area) split.second
  pure { split with first := firstState, second := secondState, currentArea := area }

def render (area : Rect) (split : Split α β) : Ui (List Rect × Split α β) := do
  let (firstDrawn, firstState) ←
    first.renderVisible (axis.before split.firstSize area) split.first
  let (secondDrawn, secondState) ←
    second.renderVisible (← split.secondArea axis area) split.second
  pure (firstDrawn ++ secondDrawn, { split with first := firstState, second := secondState })

def handleFirst (event : UiEvent) (isFocused : Bool) (split : Split α β) :
    Ui (HandleEventStatus × Split α β) := do
  let (status, firstState) ← first.handleEvent event isFocused split.first
  pure (status, { split with first := firstState })

def handleSecond (event : UiEvent) (isFocused : Bool) (split : Split α β) :
    Ui (HandleEventStatus × Split α β) := do
  let (status, secondState) ← second.handleEvent event isFocused split.second
  pure (status, { split with second := secondState })

def offerFirst (position : ℕ × ℕ) (split : Split α β) : Ui (Bool × Split α β) := do
  let (received, firstState) ← first.receiveFocus position split.first
  pure (received, { split with
    first := firstState, secondFocused := split.secondFocused && !received })

def offerSecond (position : ℕ × ℕ) (split : Split α β) : Ui (Bool × Split α β) := do
  let (received, secondState) ← second.receiveFocus position split.second
  pure (received, { split with
    second := secondState, secondFocused := split.secondFocused || received })

def handleEvent (event : UiEvent) (isFocused : Bool) (split : Split α β) :
    Ui (HandleEventStatus × Split α β) :=
  if !isFocused then do
    let (status, split) ← split.handleFirst first event false
    if status = .unhandled then split.handleSecond second event false else pure (status, split)
  else if !split.secondFocused then do
    let (status, split) ← split.handleFirst first event true
    match status with
    | .unhandled => split.handleSecond second event false
    | .handled => pure (.handled, split)
    | .passFocus position direction =>
      if axis.forwards direction then do
        let (received, split) ← split.offerSecond second position
        if received then pure (.handled, { split with first := first.focusLost split.first })
        else pure (status, split)
      else pure (status, split)
  else do
    let (status, split) ← split.handleSecond second event true
    match status with
    | .unhandled => split.handleFirst first event false
    | .handled => pure (.handled, split)
    | .passFocus position direction =>
      if axis.backwards direction then do
        let (received, split) ← split.offerFirst first position
        if received then pure (.handled, { split with second := second.focusLost split.second })
        else pure (status, split)
      else pure (status, split)

def receiveFocus (position : ℕ × ℕ) (split : Split α β) : Ui (Bool × Split α β) := do
  let limit ← addU16 (← addU16 (axis.start split.currentArea) split.firstSize)
    (split.spaceBetween / 2)
  if axis.coord position ≤ limit then do
    let (received, split) ← split.offerFirst first position
    if received then pure (true, split) else split.offerSecond second position
  else do
    let (received, split) ← split.offerSecond second position
    if received then pure (true, split) else split.offerFirst first position

def focusLost (split : Split α β) : Split α β :=
  if split.secondFocused then { split with second := second.focusLost split.second }
  else { split with first := first.focusLost split.first }

def element : UIElement (Split α β) where
  resize := Split.resize axis first second
  render := Split.render axis first second
  handleEvent := Split.handleEvent axis first second
  receiveFocus := Split.receiveFocus axis first second
  focusLost := Split.focusLost first second

end Split

abbrev HorizontalSplit (α β : Type) : Type := Split α β

namespace HorizontalSplit

variable {α β : Type}

/-- Unlike the vertical one it notes the area when it is rendered, too. -/
def element (left : UIElement α) (right : UIElement β) : UIElement (HorizontalSplit α β) :=
  { Split.element .horizontal left right with
    render := fun area split =>
      Split.render .horizontal left right area { split with currentArea := area } }

def autosizeElement (left : AutosizeUIElement α) (right : AutosizeUIElement β) :
    AutosizeUIElement (HorizontalSplit α β) where
  toUIElement := element left.toUIElement right.toUIElement
  beginResize width height split :=
    let ((leftWidth, leftHeight), leftState) := left.beginResize width height split.first
    let availableWidth := width - leftWidth - split.spaceBetween
    let ((rightWidth, rightHeight), rightState) :=
      if availableWidth = 0 then ((0, 0), split.second)
      else right.beginResize availableWidth height split.second
    let optimalWidth := saturatingAddU16 (saturatingAddU16 leftWidth split.spaceBetween) rightWidth
    ((min width optimalWidth, max leftHeight rightHeight),
      { split with first := leftState, second := rightState, firstSize := leftWidth })

end HorizontalSplit

abbrev VerticalSplit (α β : Type) : Type := Split α β

def VerticalSplit.element {α β : Type} (upper : UIElement α) (lower : UIElement β) :
    UIElement (VerticalSplit α β) :=
  Split.element .vertical upper lower

/-! ## Focus cells -/

structure FocusCell (σ : Type) where
  inner : σ
  currentArea : Rect
  isInnerFocused : Bool

namespace FocusCell

variable {σ : Type} (inner : UIElement σ)

def new (inner : σ) : FocusCell σ := ⟨inner, .default, false⟩

/-- The keys with which the inner element is offered the focus back. -/
def takesFocus : KeyCode → Bool
  | .left | .right | .up | .down | .tab => true
  | .pageUp | .pageDown | .home | .endKey | .esc | .enter | .other => false

/-- Offers the focus back to the inner element, if the event is one of these keys. -/
def takeBack (event : UiEvent) (cell : FocusCell σ) : Ui (HandleEventStatus × FocusCell σ) :=
  match event.pressed with
  | some (.key code) =>
    if takesFocus code then do
      let x := if code = .left then cell.currentArea.right else cell.currentArea.x
      let (received, innerState) ← inner.receiveFocus (x, 0) cell.inner
      pure (if received then .handled else .unhandled,
        { cell with inner := innerState, isInnerFocused := received })
    else pure (.unhandled, cell)
  | _ => pure (.unhandled, cell)

def handleEvent (event : UiEvent) (isFocused : Bool) (cell : FocusCell σ) :
    Ui (HandleEventStatus × FocusCell σ) := do
  let (status, innerState) ←
    inner.handleEvent event (isFocused && cell.isInnerFocused) cell.inner
  let cell := { cell with inner := innerState }
  match status with
  | .passFocus _ .away =>
    pure (.handled, { cell with inner := inner.focusLost cell.inner, isInnerFocused := false })
  | .passFocus _ .forward => do
    let (_, innerState) ← inner.receiveFocus (0, 0) (inner.focusLost cell.inner)
    pure (.handled, { cell with inner := innerState })
  | .unhandled =>
    if cell.isInnerFocused then pure (.unhandled, cell) else cell.takeBack inner event
  | status => pure (status, cell)

def focusLost (cell : FocusCell σ) : FocusCell σ :=
  if cell.isInnerFocused then
    { cell with inner := inner.focusLost cell.inner, isInnerFocused := false }
  else cell

def element : UIElement (FocusCell σ) where
  resize area cell := do
    let innerState ← inner.resize area cell.inner
    pure { cell with inner := innerState, currentArea := area }
  render area cell := do
    let (drawn, innerState) ← inner.render area cell.inner
    pure (drawn, { cell with inner := innerState })
  handleEvent := handleEvent inner
  receiveFocus _ cell := .ok (true, cell)
  focusLost := focusLost inner

end FocusCell

end DustDevil
