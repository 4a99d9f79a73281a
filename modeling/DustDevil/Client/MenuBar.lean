import DustDevil.Client.PrettyPrint
import DustDevil.Client.UiElement
import DustDevil.Lib.Utf8

/-!
# The menu bar

The client's `menu_bar.rs`: its entries, where they are and which of them is focused, and what its
background tasks change. The popups that it opens are what it sends to the `UIManager`.
-/

namespace DustDevil

open Wire

/-- The popups that the menu bar and the UI open. -/
inductive PopupKind where
  | shutdown
  | socks5Sockets
  | sandstormSockets
  | users
  | authMethods
  | bufferSize (bufferSize : UInt32)
  | confirmClose
  deriving DecidableEq, Repr

namespace MenuBar

def shutdownKey : Char := 'x'

def socks5Key : Char := 's'

def sandstormKey : Char := 'd'

def usersKey : Char := 'u'

def authKey : Char := 'a'

def bufferKey : Char := 'b'

/-- `format!("{label} ({key})")`. -/
def labelOf (label : Str) (key : Char) : Str := label ++ " (".toList ++ [key] ++ ")".toList

def shutdownLabel : Str := labelOf "Shutdown".toList shutdownKey

def socks5Label : Str := labelOf "Socks5".toList socks5Key

def sandstormLabel : Str := labelOf "Sandstorm".toList sandstormKey

def usersLabel : Str := labelOf "Users".toList usersKey

def authLabel : Str := labelOf "Auth".toList authKey

def bufferSizeLoadingIndicatorSize : ℕ := 5

def pingLoadingIndicatorLength : ℕ := 4

inductive FocusedElement where
  | none
  | shutdown
  | socks5
  | sandstorm
  | users
  | auth
  | buffer
  deriving DecidableEq, Repr

namespace FocusedElement

def leftmost : FocusedElement := shutdown

def rightmost : FocusedElement := buffer

def nextLeft : FocusedElement → Option FocusedElement
  | socks5 => some shutdown
  | sandstorm => some socks5
  | users => some sandstorm
  | auth => some users
  | buffer => some auth
  | none | shutdown => .none

def nextRight : FocusedElement → Option FocusedElement
  | shutdown => some socks5
  | socks5 => some sandstorm
  | sandstorm => some users
  | users => some auth
  | auth => some buffer
  | none | buffer => .none

end FocusedElement

end MenuBar

/-- A `MenuBar` with its `MenuBarState`, but for the colors. -/
structure MenuBar where
  currentArea : Rect
  socks5AreaX : ℕ
  sandstormAreaX : ℕ
  usersAreaX : ℕ
  authAreaX : ℕ
  bufferSize : UInt32
  bufferLabel : Str
  bufferAreaX : ℕ
  bufferLoading : Bool
  bufferSizeWasModified : Bool
  extraAreaX : ℕ
  pingLabel : Str
  pingAreaX : ℕ
  pingLoading : Bool
  pingWasModified : Bool
  focusedElement : MenuBar.FocusedElement
  redrawNotified : Bool
  /-- What it has sent to the `popup_sender` since this was last looked at. -/
  sent : List PopupKind

namespace MenuBar

/-- The label while the buffer size is loaded, with so many dots. -/
def loadingLabel (dots : ℕ) : Str :=
  labelOf (List.replicate dots '.' ++ List.replicate (bufferSizeLoadingIndicatorSize - dots) ' ')
    bufferKey

def new : MenuBar where
  currentArea := .default
  socks5AreaX := 0
  sandstormAreaX := 0
  usersAreaX := 0
  authAreaX := 0
  bufferSize := 0
  bufferLabel := loadingLabel 0
  bufferAreaX := 0
  bufferLoading := true
  bufferSizeWasModified := false
  extraAreaX := 0
  pingLabel := List.replicate pingLoadingIndicatorLength ' '
  pingAreaX := 0
  pingLoading := true
  pingWasModified := false
  focusedElement := .none
  redrawNotified := false
  sent := []

def send (kind : PopupKind) (bar : MenuBar) : MenuBar := { bar with sent := bar.sent ++ [kind] }

def bufferSelected (bar : MenuBar) : MenuBar :=
  if bar.bufferLoading then bar else bar.send (.bufferSize bar.bufferSize)

/-- What is done for an entry that is selected, if one is. -/
def selected (element : FocusedElement) (bar : MenuBar) : HandleEventStatus × MenuBar :=
  match element with
  | .shutdown => (.handled, bar.send .shutdown)
  | .socks5 => (.handled, bar.send .socks5Sockets)
  | .sandstorm => (.handled, bar.send .sandstormSockets)
  | .users => (.handled, bar.send .users)
  | .auth => (.handled, bar.send .authMethods)
  | .buffer => (.handled, bar.bufferSelected)
  | .none => (.unhandled, bar)

/-! ## Areas -/

/-- `len() as u16`. -/
def lenU16 (label : Str) : ℕ := (utf8 label).length % 2 ^ 16

/-- Where what is after a label begins, within the bar's width. -/
def nextAreaX (x : ℕ) (label : Str) (width : ℕ) : Ui ℕ := do
  let next ← addU16 (← addU16 x (lenU16 label)) 3
  pure (min next width)

def doResize (newArea : Rect) (bar : MenuBar) : Ui MenuBar := do
  let socks5AreaX ← nextAreaX 0 shutdownLabel newArea.width
  let sandstormAreaX ← nextAreaX socks5AreaX socks5Label newArea.width
  let usersAreaX ← nextAreaX sandstormAreaX sandstormLabel newArea.width
  let authAreaX ← nextAreaX usersAreaX usersLabel newArea.width
  let bufferAreaX ← nextAreaX authAreaX authLabel newArea.width
  let extraAreaX ← nextAreaX bufferAreaX bar.bufferLabel newArea.width
  let pingAreaWidth := min (← subU16 newArea.width extraAreaX)
    (← addU16 (bar.pingLabel.length % 2 ^ 16) 4)
  let pingAreaX ← subU16 newArea.width pingAreaWidth
  pure { bar with
    currentArea := newArea
    bufferSizeWasModified := false
    pingWasModified := false
    socks5AreaX := socks5AreaX
    sandstormAreaX := sandstormAreaX
    usersAreaX := usersAreaX
    authAreaX := authAreaX
    bufferAreaX := bufferAreaX
    extraAreaX := extraAreaX
    pingAreaX := pingAreaX }

/-- What a render does before it draws: a label may have changed since the last resize. -/
def resizeIfModified (area : Rect) (bar : MenuBar) : Ui MenuBar :=
  if bar.bufferSizeWasModified || bar.pingWasModified then bar.doResize area else pure bar

/-- The middle of an entry. -/
def middle (x next : ℕ) : Ui ℕ := do
  let width ← subU16 next x
  pure (x + width / 2)

/-- The `x` of `get_focus_position`. -/
def focusX (bar : MenuBar) : Ui ℕ :=
  match bar.focusedElement with
  | .shutdown => pure (bar.socks5AreaX / 2)
  | .socks5 => middle bar.socks5AreaX bar.sandstormAreaX
  | .sandstorm => middle bar.sandstormAreaX bar.usersAreaX
  | .users => middle bar.usersAreaX bar.authAreaX
  | .auth => middle bar.authAreaX bar.bufferAreaX
  | .buffer => middle bar.bufferAreaX bar.extraAreaX
  | .none => pure (bar.currentArea.width / 2)

def getFocusPosition (bar : MenuBar) : Ui (ℕ × ℕ) := do
  pure (← addU16 bar.currentArea.x (← bar.focusX), bar.currentArea.y)

/-- The area of an entry, from a column to where the next one begins. -/
def entryArea (x next : ℕ) (bar : MenuBar) : Ui Rect := do
  Rect.new (← addU16 bar.currentArea.x x) bar.currentArea.y (next - x) bar.currentArea.height

/-- The areas from `shutdown_area` to `ping_area`. -/
def areas (bar : MenuBar) : Ui (List Rect) := do
  let shutdownArea ← bar.entryArea 0 bar.socks5AreaX
  let socks5Area ← bar.entryArea bar.socks5AreaX bar.sandstormAreaX
  let sandstormArea ← bar.entryArea bar.sandstormAreaX bar.usersAreaX
  let usersArea ← bar.entryArea bar.usersAreaX bar.authAreaX
  let authArea ← bar.entryArea bar.authAreaX bar.bufferAreaX
  let bufferArea ← bar.entryArea bar.bufferAreaX bar.extraAreaX
  let extraArea ← bar.entryArea bar.extraAreaX bar.pingAreaX
  let pingArea ← bar.entryArea bar.pingAreaX bar.currentArea.right
  pure [shutdownArea, socks5Area, sandstormArea, usersArea, authArea, bufferArea, extraArea,
    pingArea]

/-! ## Background tasks -/

/-- What the background tasks change. -/
inductive Update where
  | bufferLoading (dots : ℕ)
  | bufferSize (bufferSize : UInt32)
  | bufferFailed
  | pingLoading (full : ℕ)
  | ping (millis : UInt16)
  | pingFailed

def update (bar : MenuBar) : Update → MenuBar
  | .bufferLoading dots =>
    { bar with bufferLabel := loadingLabel (min dots bufferSizeLoadingIndicatorSize) }
  | .bufferSize bufferSize =>
    { bar with
      bufferLoading := false
      bufferSize := bufferSize
      bufferLabel := labelOf (prettyByteDisplayer bufferSize.toNat) bufferKey
      bufferSizeWasModified := true }
  | .bufferFailed => { bar with bufferLoading := false }
  | .pingLoading full =>
    { bar with pingLabel := (List.replicate pingLoadingIndicatorLength '▄').set full '█' }
  | .ping millis =>
    { bar with
      pingLoading := false, pingLabel := prettyMillisDisplay millis, pingWasModified := true }
  | .pingFailed => { bar with pingLoading := false }

/-! ## As an element -/

/-- The entry of a key. -/
def entryOfKey (c : Char) : FocusedElement :=
  if c = shutdownKey then .shutdown
  else if c = socks5Key then .socks5
  else if c = sandstormKey then .sandstorm
  else if c = usersKey then .users
  else if c = authKey then .auth
  else if c = bufferKey then .buffer
  else .none

/-- Moves the focus on within the bar, or passes it where no entry is next. -/
def moveFocus (next : Option FocusedElement) (first : FocusedElement)
    (direction : PassFocusDirection) (bar : MenuBar) : Ui (HandleEventStatus × MenuBar) :=
  if bar.focusedElement = .none then
    pure (.handled, { bar with focusedElement := first, redrawNotified := true })
  else
    match next with
    | some element =>
      pure (.handled, { bar with focusedElement := element, redrawNotified := true })
    | none => do pure (.passFocus (← bar.getFocusPosition) direction, bar)

def handleKey (code : KeyCode) (bar : MenuBar) : Ui (HandleEventStatus × MenuBar) :=
  match code with
  | .enter => pure (bar.selected bar.focusedElement)
  | .left => bar.moveFocus bar.focusedElement.nextLeft .rightmost .left
  | .right => bar.moveFocus bar.focusedElement.nextRight .leftmost .right
  | .tab => bar.moveFocus bar.focusedElement.nextRight .leftmost .forward
  | .down => do pure (.passFocus (← bar.getFocusPosition) .down, bar)
  | .up => do pure (.passFocus (← bar.getFocusPosition) .up, bar)
  | .esc => do pure (.passFocus (← bar.getFocusPosition) .away, bar)
  | .pageUp | .pageDown | .home | .endKey | .other => pure (.unhandled, bar)

def handleEvent (event : UiEvent) (isFocused : Bool) (bar : MenuBar) :
    Ui (HandleEventStatus × MenuBar) :=
  match event.pressed with
  | none => pure (.unhandled, bar)
  | some (.char c) => pure (bar.selected (entryOfKey c.toLower))
  | some .backspace | some .delete => pure (.unhandled, bar)
  | some (.key code) => if isFocused then bar.handleKey code else pure (.unhandled, bar)

/-- The entry that is in a column. -/
def elementAt (x : ℕ) (bar : MenuBar) : FocusedElement :=
  if x < bar.socks5AreaX then .shutdown
  else if x < bar.sandstormAreaX then .socks5
  else if x < bar.usersAreaX then .sandstorm
  else if x < bar.authAreaX then .users
  else if x < bar.bufferAreaX then .auth
  else .buffer

def element : UIElement MenuBar where
  resize := doResize
  render area bar := do
    let bar ← bar.resizeIfModified area
    pure (← bar.areas, bar)
  handleEvent := handleEvent
  receiveFocus position bar :=
    pure (true, { bar with focusedElement := bar.elementAt position.1, redrawNotified := true })
  focusLost bar := { bar with focusedElement := .none, redrawNotified := true }

end MenuBar

end DustDevil
