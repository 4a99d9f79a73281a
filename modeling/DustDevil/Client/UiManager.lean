import DustDevil.Client.MainView
import DustDevil.Client.MenuBar
import DustDevil.Client.Popups

/-!
# The UI

The client's `ui_manager.rs`: the window, which is the menu bar over the main view, and the popups
over it. The elements of `popups/` are a parameter, and any call of one may panic. Of the channels
there is what was sent to them.
-/

namespace DustDevil

open Wire

/-- The size of a `Frame`, which has no more cells than a `u16` can count. -/
structure UiFrame where
  width : ℕ
  height : ℕ
  width_lt : width < 2 ^ 16
  height_lt : height < 2 ^ 16
  cells_lt : width * height < 2 ^ 16

def UiFrame.size (frame : UiFrame) : Rect where
  x := 0
  y := 0
  width := frame.width
  height := frame.height
  right_lt := (Nat.zero_add _).symm ▸ frame.width_lt
  bottom_lt := (Nat.zero_add _).symm ▸ frame.height_lt

inductive PopupCall where
  | resize (area : Rect)
  | render (area : Rect)
  | handleEvent (event : UiEvent)
  | receiveFocus (position : ℕ × ℕ)
  | focusLost

/-- What a call leaves of an element, which has the focus when it is offered an event. -/
def PopupCall.perform {π : Type} (element : UIElement π) (s : π) : PopupCall → Ui π
  | resize area => element.resize area s
  | render area => do
    let (_, s) ← element.render area s
    pure s
  | handleEvent event => do
    let (_, s) ← element.handleEvent event true s
    pure s
  | receiveFocus position => do
    let (_, s) ← element.receiveFocus position s
    pure s
  | focusLost => pure (element.focusLost s)

/-- The popups of `popups/`, each of which is what implements `UIElement` for it. -/
structure PopupEnv (π : Type) where
  element : UIElement π
  new : PopupKind → π

/-- A popup, and what was called of it. -/
structure Popup (π : Type) where
  element : π
  calls : List PopupCall

namespace Popup

variable {π : Type} (popupEnv : PopupEnv π)

def call (call : PopupCall) (popup : Popup π) : Ui (Popup π) := do
  let element ← call.perform popupEnv.element popup.element
  pure ⟨element, popup.calls ++ [call]⟩

/-- Calls a method of the last popup, if there is one. -/
def callLast (call : PopupCall) (popups : List (Popup π)) : Ui (List (Popup π)) :=
  match popups.getLast? with
  | none => pure popups
  | some last => do
    let last ← last.call popupEnv call
    pure (popups.dropLast ++ [last])

/-- And of each of them. -/
def callAll (call : PopupCall) : List (Popup π) → Ui (List (Popup π))
  | [] => pure []
  | popup :: popups => do
    let popup ← popup.call popupEnv call
    let popups ← callAll call popups
    pure (popup :: popups)

/-- Closes one of them, and tells the last one that it has the focus if it is another one now. -/
def close (popupIndex : ℕ) (popups : List (Popup π)) : Ui (List (Popup π)) :=
  if popupIndex < popups.length then
    if popupIndex + 1 = popups.length then
      callLast popupEnv (.receiveFocus (0, 0)) (popups.eraseIdx popupIndex)
    else pure (popups.eraseIdx popupIndex)
  else .error .panic

end Popup

/-- The menu bar over the main view. -/
abbrev Window : Type := VerticalSplit MenuBar MainView

def Window.element (env : UiEnv) : UIElement Window :=
  VerticalSplit.element MenuBar.element (MainView.element env)

structure UIManager (π : Type) where
  currentArea : Rect
  root : FocusCell Window
  /-- What the `popup_receiver` has yet to receive. -/
  sent : List π
  popups : List (Popup π)
  /-- What was sent on the watch channels. -/
  watched : List WatchMessage

namespace UIManager

variable {π : Type} (env : UiEnv) (popupEnv : PopupEnv π)

def new (history : UsageTracker) (metrics : Metrics) : UIManager π where
  currentArea := .default
  root := .new (.new .new (.new env history metrics) 2 0)
  sent := []
  popups := []
  watched := []

def pushPopup (element : π) (manager : UIManager π) : Ui (UIManager π) := do
  let popups ← Popup.callLast popupEnv .focusLost manager.popups
  let popup ← Popup.call popupEnv (.receiveFocus (0, 0)) ⟨element, []⟩
  let popup ← popup.call popupEnv (.resize manager.currentArea)
  pure { manager with
    root := if manager.popups.isEmpty then manager.root.focusLost (Window.element env)
      else manager.root
    popups := popups ++ [popup] }

/-- The arm of `background_process` for a popup that is received. -/
def popupReceived (manager : UIManager π) : Ui (UIManager π) :=
  match manager.sent with
  | [] => pure manager
  | element :: sent => { manager with sent := sent }.pushPopup env popupEnv element

/-- And the one for a popup that is closed. -/
def popupClosed (popupIndex : ℕ) (manager : UIManager π) : Ui (UIManager π) := do
  let popups ← Popup.close popupEnv popupIndex manager.popups
  pure { manager with popups := popups }

/-- What the menu bar has sent is in the channel. -/
def collect (manager : UIManager π) : UIManager π :=
  let split := manager.root.inner
  { manager with
    root := { manager.root with inner := { split with first := { split.first with sent := [] } } }
    sent := manager.sent ++ split.first.sent.map popupEnv.new }

def handleTerminalEvent (event : UiEvent) (manager : UIManager π) : Ui (UIManager π) :=
  if manager.popups.isEmpty then do
    let (status, root) ← manager.root.handleEvent (Window.element env) event true
    let manager := { manager with root := root }.collect popupEnv
    if status = .unhandled ∧ event.pressed = some (.key .esc) then
      manager.pushPopup env popupEnv (popupEnv.new .confirmClose)
    else pure manager
  else do
    let popups ← Popup.callLast popupEnv (.handleEvent event) manager.popups
    pure { manager with popups := popups }

/-- Changes the main view. -/
def withMainView (change : MainView → Ui MainView) (manager : UIManager π) : Ui (UIManager π) := do
  let split := manager.root.inner
  let view ← change split.second
  pure { manager with root := { manager.root with inner := { split with second := view } } }

/-- `users_watch` has so many receivers. -/
def handleStreamEvent (usersReceivers : ℕ) (event : Event) (manager : UIManager π) :
    Ui (UIManager π) :=
  { manager with
    watched := manager.watched
      ++ (DustDevil.handleStreamEvent usersReceivers event.data).toList }.withMainView
    (MainView.newStreamEvent env event)

/-- Resizes everything when the size is another one than before. -/
def resizeIfNeeded (frame : UiFrame) (manager : UIManager π) : Ui (UIManager π) :=
  if frame.size ≠ manager.currentArea then do
    let root ← (FocusCell.element (Window.element env)).resize frame.size manager.root
    let popups ← Popup.callAll popupEnv (.resize frame.size) manager.popups
    pure { manager with currentArea := frame.size, root := root, popups := popups }
  else pure manager

/-- The areas of the window that are drawn in, which the popups are drawn over, and the UI after
it. -/
def draw (frame : UiFrame) (manager : UIManager π) : Ui (List Rect × UIManager π) := do
  let manager ← manager.resizeIfNeeded env popupEnv frame
  let (drawn, root) ←
    (FocusCell.element (Window.element env)).render manager.currentArea manager.root
  let popups ← Popup.callAll popupEnv (.render manager.currentArea) manager.popups
  pure (drawn, { manager with root := root, popups := popups })

/-! ## Runs -/

inductive Action (π : Type) where
  | draw (frame : UiFrame)
  | terminalEvent (event : UiEvent)
  | streamEvent (usersReceivers : ℕ) (event : Event)
  | popupReceived
  | popupClosed (popupIndex : ℕ)
  /-- A popup opens another one. -/
  | popupSent (element : π)
  /-- A background task of a popup changes it. -/
  | popupUpdate (popupIndex : ℕ) (update : π → π)
  /-- A background task of the menu bar changes it. -/
  | menuBarUpdate (update : MenuBar.Update)
  /-- The graph's background task looks at the time. -/
  | graphTick (timestampNow : ℤ)

def perform (manager : UIManager π) : Action π → Ui (UIManager π)
  | .draw frame => do
    let (_, manager) ← manager.draw env popupEnv frame
    pure manager
  | .terminalEvent event => manager.handleTerminalEvent env popupEnv event
  | .streamEvent usersReceivers event => manager.handleStreamEvent env usersReceivers event
  | .popupReceived => manager.popupReceived env popupEnv
  | .popupClosed popupIndex => manager.popupClosed popupEnv popupIndex
  | .popupSent element => pure { manager with sent := manager.sent ++ [element] }
  | .popupUpdate popupIndex update =>
    pure { manager with
      popups := manager.popups.modify popupIndex fun popup =>
        { popup with element := update popup.element } }
  | .menuBarUpdate update =>
    let split := manager.root.inner
    pure { manager with
      root := { manager.root with inner := { split with first := split.first.update update } } }
  | .graphTick timestampNow => manager.withMainView fun view => do
    let usageGraph ← view.usageGraph.tick env.growth timestampNow
    pure { view with usageGraph := usageGraph }

/-- The UI after an action that does not panic. -/
def step (manager : UIManager π) (action : Action π) : Option (UIManager π) :=
  (manager.perform env popupEnv action).toOption

end UIManager

end DustDevil
