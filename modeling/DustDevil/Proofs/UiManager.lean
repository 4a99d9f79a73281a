import DustDevil.Client.UiManager
import DustDevil.Proofs.MainLayout
import DustDevil.Proofs.MenuBar

/-!
# The focus and the frames of the UI

In whatever order the terminal's events, the streamed ones, the popups and the frames come, the
focus is shown in one place at most, and while there are popups only on the last of them
(`focus_once`). A frame can be drawn exactly if there is room for the log and the graph in it and
the popups can be drawn, and what is drawn of the window does not overlap (`draw_iff`).
-/

namespace DustDevil

open Wire

/-! ## Popups -/

namespace Popup

variable {π : Type} {popupEnv : PopupEnv π} {popup popup' : Popup π}
  {popups popups' : List (Popup π)} {call : PopupCall}

/-- Whether it has the focus, after a call. -/
def focusAfter (isFocused : Bool) : PopupCall → Bool
  | .receiveFocus _ => true
  | .focusLost => false
  | .resize _ | .render _ | .handleEvent _ => isFocused

def areaAfter (area : Rect) : PopupCall → Rect
  | .resize area' => area'
  | .receiveFocus _ | .focusLost | .render _ | .handleEvent _ => area

/-- Whether a popup was last told that it has the focus. -/
def isFocused (popup : Popup π) : Bool := popup.calls.foldl focusAfter false

/-- And the area that it was told to have. -/
def area (popup : Popup π) : Rect := popup.calls.foldl areaAfter .default

/-- What a call that does not panic changes of it. -/
theorem call_eq_ok (h : popup.call popupEnv call = .ok popup') :
    popup'.isFocused = focusAfter popup.isFocused call
      ∧ popup'.area = areaAfter popup.area call := by
  obtain ⟨element, -, h⟩ := bind_eq_ok h
  obtain rfl := Except.ok.inj h
  exact ⟨List.foldl_concat focusAfter false call popup.calls,
    List.foldl_concat areaAfter Rect.default call popup.calls⟩

theorem callLast_snoc_eq_ok (h : callLast popupEnv call (popups ++ [popup]) = .ok popups') :
    ∃ popup', popup.call popupEnv call = .ok popup' ∧ popups' = popups ++ [popup'] := by
  simp only [callLast, List.getLast?_concat, List.dropLast_concat] at h
  obtain ⟨popup', hpopup', h⟩ := bind_eq_ok h
  exact ⟨popup', hpopup', (Except.ok.inj h).symm⟩

/-- All of them are called. -/
theorem callAll_eq_ok (h : callAll popupEnv call popups = .ok popups') :
    popups'.map isFocused = popups.map (fun popup => focusAfter popup.isFocused call)
      ∧ popups'.map area = popups.map fun popup => areaAfter popup.area call := by
  induction popups generalizing popups' with
  | nil =>
    obtain rfl := Except.ok.inj h
    exact ⟨rfl, rfl⟩
  | cons popup popups ih =>
    obtain ⟨popup', hpopup', h⟩ := bind_eq_ok h
    obtain ⟨popups', hpopups', h⟩ := bind_eq_ok h
    obtain rfl := Except.ok.inj h
    obtain ⟨hfocused, harea⟩ := call_eq_ok hpopup'
    simp only [List.map_cons, hfocused, harea, (ih hpopups').1, (ih hpopups').2, and_self]

/-- Only one that is there is closed. -/
theorem ne_nil_of_close {popupIndex : ℕ} (h : close popupEnv popupIndex popups = .ok popups') :
    popups ≠ [] := by
  rintro rfl
  have hclosed : close popupEnv popupIndex [] = .error .panic := rfl
  rw [hclosed] at h
  cases h

/-- The last popup has the focus, and no other one. -/
def OnlyLast (popups : List (Popup π)) : Prop :=
  (∀ popup ∈ popups.dropLast, popup.isFocused = false)
    ∧ ∀ popup ∈ popups.getLast?, popup.isFocused = true

theorem onlyLast_nil : OnlyLast ([] : List (Popup π)) := ⟨by simp, by simp⟩

theorem onlyLast_snoc :
    OnlyLast (popups ++ [popup])
      ↔ (∀ popup ∈ popups, popup.isFocused = false) ∧ popup.isFocused = true := by
  simp [OnlyLast]

theorem OnlyLast.congr (h : OnlyLast popups)
    (hmap : popups'.map isFocused = popups.map isFocused) : OnlyLast popups' := by
  have hiff (popups : List (Popup π)) : OnlyLast popups
      ↔ (∀ b ∈ (popups.map isFocused).dropLast, b = false)
        ∧ ∀ b ∈ (popups.map isFocused).getLast?, b = true := by
    refine and_congr ?_ ?_
    · rw [← List.map_dropLast, List.forall_mem_map]
    · simp
  rw [hiff] at h ⊢
  rwa [hmap]

/-- What the popups were told, if the UI has this area. -/
structure Told (area : Rect) (popups : List (Popup π)) : Prop where
  onlyLast : OnlyLast popups
  area : ∀ popup ∈ popups, popup.area = area

namespace Told

variable {area : Rect}

theorem nil : Told area ([] : List (Popup π)) :=
  ⟨onlyLast_nil, fun _ hmem => absurd hmem List.not_mem_nil⟩

theorem snoc : Told area (popups ++ [popup])
    ↔ (∀ popup ∈ popups, popup.isFocused = false ∧ popup.area = area)
      ∧ popup.isFocused = true ∧ popup.area = area := by
  constructor
  · rintro ⟨hlast, harea⟩
    rw [onlyLast_snoc] at hlast
    exact ⟨fun popup hmem => ⟨hlast.1 popup hmem, harea popup (List.mem_append_left _ hmem)⟩,
      hlast.2, harea popup (List.mem_append_right _ List.mem_cons_self)⟩
  · rintro ⟨hpopups, hfocused, harea⟩
    refine ⟨onlyLast_snoc.2 ⟨fun popup hmem => (hpopups popup hmem).1, hfocused⟩, ?_⟩
    simp only [List.mem_append, List.mem_singleton]
    rintro popup (hmem | rfl)
    · exact (hpopups popup hmem).2
    · exact harea

/-- It is about nothing but the focus and the area that each of them was told to have. -/
theorem congr (h : Told area popups) (hfocused : popups'.map isFocused = popups.map isFocused)
    (after : Rect → Rect)
    (harea : popups'.map Popup.area = popups.map fun popup => after popup.area) :
    Told (after area) popups' := by
  refine ⟨h.onlyLast.congr hfocused, fun popup' hpopup' => ?_⟩
  have hmem : popup'.area ∈ popups'.map Popup.area := List.mem_map_of_mem hpopup'
  rw [harea] at hmem
  obtain ⟨popup, hpopup, hafter⟩ := List.mem_map.1 hmem
  rw [← hafter, h.area popup hpopup]

/-- What is not of the focus is told to all of them. -/
theorem callAll (h : Told area popups) (hcall : ∀ b, focusAfter b call = b)
    (hall : callAll popupEnv call popups = .ok popups') : Told (areaAfter area call) popups' := by
  obtain ⟨hfocused, harea⟩ := callAll_eq_ok hall
  refine h.congr ?_ (fun area => areaAfter area call) harea
  rw [hfocused]
  exact List.map_congr_left fun popup _ => hcall popup.isFocused

/-- And to the last one. -/
theorem callLast (h : Told area popups) (hcall : ∀ b, focusAfter b call = b)
    (harea : areaAfter area call = area)
    (hlast : callLast popupEnv call popups = .ok popups') : Told area popups' := by
  rcases popups.eq_nil_or_concat' with rfl | ⟨popups, popup, rfl⟩
  · obtain rfl := Except.ok.inj hlast
    exact h
  · obtain ⟨popup', hpopup', rfl⟩ := callLast_snoc_eq_ok hlast
    rw [snoc] at h ⊢
    obtain ⟨hfocused', harea'⟩ := call_eq_ok hpopup'
    rw [hfocused', harea', hcall, h.2.2, harea]
    exact ⟨h.1, h.2.1, rfl⟩

/-- A popup is pushed over the others. -/
theorem push (h : Told area popups)
    (hlost : Popup.callLast popupEnv .focusLost popups = .ok popups')
    (hfocused : popup.isFocused = true) (harea : popup.area = area) :
    Told area (popups' ++ [popup]) := by
  refine snoc.2 ⟨?_, hfocused, harea⟩
  rcases popups.eq_nil_or_concat' with rfl | ⟨popups, last, rfl⟩
  · obtain rfl := Except.ok.inj hlost
    exact fun popup hmem => absurd hmem List.not_mem_nil
  · rw [snoc] at h
    obtain ⟨last', hlast', rfl⟩ := callLast_snoc_eq_ok hlost
    obtain ⟨hfocused', harea'⟩ := call_eq_ok hlast'
    simp only [List.mem_append, List.mem_singleton]
    rintro popup (hmem | rfl)
    · exact h.1 popup hmem
    · exact ⟨hfocused', harea'.trans h.2.2⟩

/-- And one of them is closed. -/
theorem close (h : Told area popups) {popupIndex : ℕ}
    (hclosed : Popup.close popupEnv popupIndex popups = .ok popups') : Told area popups' := by
  rcases popups.eq_nil_or_concat' with rfl | ⟨popups, last, rfl⟩
  · exact absurd rfl (ne_nil_of_close hclosed)
  rw [snoc] at h
  rw [Popup.close, List.length_append, List.length_singleton] at hclosed
  split_ifs at hclosed with hlt hlast
  · obtain rfl := Nat.succ.inj hlast
    rw [List.eraseIdx_append_of_length_le le_rfl, Nat.sub_self, List.eraseIdx_cons_zero,
      List.append_nil] at hclosed
    rcases popups.eq_nil_or_concat' with rfl | ⟨popups, popup, rfl⟩
    · obtain rfl := Except.ok.inj hclosed
      exact nil
    · obtain ⟨popup', hpopup', rfl⟩ := callLast_snoc_eq_ok hclosed
      obtain ⟨hfocused', harea'⟩ := call_eq_ok hpopup'
      have hpopup := h.1 popup (List.mem_append_right _ List.mem_cons_self)
      exact snoc.2 ⟨fun popup hmem => h.1 popup (List.mem_append_left _ hmem), hfocused',
        harea'.trans hpopup.2⟩
  · obtain rfl := Except.ok.inj hclosed
    rw [List.eraseIdx_append_of_lt_length (by omega), snoc]
    exact ⟨fun popup hmem => h.1 popup (List.mem_of_mem_eraseIdx hmem), h.2⟩

/-- What a popup's own tasks change is nothing that it was told. -/
theorem update (h : Told area popups) (popupIndex : ℕ) (update : π → π) :
    Told area (popups.modify popupIndex fun popup =>
      { popup with element := update popup.element }) := by
  have hmap {α : Type} {f : Popup π → α}
      (hf : ∀ popup element, f { popup with element } = f popup) :
      (popups.modify popupIndex fun popup => { popup with element := update popup.element }).map f
        = popups.map f := by
    refine List.ext_getElem? fun i => ?_
    rw [List.getElem?_map, List.getElem?_map, List.getElem?_modify]
    split_ifs <;> simp [Function.comp_def, hf]
  exact h.congr (hmap fun _ _ => rfl) id (hmap fun _ _ => rfl)

end Told

end Popup

namespace UIManager

open Popup (OnlyLast)

/-! ## The window -/

variable {π : Type} {env : UiEnv} {popupEnv : PopupEnv π} {manager manager' : UIManager π}
  {frame : UiFrame} {shown : List Event}

/-- The menu bar has two rows, and the main view is right below it. -/
def windowLaw (env : UiEnv) : (Window.element env).Law (Unit × (LogListHandler × Metrics)) :=
  Split.law .vertical MenuBar.law (MainView.law env) fun size space => size = 2 ∧ space = 0

theorem body_right_lt (frame : UiFrame) : 0 + frame.width < 2 ^ 16 :=
  frame.size.right_lt

theorem body_bottom_lt (frame : UiFrame) : 2 + (frame.height - 2) < 2 ^ 16 := by
  have hheight := frame.height_lt
  omega

/-- The area of the main view. -/
def body (frame : UiFrame) : Rect where
  x := 0
  y := 2
  width := frame.width
  height := frame.height - 2
  right_lt := body_right_lt frame
  bottom_lt := body_bottom_lt frame

theorem after_size (frame : UiFrame) : Axis.after .vertical (2 + 0) frame.size = .ok (body frame) :=
  Rect.new_eq rfl rfl rfl rfl

/-- A frame that is higher than the menu bar is not too wide for the main view. -/
theorem fits_body (frame : UiFrame) : MainView.Fits (body frame) where
  x_eq := rfl
  y_eq := rfl
  width_le hne := by
    have hcells := frame.cells_lt
    have hnonempty : ¬ (frame.width = 0 ∨ frame.height - 2 = 0) := fun hempty =>
      hne (Rect.isEmpty_iff.2 hempty)
    have hheight : 3 ≤ frame.height := by omega
    have hle := Nat.mul_le_mul_left frame.width hheight
    have hmax : MainView.maxWidth = 21845 := rfl
    simp only [body]
    omega

theorem fits_size (frame : UiFrame) : (windowLaw env).Fits frame.size where
  room := by
    rintro size space ⟨rfl, rfl⟩
    exact (by decide : 0 + 2 + 0 < 2 ^ 16)
  first := by
    rintro size space ⟨rfl, rfl⟩
    rfl
  second := by
    rintro size space area' ⟨rfl, rfl⟩ harea'
    obtain rfl := Except.ok.inj ((after_size frame).symm.trans harea')
    exact fits_body frame

/-- What holds whatever the UI has been told, if these events are shown. -/
structure Valid (env : UiEnv) (shown : List Event) (manager : UIManager π) : Prop where
  focus : (windowLaw env).Focus manager.root.isInnerFocused manager.root.inner
  placed : (windowLaw env).Placed manager.currentArea manager.root.inner
  covered : manager.popups ≠ [] → manager.root.isInnerFocused = false
  told : Popup.Told manager.currentArea manager.popups
  handler : manager.root.inner.second.logBlock.handler
    = ⟨shown.rtake maximumEventHistoryLength, env.localDateTime⟩

theorem valid_new (history : UsageTracker) (metrics : Metrics) :
    Valid env [] (new env history metrics : UIManager π) where
  focus := {
    sizes := ⟨rfl, rfl⟩
    room := by
      rintro size space ⟨rfl, rfl⟩
      exact (by decide : 0 + 2 + 0 < 2 ^ 16)
    first := MenuBar.focus_new
    second := MainView.focus_new history metrics }
  placed := {
    currentArea := rfl
    first := fun hne => absurd rfl hne
    second := fun area' harea' hne => by
      obtain ⟨size, -, harea'⟩ := bind_eq_ok harea'
      obtain ⟨-, -, hwidth, -⟩ := Rect.eq_of_new harea'
      have hzero : area'.width = 0 := hwidth
      exact absurd (Rect.isEmpty_iff.2 (.inl hzero)) hne }
  covered hne := absurd rfl hne
  told := .nil
  handler := rfl

/-! ## Steps -/

/-- What changes the window, and leaves where it is and what it shows. -/
theorem Valid.withRoot (h : Valid env shown manager) {root : FocusCell Window}
    (hfocus : (windowLaw env).Focus root.isInnerFocused root.inner)
    (hkeeps : FocusCell.Keeps (windowLaw env) manager.root root)
    (hcovered : manager.popups ≠ [] → root.isInnerFocused = false) :
    Valid env shown { manager with root := root } where
  focus := hfocus
  placed := hkeeps.placed _ h.placed
  covered := hcovered
  told := h.told
  handler := (congrArg (fun data => data.2.1) hkeeps.data).trans h.handler

theorem Valid.withMenuBar (h : Valid env shown manager) {bar : MenuBar}
    (hbar : ∀ b, MenuBar.Focus b manager.root.inner.first → MenuBar.Focus b bar)
    (harea : bar.currentArea = manager.root.inner.first.currentArea) :
    Valid env shown { manager with root := { manager.root with
      inner := { manager.root.inner with first := bar } } } where
  focus := ⟨h.focus.sizes, h.focus.room, hbar _ h.focus.first, h.focus.second⟩
  placed := ⟨h.placed.currentArea, fun hne => harea.trans (h.placed.first hne), h.placed.second⟩
  covered := h.covered
  told := h.told
  handler := h.handler

theorem Valid.withView (h : Valid env shown manager) {view : MainView} {shown' : List Event}
    (hfocus : ∀ b, MainView.Focus env b manager.root.inner.second → MainView.Focus env b view)
    (hplaced : ∀ area, MainView.Placed env area manager.root.inner.second →
      MainView.Placed env area view)
    (hhandler : view.logBlock.handler
      = ⟨shown'.rtake maximumEventHistoryLength, env.localDateTime⟩) :
    Valid env shown' { manager with root := { manager.root with
      inner := { manager.root.inner with second := view } } } where
  focus := ⟨h.focus.sizes, h.focus.room, h.focus.first, hfocus _ h.focus.second⟩
  placed := ⟨h.placed.currentArea, h.placed.first,
    fun area' harea' hne => hplaced _ (h.placed.second area' harea' hne)⟩
  covered := h.covered
  told := h.told
  handler := hhandler

/-- Nothing of it is about what is in the channels. -/
theorem Valid.withSent (h : Valid env shown manager) (sent : List π)
    (watched : List WatchMessage) :
    Valid env shown { manager with sent := sent, watched := watched } :=
  ⟨h.focus, h.placed, h.covered, h.told, h.handler⟩

theorem Valid.withPopups (h : Valid env shown manager) {popups : List (Popup π)}
    (hne : manager.popups ≠ []) (htold : Popup.Told manager.currentArea popups) :
    Valid env shown { manager with popups := popups } :=
  ⟨h.focus, h.placed, fun _ => h.covered hne, htold, h.handler⟩

theorem Valid.pushPopup (h : Valid env shown manager) {element : π}
    (hpush : manager.pushPopup env popupEnv element = .ok manager') :
    Valid env shown manager' := by
  obtain ⟨popups, hlost, hpush⟩ := bind_eq_ok hpush
  obtain ⟨popup, hfocused, hpush⟩ := bind_eq_ok hpush
  obtain ⟨popup', hresized, hpush⟩ := bind_eq_ok hpush
  obtain rfl := Except.ok.inj hpush
  have htold : Popup.Told manager.currentArea (popups ++ [popup']) := by
    refine h.told.push hlost ?_ (Popup.call_eq_ok hresized).2
    rw [(Popup.call_eq_ok hresized).1, (Popup.call_eq_ok hfocused).1]
    rfl
  split_ifs with hempty
  · obtain ⟨hlost, hfocus, hkeeps⟩ := FocusCell.focusLost_ok h.focus
    have hroot := h.withRoot (hlost ▸ hfocus) hkeeps fun _ => hlost
    exact ⟨hroot.focus, hroot.placed, fun _ => hlost, htold, hroot.handler⟩
  · exact h.withPopups (by simpa using hempty) htold

theorem Valid.collect (h : Valid env shown manager) (popupEnv : PopupEnv π) :
    Valid env shown (manager.collect popupEnv) := by
  have hbar : ∀ b, MenuBar.Focus b manager.root.inner.first →
      MenuBar.Focus b { manager.root.inner.first with sent := [] } := fun _ hfocus =>
    ⟨hfocus.focused, hfocus.ordered, hfocus.x_eq, hfocus.bufferLabel, hfocus.pingLabel⟩
  exact (h.withMenuBar hbar rfl).withSent _ _

/-- No event of the terminal makes the window panic. -/
theorem Valid.root_handleEvent (h : Valid env shown manager) (event : UiEvent) :
    ∃ status root, manager.root.handleEvent (Window.element env) event true = .ok (status, root)
      ∧ (windowLaw env).Focus root.isInnerFocused root.inner
      ∧ FocusCell.Keeps (windowLaw env) manager.root root :=
  FocusCell.handleEvent_ok (Or.inl trivial) h.focus event

theorem Valid.handleTerminalEvent (h : Valid env shown manager) {event : UiEvent}
    (hevent : manager.handleTerminalEvent env popupEnv event = .ok manager') :
    Valid env shown manager' := by
  unfold UIManager.handleTerminalEvent at hevent
  split_ifs at hevent with hempty
  · obtain ⟨status, root, hroot, hfocus, hkeeps⟩ := h.root_handleEvent event
    have hvalid := (h.withRoot hfocus hkeeps
      fun hne => absurd (List.isEmpty_iff.1 hempty) hne).collect popupEnv
    rw [Ui.bind_ok hroot] at hevent
    dsimp only at hevent
    split_ifs at hevent
    · exact hvalid.pushPopup hevent
    · obtain rfl := Except.ok.inj hevent
      exact hvalid
  · obtain ⟨popups, hpopups, hevent⟩ := bind_eq_ok hevent
    obtain rfl := Except.ok.inj hevent
    exact h.withPopups (by simpa using hempty) (h.told.callLast (fun _ => rfl) rfl hpopups)

/-- While there are no popups only the one that `Esc` opens can panic. -/
theorem Valid.handleTerminalEvent_ok (h : Valid env shown manager) (popupEnv : PopupEnv π)
    (hnil : manager.popups = []) {event : UiEvent} (hevent : event.pressed ≠ some (.key .esc)) :
    ∃ manager', manager.handleTerminalEvent env popupEnv event = .ok manager' := by
  obtain ⟨status, root, hroot, -⟩ := h.root_handleEvent event
  rw [UIManager.handleTerminalEvent, if_pos (List.isEmpty_iff.2 hnil), Ui.bind_ok hroot]
  exact ⟨_, if_neg fun hesc => hevent hesc.2⟩

theorem Valid.popupClosed (h : Valid env shown manager) {popupIndex : ℕ}
    (hclosed : manager.popupClosed popupEnv popupIndex = .ok manager') :
    Valid env shown manager' := by
  obtain ⟨popups, hpopups, hclosed⟩ := bind_eq_ok hclosed
  obtain rfl := Except.ok.inj hclosed
  exact h.withPopups (Popup.ne_nil_of_close hpopups) (h.told.close hpopups)

/-! ## Frames -/

abbrev view (manager : UIManager π) : MainView := manager.root.inner.second

theorem secondArea_eq {b : Bool} {split : Window} (h : (windowLaw env).Focus b split)
    (frame : UiFrame) : split.secondArea .vertical frame.size = .ok (body frame) := by
  obtain ⟨hsize, hspace⟩ := h.sizes
  rw [h.secondArea_eq, hsize, hspace]
  exact after_size frame

/-- What is to be drawn is the same where a view has been laid out. -/
theorem draws_iff_of_resized {view view' : MainView} {area : Rect}
    (h : MainView.Resized env view view')
    (hlaid : MainView.Laid area (MainView.modeFor area view.expanded) view'.areas) :
    MainView.Draws env area view' ↔ MainView.Draws env area view := by
  have hlog (r : Rect) : LogBlock.Draws r view'.logBlock ↔ LogBlock.Draws r view.logBlock :=
    MainView.LogBlock.draws_congr h.handler r
  have hgraph {r : Rect}
      (hr : MainView.usageGraphArea area (MainView.modeFor area view.expanded) = .ok r)
      (hne : ¬ r.isEmpty) : UsageGraph.Draws env r view'.usageGraph
        ↔ UsageGraph.Draws env r view.usageGraph := by
    obtain rfl := Except.ok.inj (hlaid.usageGraph.symm.trans hr)
    exact (h.usageGraph hne).symm
  constructor
  · rintro ⟨hlog', hgraph'⟩
    rw [h.expanded] at hlog' hgraph'
    exact ⟨fun r hr hne => (hlog r).1 (hlog' r hr hne),
      fun r hr hne => (hgraph hr hne).1 (hgraph' r hr hne)⟩
  · rintro ⟨hlog', hgraph'⟩
    refine ⟨fun r hr hne => ?_, fun r hr hne => ?_⟩ <;> rw [h.expanded] at hr
    · exact (hlog r).2 (hlog' r hr hne)
    · exact (hgraph hr hne).2 (hgraph' r hr hne)

/-- The window once a frame's size has been looked at. -/
structure Resized (env : UiEnv) (frame : UiFrame) (root root' : FocusCell Window) : Prop where
  isInnerFocused : root'.isInnerFocused = root.isInnerFocused
  focus : (windowLaw env).Focus root'.isInnerFocused root'.inner
  placed : (windowLaw env).Placed frame.size root'.inner
  data : (windowLaw env).data root'.inner = (windowLaw env).data root.inner
  draws : MainView.Draws env (body frame) root'.inner.second
    ↔ MainView.Draws env (body frame) root.inner.second

/-- The window is resized to any frame. -/
theorem Valid.resize_root (h : Valid env shown manager) (frame : UiFrame) :
    ∃ root, (FocusCell.element (Window.element env)).resize frame.size manager.root = .ok root
      ∧ Resized env frame manager.root root := by
  obtain ⟨split, hresize, hfocus, hplaced, hdata⟩ := (windowLaw env).resize h.focus
    (fits_size frame)
  have hroot : (FocusCell.element (Window.element env)).resize frame.size manager.root
      = .ok { manager.root with inner := split, currentArea := frame.size } :=
    Ui.bind_ok hresize _
  obtain ⟨bar, -, hresize⟩ := bind_eq_ok hresize
  obtain ⟨area', harea', hresize⟩ := bind_eq_ok hresize
  obtain ⟨view', hview', hresize⟩ := bind_eq_ok hresize
  obtain rfl := Except.ok.inj hresize
  obtain rfl := Except.ok.inj ((secondArea_eq h.focus frame).symm.trans harea')
  obtain ⟨view'', hview'', -, hplaced', hmode, hresized⟩ := MainView.performResize_ok
    h.focus.second.parts h.focus.second.isFocused (fits_body frame) manager.view.expanded
  obtain rfl := Except.ok.inj (hview''.symm.trans hview')
  exact ⟨_, hroot, rfl, hfocus, hplaced, hdata,
    draws_iff_of_resized hresized (hmode ▸ hplaced'.laid)⟩

/-- And the popups are when it has another size than the one before. -/
def resizedPopups (popupEnv : PopupEnv π) (frame : UiFrame) (manager : UIManager π) :
    Ui (List (Popup π)) :=
  if frame.size ≠ manager.currentArea then
    Popup.callAll popupEnv (.resize frame.size) manager.popups
  else pure manager.popups

theorem Valid.resizeIfNeeded_eq (h : Valid env shown manager) (popupEnv : PopupEnv π)
    (frame : UiFrame) :
    ∃ root, Resized env frame manager.root root
      ∧ manager.resizeIfNeeded env popupEnv frame = (do
        let popups ← manager.resizedPopups popupEnv frame
        pure { manager with currentArea := frame.size, root := root, popups := popups }) := by
  unfold UIManager.resizeIfNeeded resizedPopups
  split_ifs with hchanged
  · obtain ⟨root, hroot, hresized⟩ := h.resize_root frame
    exact ⟨root, hresized, Ui.bind_ok hroot _⟩
  · have harea := not_not.1 hchanged
    refine ⟨manager.root, ⟨rfl, h.focus, harea ▸ h.placed, rfl, Iff.rfl⟩, ?_⟩
    rw [harea]
    rfl

theorem Valid.resizedPopups (h : Valid env shown manager) {popups : List (Popup π)}
    (hpopups : manager.resizedPopups popupEnv frame = .ok popups) :
    Popup.Told frame.size popups ∧ (popups ≠ [] → manager.popups ≠ []) := by
  unfold UIManager.resizedPopups at hpopups
  split_ifs at hpopups with hchanged
  · refine ⟨h.told.callAll (fun _ => rfl) hpopups, fun hne hnil => hne ?_⟩
    rw [hnil] at hpopups
    exact (Except.ok.inj hpopups).symm
  · obtain rfl := Except.ok.inj hpopups
    exact ⟨not_not.1 hchanged ▸ h.told, id⟩

theorem draws_of_isEmpty {view : MainView} {area : Rect} (h : area.isEmpty) :
    MainView.Draws env area view := by
  have hempty := Rect.isEmpty_iff.1 h
  have hlabels : verticalLabelsAreaWidth = 9 := rfl
  have hsmall : area.height = 0 ∨ area.width < verticalLabelsAreaWidth + 4 := by omega
  have hareas : MainView.logBlockArea area (MainView.modeFor area view.expanded) = .ok .default
      ∧ MainView.usageGraphArea area (MainView.modeFor area view.expanded) = .ok .default := by
    cases view.expanded with
    | true => exact ⟨rfl, if_pos hsmall⟩
    | false =>
      have hmode : MainView.modeFor area false = .full := by simp [MainView.modeFor, h]
      rw [hmode]
      exact ⟨if_pos h, if_pos h⟩
  constructor <;> intro r hr hne
  · obtain rfl := Except.ok.inj (hareas.1.symm.trans hr)
    exact absurd rfl hne
  · obtain rfl := Except.ok.inj (hareas.2.symm.trans hr)
    exact absurd rfl hne

/-- What becomes of the popups when a frame is drawn. -/
def drawnPopups (popupEnv : PopupEnv π) (frame : UiFrame) (manager : UIManager π) :
    Ui (List (Popup π)) := do
  let popups ← manager.resizedPopups popupEnv frame
  Popup.callAll popupEnv (.render frame.size) popups

theorem drawnPopups_nil (hnil : manager.popups = []) :
    manager.drawnPopups popupEnv frame = .ok [] := by
  unfold drawnPopups resizedPopups
  rw [hnil]
  split_ifs <;> rfl

/-- The window can be rendered exactly if the main view can, below the menu bar. -/
theorem render_root_iff {root root' : FocusCell Window} (h : Resized env frame root root') :
    (∃ r, (FocusCell.element (Window.element env)).render frame.size root' = .ok r)
      ↔ MainView.Draws env (body frame) root.inner.second := by
  have hwindow : (windowLaw env).Draws frame.size root'.inner
      ↔ MainView.Draws env (body frame) root'.inner.second := by
    have hsecond := secondArea_eq h.focus frame
    constructor
    · intro hdraw
      by_cases hempty : (body frame).isEmpty = true
      · exact draws_of_isEmpty hempty
      · exact hdraw.second _ hsecond hempty
    · refine fun hdraw => ⟨fun _ => trivial, fun area' harea' _ => ?_⟩
      obtain rfl := Except.ok.inj (hsecond.symm.trans harea')
      exact hdraw
  rw [← h.draws, ← hwindow, ← (windowLaw env).render_iff h.focus h.placed]
  constructor
  · rintro ⟨r, hr⟩
    obtain ⟨r', hr', -⟩ := bind_eq_ok hr
    exact ⟨r', hr'⟩
  · rintro ⟨r, hr⟩
    exact ⟨_, Ui.bind_ok hr _⟩

/-- A frame can be drawn exactly if the main view can, below the menu bar, and the popups. -/
theorem Valid.draw_iff (h : Valid env shown manager) (popupEnv : PopupEnv π) (frame : UiFrame) :
    (∃ r, manager.draw env popupEnv frame = .ok r)
      ↔ MainView.Draws env (body frame) manager.view
        ∧ ∃ popups, manager.drawnPopups popupEnv frame = .ok popups := by
  obtain ⟨root, hresized, hresize⟩ := h.resizeIfNeeded_eq popupEnv frame
  rw [← render_root_iff hresized]
  constructor
  · rintro ⟨r, hr⟩
    rw [UIManager.draw, hresize] at hr
    obtain ⟨manager', hmanager', hr⟩ := bind_eq_ok hr
    obtain ⟨popups, hpopups, hmanager'⟩ := bind_eq_ok hmanager'
    obtain rfl := Except.ok.inj hmanager'
    obtain ⟨drawn, hdrawn, hr⟩ := bind_eq_ok hr
    obtain ⟨popups', hpopups', -⟩ := bind_eq_ok hr
    exact ⟨⟨drawn, hdrawn⟩, popups', (Ui.bind_ok hpopups _).trans hpopups'⟩
  · rintro ⟨⟨drawn, hdrawn⟩, popups', hpopups'⟩
    obtain ⟨popups, hpopups, hpopups'⟩ := bind_eq_ok hpopups'
    have hmanager := hresize.trans (Ui.bind_ok hpopups _)
    rw [UIManager.draw, Ui.bind_ok hmanager]
    dsimp only
    rw [Ui.bind_ok hdrawn]
    exact ⟨_, Ui.bind_ok hpopups' _⟩

/-- What is drawn of the window does not overlap. -/
theorem Valid.draw (h : Valid env shown manager) {drawn : List Rect}
    (hdraw : manager.draw env popupEnv frame = .ok (drawn, manager')) :
    Valid env shown manager' ∧ manager'.currentArea = frame.size ∧ drawn.Pairwise Rect.Apart
      ∧ ∀ r ∈ drawn, r.Within frame.size := by
  obtain ⟨root, hresized, hresize⟩ := h.resizeIfNeeded_eq popupEnv frame
  unfold UIManager.draw at hdraw
  rw [hresize] at hdraw
  obtain ⟨manager₁, hmanager₁, hdraw⟩ := bind_eq_ok hdraw
  obtain ⟨popups, hpopups, hmanager₁⟩ := bind_eq_ok hmanager₁
  obtain rfl := Except.ok.inj hmanager₁
  obtain ⟨⟨drawn', root'⟩, hroot, hdraw⟩ := bind_eq_ok hdraw
  obtain ⟨popups', hpopups', hdraw⟩ := bind_eq_ok hdraw
  obtain ⟨⟨drawn'', split⟩, hsplit, hroot⟩ := bind_eq_ok hroot
  obtain ⟨rfl, rfl⟩ := Prod.ext_iff.1 (Except.ok.inj hroot)
  obtain ⟨rfl, rfl⟩ := Prod.ext_iff.1 (Except.ok.inj hdraw)
  obtain ⟨hfocus, hplaced, hdata, hapart, hwithin⟩ :=
    (windowLaw env).render hresized.focus hresized.placed hsplit
  obtain ⟨htold, hne⟩ := h.resizedPopups hpopups
  refine ⟨⟨hfocus, hplaced, fun hne' => ?_, htold.callAll (fun _ => rfl) hpopups', ?_⟩, rfl, hapart,
    hwithin⟩
  · refine hresized.isInnerFocused.trans (h.covered (hne fun hnil => hne' ?_))
    rw [hnil] at hpopups'
    exact (Except.ok.inj hpopups').symm
  · exact (congrArg (fun data => data.2.1) (hdata.trans hresized.data)).trans h.handler

/-! ## Runs -/

/-- The event that an action adds to the log. -/
def Action.logged : Action π → Option Event
  | .streamEvent _ event => (LogBlock.Call.newStreamEvent event).shown
  | _ => none

theorem Valid.handleStreamEvent (h : Valid env shown manager) {usersReceivers : ℕ} {event : Event}
    (hevent : manager.handleStreamEvent env usersReceivers event = .ok manager') :
    Valid env (shown ++ (LogBlock.Call.newStreamEvent event).shown.toList) manager' := by
  obtain ⟨view, hview, hevent⟩ := bind_eq_ok hevent
  obtain rfl := Except.ok.inj hevent
  obtain ⟨-, hplaced, hlog⟩ := h.focus.second.newStreamEvent hview
  have hhandler : view.logBlock.handler
      = ⟨(shown ++ (LogBlock.Call.newStreamEvent event).shown.toList).rtake
          maximumEventHistoryLength, env.localDateTime⟩ := by
    rw [hlog]
    exact LogBlock.newStreamEvent_handler h.handler event
  exact (h.withView (fun _ hfocus => (hfocus.newStreamEvent hview).1) hplaced
    hhandler).withSent _ _

theorem Valid.popupReceived (h : Valid env shown manager)
    (hreceived : manager.popupReceived env popupEnv = .ok manager') :
    Valid env shown manager' := by
  unfold UIManager.popupReceived at hreceived
  cases hsent : manager.sent with
  | nil =>
    rw [hsent] at hreceived
    obtain rfl := Except.ok.inj hreceived
    exact h
  | cons element sent =>
    rw [hsent] at hreceived
    exact (h.withSent sent manager.watched).pushPopup hreceived

theorem Valid.popupUpdate (h : Valid env shown manager) (popupIndex : ℕ) (update : π → π) :
    Valid env shown { manager with
      popups := manager.popups.modify popupIndex fun popup =>
        { popup with element := update popup.element } } := by
  refine ⟨h.focus, h.placed, fun hne => h.covered fun hnil => hne ?_,
    h.told.update popupIndex update, h.handler⟩
  rw [hnil]
  exact List.modify_nil _ _

theorem Valid.graphTick (h : Valid env shown manager) {timestampNow : ℤ}
    (htick : manager.perform env popupEnv (.graphTick timestampNow) = .ok manager') :
    Valid env shown manager' := by
  obtain ⟨view, hview, htick⟩ := bind_eq_ok htick
  obtain rfl := Except.ok.inj htick
  obtain ⟨usageGraph, hgraph, hview⟩ := bind_eq_ok hview
  obtain rfl := Except.ok.inj hview
  exact h.withView (fun _ hfocus => (hfocus.tick hgraph).1) (h.focus.second.tick hgraph).2
    h.handler

theorem Valid.step (h : Valid env shown manager) {action : Action π}
    (hstep : manager.step env popupEnv action = some manager') :
    Valid env (shown ++ action.logged.toList) manager' := by
  have hperform := LongList.eq_ok_of_toOption hstep
  cases action with
  | streamEvent usersReceivers event => exact h.handleStreamEvent hperform
  | draw frame =>
    obtain ⟨⟨drawn, manager''⟩, hdraw, hperform⟩ := bind_eq_ok hperform
    obtain rfl := Except.ok.inj hperform
    simpa [Action.logged] using (h.draw hdraw).1
  | terminalEvent event => simpa [Action.logged] using h.handleTerminalEvent hperform
  | popupReceived => simpa [Action.logged] using h.popupReceived hperform
  | popupClosed popupIndex => simpa [Action.logged] using h.popupClosed hperform
  | popupSent element =>
    obtain rfl := Except.ok.inj hperform
    simp only [Action.logged, Option.toList_none, List.append_nil]
    exact h.withSent _ _
  | popupUpdate popupIndex update =>
    obtain rfl := Except.ok.inj hperform
    simp only [Action.logged, Option.toList_none, List.append_nil]
    exact h.popupUpdate popupIndex update
  | menuBarUpdate update =>
    obtain rfl := Except.ok.inj hperform
    simp only [Action.logged, Option.toList_none, List.append_nil]
    exact h.withMenuBar (fun _ hfocus => (hfocus.update update).1)
      (h.focus.first.update update).2
  | graphTick timestampNow => simpa [Action.logged] using h.graphTick hperform

theorem Valid.run {actions : List (Action π)} :
    ∀ {manager : UIManager π} {shown : List Event}, Valid env shown manager →
      runSteps (UIManager.step env popupEnv) manager actions = some manager' →
        Valid env (shown ++ actions.filterMap Action.logged) manager' := by
  induction actions with
  | nil =>
    intro manager shown h hrun
    obtain rfl := Option.some.inj hrun
    rwa [List.filterMap_nil, List.append_nil]
  | cons action actions ih =>
    intro manager shown h hrun
    obtain ⟨manager₁, hstep, hrest⟩ := runSteps_cons.1 hrun
    have hvalid := ih (h.step hstep) hrest
    cases hlogged : action.logged <;> simpa [hlogged] using hvalid

/-- In how many places of the window the focus is shown: the entries of the menu bar, the log, the
button and the selector. -/
def focusMarks (manager : UIManager π) : ℕ :=
  (if manager.root.inner.first.focusedElement = .none then 0 else 1)
    + manager.view.logBlock.list.selectedIndex.isSome.toNat
    + manager.view.clientActivityLine.second.isFocused.toNat
    + manager.view.graphPrecisionLine.second.isFocused.toNat

theorem Valid.focusMarks_eq (h : Valid env shown manager) :
    focusMarks manager = manager.root.isInnerFocused.toNat := by
  have hmarks : (if manager.root.inner.first.focusedElement = .none then 0 else 1)
      + (manager.view.logBlock.list.selectedIndex.isSome.toNat
        + (0 + manager.view.clientActivityLine.second.isFocused.toNat)
        + (0 + manager.view.graphPrecisionLine.second.isFocused.toNat))
      = manager.root.isInnerFocused.toNat := (windowLaw env).marks_eq h.focus
  unfold focusMarks
  omega

/-- One part of the window shows the focus, or the last popup has it, or nothing does. -/
theorem focus_once (popupEnv : PopupEnv π) (history : UsageTracker) (metrics : Metrics)
    {actions : List (Action π)}
    (hrun : runSteps (step env popupEnv) (new env history metrics) actions = some manager) :
    focusMarks manager = manager.root.isInnerFocused.toNat
      ∧ (manager.popups ≠ [] → manager.root.isInnerFocused = false)
      ∧ OnlyLast manager.popups
      ∧ (∀ popup ∈ manager.popups, popup.area = manager.currentArea)
      ∧ (manager.view.isFocused = true →
        manager.view.focusedElement.isVisibleIn manager.view.layoutMode = true)
      ∧ manager.view.logBlock.handler.eventHistory
        = (actions.filterMap Action.logged).rtake maximumEventHistoryLength
      ∧ (∀ event, ∃ r, manager.root.handleEvent (Window.element env) event true = .ok r)
      ∧ ∀ event : UiEvent, manager.popups = [] → event.pressed ≠ some (.key .esc) →
        ∃ manager', manager.step env popupEnv (.terminalEvent event) = some manager' := by
  have h := (valid_new history metrics).run hrun
  refine ⟨h.focusMarks_eq, h.covered, h.told.onlyLast, h.told.area, fun hfocused => ?_, ?_,
    fun event => ?_, fun event hnil hesc => ?_⟩
  · exact h.focus.second.visible (h.focus.second.isFocused.symm.trans hfocused)
  · rw [h.handler, List.nil_append]
  · obtain ⟨status, root, hroot, -⟩ := h.root_handleEvent event
    exact ⟨_, hroot⟩
  · obtain ⟨manager', hevent⟩ := h.handleTerminalEvent_ok popupEnv hnil hesc
    exact ⟨manager', by rw [step, perform, hevent]; rfl⟩

/-- A UI of which nothing has been drawn, in an environment that is plain. -/
def plainEnv : UiEnv where
  growth := ⟨id, fun _ => le_rfl⟩
  localTime _ := (0, 0, 0)
  localDateTime _ := LogBlock.epoch
  search := .first _
  borders := .bordered
  setStringn _ text _ := text.length

/-- Popups that are a line of text, as the one of a list is while it is loading. -/
def plainPopups : PopupEnv TextLine where
  element := TextLine.element.toUIElement
  new _ := .new [] .center

def start : UIManager TextLine := new plainEnv (.new 1 0) ⟨0, 0, 0, 0, 0, 0⟩

def press (code : InputKeyCode) : Action TextLine :=
  .terminalEvent (.key ⟨code, ⟨false, false⟩, false⟩)

def openSockets : List (Action TextLine) := [press (.key .tab), press (.char 's'), .popupReceived]

theorem focus_once_popup :
    (∃ manager, runSteps (step plainEnv plainPopups) start openSockets = some manager
      ∧ manager.popups.length = 1 ∧ focusMarks manager = 0 ∧ OnlyLast manager.popups)
      ∧ ∃ manager, runSteps (step plainEnv plainPopups) start (openSockets ++ [.popupClosed 0])
          = some manager
        ∧ ∃ manager', manager.step plainEnv plainPopups (press (.char 'x')) = some manager' := by
  have hopened : ∃ manager, runSteps (step plainEnv plainPopups) start openSockets = some manager
      ∧ manager.popups.length = 1 := ⟨_, rfl, rfl⟩
  have hclosed : ∃ manager, runSteps (step plainEnv plainPopups) start
      (openSockets ++ [.popupClosed 0]) = some manager ∧ manager.popups = [] := ⟨_, rfl, rfl⟩
  obtain ⟨opened, hrun, hlength⟩ := hopened
  obtain ⟨closed, hrun', hnil⟩ := hclosed
  obtain ⟨hmarks, hcovered, hlast, -⟩ := focus_once _ _ _ hrun
  obtain ⟨-, -, -, -, -, -, -, hevent⟩ := focus_once _ _ _ hrun'
  have hne : opened.popups ≠ [] := List.length_pos_iff.1 (hlength ▸ Nat.one_pos)
  rw [hcovered hne] at hmarks
  exact ⟨⟨opened, hrun, hlength, hmarks, hlast⟩, closed, hrun', hevent _ hnil (by decide)⟩

/-- A log of one or two rows cannot be drawn. -/
theorem not_draws_of_low (env : UiEnv) {view : MainView} (hexpanded : view.expanded = false)
    (hwidth : frame.width ≠ 0) (hheight : frame.height = 5 ∨ frame.height = 6) :
    ¬ MainView.Draws env (body frame) view := by
  intro hdraws
  have hne : ¬ (body frame).isEmpty := by
    rw [Rect.isEmpty_iff]
    simp only [body]
    omega
  have hlow : (body frame).height < usageGraphMinHeight + 3 := by
    have hmin : usageGraphMinHeight = 7 := rfl
    simp only [body]
    omega
  have hmode : MainView.modeFor (body frame) false = .logsOnly := by
    simp [MainView.modeFor, hne, hlow]
  have hroom : 0 + frame.width < 2 ^ 16 := (Nat.zero_add _).symm ▸ frame.width_lt
  have hlog : MainView.logBlockArea (body frame) (MainView.modeFor (body frame) view.expanded)
      = .ok ⟨0, 4, frame.width, frame.height - 2 - 2, hroom, by omega⟩ := by
    rw [hexpanded, hmode]
    exact Rect.new_eq rfl rfl rfl rfl
  have hfits := (hdraws.logBlock _ hlog (by
    rw [Rect.isEmpty_iff]
    dsimp only
    omega)).1
  dsimp only at hfits
  omega

/-- A frame is drawn unless a popup cannot be or the log or the graph has no room, as the log has
in a frame of five or six rows, and no two parts of the window are drawn over each other. -/
theorem frames_drawn (popupEnv : PopupEnv π) (history : UsageTracker) (metrics : Metrics)
    {actions : List (Action π)}
    (hrun : runSteps (step env popupEnv) (new env history metrics) actions = some manager)
    (frame : UiFrame) :
    ((∃ r, manager.draw env popupEnv frame = .ok r)
      ↔ MainView.Draws env (body frame) manager.view
        ∧ ∃ popups, manager.drawnPopups popupEnv frame = .ok popups)
      ∧ (manager.popups = [] → manager.drawnPopups popupEnv frame = .ok [])
      ∧ (manager.view.expanded = false → frame.width ≠ 0 →
        frame.height = 5 ∨ frame.height = 6 →
          manager.step env popupEnv (.draw frame) = none)
      ∧ ∀ drawn manager', manager.draw env popupEnv frame = .ok (drawn, manager') →
        manager'.currentArea = frame.size ∧ drawn.Pairwise Rect.Apart
          ∧ ∀ r ∈ drawn, r.Within frame.size := by
  have h := (valid_new history metrics).run hrun
  refine ⟨h.draw_iff popupEnv frame, drawnPopups_nil, fun hexpanded hwidth hheight => ?_,
    fun drawn manager' hdraw => (h.draw hdraw).2⟩
  have hnot := not_draws_of_low env hexpanded hwidth hheight
  rcases hdraw : manager.draw env popupEnv frame with stop | r
  · rw [step, perform, hdraw]
    rfl
  · exact absurd ((h.draw_iff popupEnv frame).1 ⟨r, hdraw⟩).1 hnot

theorem frames_drawn_low :
    start.step plainEnv plainPopups (.draw ⟨40, 5, by decide, by decide, by decide⟩) = none
      ∧ ∃ manager, runSteps (step plainEnv plainPopups) start openSockets = some manager
        ∧ manager.popups.length = 1
        ∧ ∃ r, manager.draw plainEnv plainPopups ⟨40, 7, by decide, by decide, by decide⟩
          = .ok r := by
  have hrun : runSteps (step plainEnv plainPopups) start [] = some start := rfl
  have hlow := frames_drawn _ _ _ hrun ⟨40, 5, by decide, by decide, by decide⟩
  refine ⟨hlow.2.2.1 rfl (by decide) (.inl rfl), ?_⟩
  have hopened : ∃ manager, runSteps (step plainEnv plainPopups) start openSockets = some manager
      ∧ manager.popups.length = 1 ∧ manager.view = start.view
      ∧ ∃ popups, manager.drawnPopups plainPopups ⟨40, 7, by decide, by decide, by decide⟩
        = .ok popups := ⟨_, rfl, rfl, rfl, _, rfl⟩
  obtain ⟨manager, hrun', hlength, hview, hpopups⟩ := hopened
  have hdraws : MainView.Draws plainEnv (body ⟨40, 7, by decide, by decide, by decide⟩)
      start.view := by
    refine ⟨fun r hr _ => ?_, fun r hr hne => ?_⟩
    · obtain rfl := Except.ok.inj hr
      exact ⟨le_rfl, fun event hevent => absurd hevent.symm (List.cons_ne_nil event [])⟩
    · obtain rfl := Except.ok.inj hr
      exact absurd rfl hne
  exact ⟨manager, hrun', hlength, (frames_drawn _ _ _ hrun' _).1.2 ⟨hview ▸ hdraws, hpopups⟩⟩

end UIManager

end DustDevil
