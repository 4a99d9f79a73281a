import DustDevil.Proofs.MainParts

/-!
# Focus in the main view

Exactly one of the log, the button and the selector has the focus while the main view does, it is
one that its layout shows, and no direction in which the focus is passed leads in circles.
-/

namespace DustDevil

open Wire

/-! ## The parts that take the focus -/

namespace MainView

variable {env : UiEnv} {view view' view'' : MainView} {area : Rect}

/-- The width of the widest frame that is higher than the menu bar. -/
def maxWidth : ℕ := 21845

def clientActivityLaw : clientActivityElement.Law maxWidth (Unit × Unit) :=
  HorizontalSplit.autosizeLaw (TextLine.law maxWidth) (CenteredButton.law toggleExpanded maxWidth) 1

def graphPrecisionLaw (env : UiEnv) :
    (graphPrecisionElement env).Law maxWidth (Unit × List (StaticString × Option Char)) :=
  HorizontalSplit.autosizeLaw (TextLine.law maxWidth) (ArrowSelector.law env.setStringn maxWidth) 1

/-- Which of the parts have the focus. -/
structure Parts (env : UiEnv) (c : FocusedElement → Bool) (view : MainView) : Prop where
  logBlock : (LogBlock.law env).Focus (c .logBlock) view.logBlock
  clientActivity : clientActivityLaw.Focus (c .expandButton) view.clientActivityLine
  graphPrecision : (graphPrecisionLaw env).Focus (c .precisionSelector) view.graphPrecisionLine
  options : view.graphPrecisionLine.second.options.length = 9

/-- What calls that do not lay out the view leave. -/
structure Keeps (env : UiEnv) (view view' : MainView) : Prop where
  areas : view'.areas = view.areas
  layoutMode : view'.layoutMode = view.layoutMode
  logBlock : ∀ area, (LogBlock.law env).Placed area view.logBlock →
    (LogBlock.law env).Placed area view'.logBlock
  usageGraph : view'.usageGraph.currentArea = view.usageGraph.currentArea
  clientActivity : ∀ area, clientActivityLaw.Placed area view.clientActivityLine →
    clientActivityLaw.Placed area view'.clientActivityLine
  graphPrecision : ∀ area, (graphPrecisionLaw env).Placed area view.graphPrecisionLine →
    (graphPrecisionLaw env).Placed area view'.graphPrecisionLine
  handler : view'.logBlock.handler = view.logBlock.handler
  metricsDisplay : view'.metricsDisplay = view.metricsDisplay

/-- And what those leave that do not change which part is to have the focus. -/
structure Stays (env : UiEnv) (view view' : MainView) : Prop extends Keeps env view view' where
  isFocused : view'.isFocused = view.isFocused
  focusedElement : view'.focusedElement = view.focusedElement

theorem Keeps.refl (env : UiEnv) (view : MainView) : Keeps env view view :=
  ⟨rfl, rfl, fun _ => id, rfl, fun _ => id, fun _ => id, rfl, rfl⟩

theorem Keeps.trans (h : Keeps env view view') (h' : Keeps env view' view'') :
    Keeps env view view'' where
  areas := h'.areas.trans h.areas
  layoutMode := h'.layoutMode.trans h.layoutMode
  logBlock area harea := h'.logBlock area (h.logBlock area harea)
  usageGraph := h'.usageGraph.trans h.usageGraph
  clientActivity area harea := h'.clientActivity area (h.clientActivity area harea)
  graphPrecision area harea := h'.graphPrecision area (h.graphPrecision area harea)
  handler := h'.handler.trans h.handler
  metricsDisplay := h'.metricsDisplay.trans h.metricsDisplay

theorem Stays.trans (h : Stays env view view') (h' : Stays env view' view'') :
    Stays env view view'' :=
  ⟨h.toKeeps.trans h'.toKeeps, h'.isFocused.trans h.isFocused,
    h'.focusedElement.trans h.focusedElement⟩

theorem Parts.congr {c c' : FocusedElement → Bool} (h : Parts env c view)
    (hc : ∀ element, c element = c' element) : Parts env c' view := by
  rwa [← funext hc]

/-- Which part is to have the focus is not of the parts. -/
theorem Parts.withFocus {c : FocusedElement → Bool} (h : Parts env c view) (isFocused : Bool)
    (focusedElement : FocusedElement) :
    Parts env c { view with isFocused := isFocused, focusedElement := focusedElement } :=
  ⟨h.logBlock, h.clientActivity, h.graphPrecision, h.options⟩

theorem Keeps.withFocus (h : Keeps env view view') (isFocused isFocused' : Bool)
    (focusedElement focusedElement' : FocusedElement) :
    Keeps env { view with isFocused := isFocused, focusedElement := focusedElement }
      { view' with isFocused := isFocused', focusedElement := focusedElement' } :=
  ⟨h.areas, h.layoutMode, h.logBlock, h.usageGraph, h.clientActivity, h.graphPrecision, h.handler,
    h.metricsDisplay⟩

theorem isSome_fromIndex :
    ∀ index < 9, (GraphPrecisionOption.fromIndex (index % 2 ^ 8)).isSome := by
  decide

theorem setPrecision_ok {c : FocusedElement → Bool} (h : Parts env c view) :
    ∃ view', view.setPrecision = .ok view' ∧ Parts env c view' ∧ Stays env view view' := by
  unfold setPrecision
  cases hlast : view.graphPrecisionLine.second.selectionsChanged.getLast? with
  | none => exact ⟨view, rfl, h, Keeps.refl env view, rfl, rfl⟩
  | some index =>
    have hlt := h.graphPrecision.second.2.told_lt index (List.mem_of_getLast? hlast)
    obtain ⟨option, hoption⟩ :=
      Option.isSome_iff_exists.1 (isSome_fromIndex index (h.options ▸ hlt))
    dsimp only
    rw [hoption]
    exact ⟨_, rfl, ⟨h.logBlock, h.clientActivity, h.graphPrecision, h.options⟩,
      ⟨rfl, rfl, fun _ => id, rfl, fun _ => id, fun _ => id, rfl, rfl⟩, rfl, rfl⟩

section Change

variable {c : FocusedElement → Bool} {r : Bool}

theorem Parts.withLogBlock (h : Parts env c view) {s : LogBlock}
    (hs : (LogBlock.law env).Focus r s) :
    Parts env (Function.update c .logBlock r) { view with logBlock := s } :=
  ⟨by simpa using hs, by simpa using h.clientActivity, by simpa using h.graphPrecision, h.options⟩

theorem Parts.withClientActivity (h : Parts env c view) {s : ClientActivityLine}
    (hs : clientActivityLaw.Focus r s) :
    Parts env (Function.update c .expandButton r) { view with clientActivityLine := s } :=
  ⟨by simpa using h.logBlock, by simpa using hs, by simpa using h.graphPrecision, h.options⟩

theorem Parts.withGraphPrecision (h : Parts env c view) {s : GraphPrecisionLine}
    (hs : (graphPrecisionLaw env).Focus r s)
    (hdata : (graphPrecisionLaw env).data s
      = (graphPrecisionLaw env).data view.graphPrecisionLine) :
    Parts env (Function.update c .precisionSelector r) { view with graphPrecisionLine := s } := by
  refine ⟨by simpa using h.logBlock, by simpa using h.clientActivity, by simpa using hs, ?_⟩
  rw [← h.options]
  exact congrArg (fun data => data.2.length) hdata

theorem stays_logBlock {s : LogBlock}
    (hplaced : ∀ area, (LogBlock.law env).Placed area view.logBlock →
      (LogBlock.law env).Placed area s) (hdata : s.handler = view.logBlock.handler) :
    Stays env view { view with logBlock := s } :=
  ⟨⟨rfl, rfl, hplaced, rfl, fun _ => id, fun _ => id, hdata, rfl⟩, rfl, rfl⟩

theorem stays_clientActivity {s : ClientActivityLine}
    (hplaced : ∀ area, clientActivityLaw.Placed area view.clientActivityLine →
      clientActivityLaw.Placed area s) : Stays env view { view with clientActivityLine := s } :=
  ⟨⟨rfl, rfl, fun _ => id, rfl, hplaced, fun _ => id, rfl, rfl⟩, rfl, rfl⟩

theorem stays_graphPrecision {s : GraphPrecisionLine}
    (hplaced : ∀ area, (graphPrecisionLaw env).Placed area view.graphPrecisionLine →
      (graphPrecisionLaw env).Placed area s) :
    Stays env view { view with graphPrecisionLine := s } :=
  ⟨⟨rfl, rfl, fun _ => id, rfl, fun _ => id, hplaced, rfl, rfl⟩, rfl, rfl⟩

theorem Parts.handlePart_ok (h : Parts env c view) (event : UiEvent) (isFocused : Bool)
    (element : FocusedElement) (hc : isFocused = true → c element = true) :
    ∃ status view', view.handlePart env event isFocused element = .ok (status, view')
      ∧ Parts env c view' ∧ Stays env view view'
      ∧ (isFocused = false → status.passes = false) := by
  cases element with
  | logBlock =>
    obtain ⟨status, s, hs, hfocus, hplaced, hdata, hpasses⟩ :=
      (LogBlock.law env).handleEvent event hc h.logBlock
    have hparts := h.withLogBlock hfocus
    rw [Function.update_eq_self] at hparts
    exact ⟨status, _, Ui.bind_ok hs _, hparts, stays_logBlock hplaced hdata, hpasses⟩
  | expandButton =>
    obtain ⟨status, s, hs, hfocus, hplaced, -, hpasses⟩ :=
      clientActivityLaw.handleEvent event hc h.clientActivity
    have hparts := h.withClientActivity hfocus
    rw [Function.update_eq_self] at hparts
    exact ⟨status, _, Ui.bind_ok hs _, hparts, stays_clientActivity hplaced, hpasses⟩
  | precisionSelector =>
    obtain ⟨status, s, hs, hfocus, hplaced, hdata, hpasses⟩ :=
      (graphPrecisionLaw env).handleEvent event hc h.graphPrecision
    have hparts := h.withGraphPrecision hfocus hdata
    rw [Function.update_eq_self] at hparts
    obtain ⟨view', hset, hparts', hstays⟩ := setPrecision_ok hparts
    refine ⟨status, view', ?_, hparts', (stays_graphPrecision hplaced).trans hstays, hpasses⟩
    rw [handlePart, Ui.bind_ok hs]
    exact Ui.bind_ok hset _

/-- Only the log may refuse the focus. -/
theorem Parts.offerPart_ok (h : Parts env c view) (position : ℕ × ℕ) (element : FocusedElement)
    (hc : c element = false) :
    ∃ received view', view.offerPart env position element = .ok (received, view')
      ∧ Parts env (Function.update c element received) view' ∧ Stays env view view'
      ∧ (element ≠ .logBlock → received = true) := by
  cases element with
  | logBlock =>
    obtain ⟨received, s, hs, hfocus, hplaced, hdata, -⟩ :=
      (LogBlock.law env).receiveFocus position (hc ▸ h.logBlock)
    exact ⟨received, _, Ui.bind_ok hs _, h.withLogBlock hfocus, stays_logBlock hplaced hdata,
      fun hne => absurd rfl hne⟩
  | expandButton =>
    obtain ⟨received, s, hs, hfocus, hplaced, -, heager⟩ :=
      clientActivityLaw.receiveFocus position (hc ▸ h.clientActivity)
    exact ⟨received, _, Ui.bind_ok hs _, h.withClientActivity hfocus, stays_clientActivity hplaced,
      fun _ => heager (.inr trivial)⟩
  | precisionSelector =>
    obtain ⟨received, s, hs, hfocus, hplaced, hdata, heager⟩ :=
      (graphPrecisionLaw env).receiveFocus position (hc ▸ h.graphPrecision)
    exact ⟨received, _, Ui.bind_ok hs _, h.withGraphPrecision hfocus hdata,
      stays_graphPrecision hplaced, fun _ => heager (.inr trivial)⟩

theorem Parts.takeFromPart (h : Parts env c view) (element : FocusedElement)
    (hc : c element = true) :
    Parts env (Function.update c element false) (view.takeFromPart env element)
      ∧ Stays env view (view.takeFromPart env element) := by
  cases element with
  | logBlock =>
    obtain ⟨hfocus, hplaced, hdata⟩ := (LogBlock.law env).focusLost (hc ▸ h.logBlock)
    exact ⟨h.withLogBlock hfocus, stays_logBlock hplaced hdata⟩
  | expandButton =>
    obtain ⟨hfocus, hplaced, -⟩ := clientActivityLaw.focusLost (hc ▸ h.clientActivity)
    exact ⟨h.withClientActivity hfocus, stays_clientActivity hplaced⟩
  | precisionSelector =>
    obtain ⟨hfocus, hplaced, hdata⟩ := (graphPrecisionLaw env).focusLost (hc ▸ h.graphPrecision)
    exact ⟨h.withGraphPrecision hfocus hdata, stays_graphPrecision hplaced⟩

end Change

/-! ### The part that has the focus -/

/-- Which part has the focus, if the view does. -/
def holder (b : Bool) (focusedElement element : FocusedElement) : Bool :=
  b && decide (element = focusedElement)

theorem holder_self (focusedElement : FocusedElement) :
    holder true focusedElement focusedElement = true := by
  simp [holder]

theorem holder_of_ne {element focusedElement : FocusedElement} (b : Bool)
    (h : element ≠ focusedElement) : holder b focusedElement element = false := by
  simp [holder, h]

@[simp] theorem holder_false (focusedElement element : FocusedElement) :
    holder false focusedElement element = false := rfl

theorem update_holder_false (e e' : FocusedElement) (received : Bool) (element : FocusedElement) :
    Function.update (holder false e) e' received element = holder received e' element := by
  rcases eq_or_ne element e' with rfl | hne
  · cases received <;> simp [holder]
  · rw [Function.update_of_ne hne, holder_of_ne _ hne, holder_false]

theorem update_holder_self (e e' : FocusedElement) (element : FocusedElement) :
    Function.update (holder true e) e false element = holder false e' element := by
  rcases eq_or_ne element e with rfl | hne
  · simp
  · rw [Function.update_of_ne hne, holder_of_ne _ hne, holder_false]

structure Focus (env : UiEnv) (b : Bool) (view : MainView) : Prop where
  parts : Parts env (holder b view.focusedElement) view
  isFocused : view.isFocused = b
  visible : b = true → view.focusedElement.isVisibleIn view.layoutMode = true
  /-- There is a column to the right of the line over the graph, and one more. -/
  room : view.areas.clientActivityLine.right + 2 < 2 ^ 16

theorem Focus.of_stays {b : Bool} (h : Focus env b view)
    (hparts : Parts env (holder b view.focusedElement) view') (hstays : Stays env view view') :
    Focus env b view' where
  parts := hstays.focusedElement ▸ hparts
  isFocused := hstays.isFocused.trans h.isFocused
  visible hb := by
    rw [hstays.focusedElement, hstays.layoutMode]
    exact h.visible hb
  room := by
    rw [hstays.areas]
    exact h.room

theorem receiveOrder_ok (view : MainView) (position : ℕ × ℕ)
    (hroom : view.areas.clientActivityLine.right + 2 < 2 ^ 16) :
    ∃ order, view.receiveOrder position = .ok order
      ∧ (∀ element ∈ order, element.isVisibleIn view.layoutMode = true)
      ∧ ∃ element ∈ order, element ≠ .logBlock := by
  unfold receiveOrder
  cases view.layoutMode with
  | full =>
    dsimp only
    split_ifs <;> exact ⟨_, rfl, by decide, by decide⟩
  | logsOnly =>
    dsimp only
    split_ifs <;> exact ⟨_, rfl, by decide, by decide⟩
  | graphExpanded =>
    dsimp only
    rw [Ui.bind_ok (addU16_ok hroom)]
    split_ifs <;> exact ⟨_, rfl, by decide, by decide⟩

/-- The first part that takes the focus has it, and there is one unless only the log is asked. -/
theorem Parts.offerInOrder_ok (position : ℕ × ℕ) {e : FocusedElement} :
    ∀ (order : List FocusedElement) {view : MainView}, Parts env (holder false e) view →
      view.isFocused = true →
      ∃ received view', offerInOrder env position order view = .ok (received, view')
        ∧ Parts env (holder received view'.focusedElement) view' ∧ view'.isFocused = received
        ∧ (received = true → view'.focusedElement ∈ order) ∧ Keeps env view view'
        ∧ ((∃ element ∈ order, element ≠ .logBlock) → received = true)
  | [], view, h, _ =>
    ⟨false, _, rfl, h.withFocus _ _, rfl, nofun, (Keeps.refl env view).withFocus _ _ _ _, by simp⟩
  | element :: order, view, h, hfocused => by
    obtain ⟨received, view', hoffer, hparts, hstays, heager⟩ :=
      h.offerPart_ok position element (holder_false e element)
    have hparts := hparts.congr (update_holder_false e element received)
    rw [offerInOrder, Ui.bind_ok hoffer]
    cases received with
    | true =>
      exact ⟨true, _, rfl, hparts.withFocus _ _, hstays.isFocused.trans hfocused,
        fun _ => List.mem_cons_self, hstays.toKeeps.withFocus _ _ _ _, fun _ => rfl⟩
    | false =>
      obtain ⟨received, view'', hoffer', hparts', hfocused', hmem, hkeeps, heager'⟩ :=
        hparts.offerInOrder_ok position order (hstays.isFocused.trans hfocused)
      refine ⟨received, view'', hoffer', hparts', hfocused', fun hreceived =>
        List.mem_cons_of_mem _ (hmem hreceived), hstays.toKeeps.trans hkeeps, ?_⟩
      rintro ⟨element', hmem', hne⟩
      rcases List.mem_cons.1 hmem' with rfl | hmem'
      · exact absurd (heager hne) Bool.false_ne_true
      · exact heager' ⟨element', hmem', hne⟩

/-- A view takes the focus whenever it is offered, with a part that is visible. -/
theorem Focus.receiveFocus (h : Focus env false view) (position : ℕ × ℕ) :
    ∃ view', view.receiveFocus env position = .ok (true, view') ∧ Focus env true view'
      ∧ Keeps env view view' := by
  obtain ⟨order, horder, hvisible, hsome⟩ :=
    receiveOrder_ok { view with isFocused := true } position h.room
  have hparts : Parts env (holder false view.focusedElement) { view with isFocused := true } :=
    h.parts.withFocus _ _
  obtain ⟨received, view', hoffer, hparts', hfocused, hmem, hkeeps, heager⟩ :=
    hparts.offerInOrder_ok position order rfl
  obtain rfl := heager hsome
  rw [MainView.receiveFocus, Ui.bind_ok horder]
  refine ⟨view', hoffer, ⟨hparts', hfocused, fun _ => ?_, ?_⟩, hkeeps.withFocus _ _ _ _⟩
  · rw [hkeeps.layoutMode]
    exact hvisible _ (hmem rfl)
  · rw [hkeeps.areas]
    exact h.room

theorem Parts.focusLost (h : Parts env (holder true view.focusedElement) view)
    (hroom : view.areas.clientActivityLine.right + 2 < 2 ^ 16) :
    Focus env false (view.focusLost env) ∧ Keeps env view (view.focusLost env) := by
  have hparts : Parts env (holder true view.focusedElement) { view with isFocused := false } :=
    h.withFocus _ _
  obtain ⟨hparts', hstays⟩ := hparts.takeFromPart view.focusedElement (holder_self _)
  have hkeeps := hstays.toKeeps
  refine ⟨⟨hparts'.congr (update_holder_self _ _), hstays.isFocused, nofun, ?_⟩,
    hkeeps.withFocus _ _ _ _⟩
  rw [MainView.focusLost, hkeeps.areas]
  exact hroom

/-! ### Passing the focus on -/

/-- How many parts there are to try in a direction. -/
def remaining (layoutMode : LayoutMode) (direction : PassFocusDirection)
    (element : FocusedElement) : ℕ :=
  match element.next layoutMode direction with
  | none => 0
  | some element =>
    match element.next layoutMode direction with
    | none => 1
    | some _ => 2

/-- No direction leads back, nor to a part that is not in the layout. -/
theorem next_lt (layoutMode : LayoutMode) (direction : PassFocusDirection)
    (element element' : FocusedElement) (h : element.next layoutMode direction = some element') :
    remaining layoutMode direction element' < remaining layoutMode direction element
      ∧ element'.isVisibleIn layoutMode = true := by
  revert h
  cases layoutMode <;> cases direction <;> cases element <;> cases element' <;> decide

theorem remaining_le (layoutMode : LayoutMode) (direction : PassFocusDirection)
    (element : FocusedElement) : remaining layoutMode direction element ≤ 2 := by
  unfold remaining
  split
  · decide
  · split <;> decide

theorem update_holder_of_ne {e e' : FocusedElement} (hne : e' ≠ e) (element : FocusedElement) :
    Function.update (holder true e) e' false element = holder true e element := by
  rcases eq_or_ne element e' with rfl | hne'
  · rw [Function.update_self, holder_of_ne _ hne]
  · rw [Function.update_of_ne hne']

theorem update_holder_pass {e e' : FocusedElement} (hne : e' ≠ e) (element : FocusedElement) :
    Function.update (Function.update (holder true e) e' true) e false element
      = holder true e' element := by
  rcases eq_or_ne element e with rfl | hne'
  · rw [Function.update_self, holder_of_ne _ hne.symm]
  · rw [Function.update_of_ne hne']
    rcases eq_or_ne element e' with rfl | hne''
    · rw [Function.update_self, holder_self]
    · rw [Function.update_of_ne hne'', holder_of_ne _ hne', holder_of_ne _ hne'']

/-- While no part has taken the focus, the one that had it has it. -/
theorem Focus.passFocus (position : ℕ × ℕ) (direction : PassFocusDirection) :
    ∀ (fuel : ℕ) (tried : FocusedElement) {view : MainView}, Focus env true view →
      remaining view.layoutMode direction tried
        ≤ remaining view.layoutMode direction view.focusedElement →
      remaining view.layoutMode direction tried < fuel →
      ∃ status view', passFocus env position direction fuel tried view = .ok (status, view')
        ∧ Focus env true view' ∧ Keeps env view view'
  | 0, _, _, _, _, hfuel => absurd hfuel (Nat.not_lt_zero _)
  | fuel + 1, tried, view, h, hle, hfuel => by
    unfold MainView.passFocus
    cases hnext : tried.next view.layoutMode direction with
    | none => exact ⟨_, view, rfl, h, Keeps.refl env view⟩
    | some element =>
      obtain ⟨hlt, hvisible⟩ := next_lt _ _ _ _ hnext
      have hne : element ≠ view.focusedElement := by
        rintro rfl
        exact absurd (hlt.trans_le hle) (lt_irrefl _)
      obtain ⟨received, view', hoffer, hparts, hstays, -⟩ :=
        h.parts.offerPart_ok position element (holder_of_ne true hne)
      have hkeeps := hstays.toKeeps
      dsimp only
      rw [Ui.bind_ok hoffer]
      cases received with
      | true =>
        have hheld : Function.update (holder true view.focusedElement) element true
            view'.focusedElement = true := by
          rw [hstays.focusedElement, Function.update_of_ne hne.symm, holder_self]
        obtain ⟨hparts', hstays'⟩ := hparts.takeFromPart view'.focusedElement hheld
        rw [hstays.focusedElement] at hparts'
        have hpassed := hparts'.congr (update_holder_pass hne)
        have hkeeps' := hkeeps.trans hstays'.toKeeps
        rw [← hstays.focusedElement] at hpassed
        refine ⟨_, _, rfl, ⟨hpassed.withFocus _ _, ?_, fun _ => ?_, ?_⟩,
          hkeeps'.withFocus _ _ _ _⟩
        · exact (hstays'.isFocused.trans hstays.isFocused).trans h.isFocused
        · dsimp only
          rw [hkeeps'.layoutMode]
          exact hvisible
        · dsimp only
          rw [hkeeps'.areas]
          exact h.room
      | false =>
        have hfocus := h.of_stays (hparts.congr (update_holder_of_ne hne)) hstays
        obtain ⟨status, view'', hpass, hfocus', hkeeps'⟩ :=
          hfocus.passFocus position direction fuel element
            (by rw [hkeeps.layoutMode, hstays.focusedElement]; omega)
            (by rw [hkeeps.layoutMode]; omega)
        exact ⟨status, view'', hpass, hfocus', hkeeps.trans hkeeps'⟩

theorem Focus.handleUnfocused {b : Bool} (event : UiEvent) :
    ∀ (elements : List FocusedElement) {view : MainView}, Focus env b view →
      ∃ status view', handleUnfocused env event elements view = .ok (status, view')
        ∧ Focus env b view' ∧ Keeps env view view' ∧ status.passes = false
  | [], view, h => ⟨_, _, rfl, h, Keeps.refl env view, rfl⟩
  | element :: elements, view, h => by
    obtain ⟨status, view', hpart, hparts, hstays, hpasses⟩ :=
      h.parts.handlePart_ok event false element nofun
    have hfocus := h.of_stays hparts hstays
    rw [MainView.handleUnfocused, Ui.bind_ok hpart]
    dsimp only
    split_ifs with hstatus
    · obtain ⟨status', view'', hrest, hfocus', hkeeps, hpasses'⟩ :=
        hfocus.handleUnfocused event elements
      exact ⟨status', view'', hrest, hfocus', hstays.toKeeps.trans hkeeps, hpasses'⟩
    · exact ⟨status, view', rfl, hfocus, hstays.toKeeps, hpasses rfl⟩

theorem Focus.handleEvent {b c : Bool} (h : Focus env b view) (event : UiEvent)
    (hc : c = true → b = true) :
    ∃ status view', view.handleEvent env event c = .ok (status, view') ∧ Focus env b view'
      ∧ Keeps env view view' ∧ (c = false → status.passes = false) := by
  cases c with
  | false =>
    obtain ⟨status, view', hevent, hfocus, hkeeps, hpasses⟩ := h.handleUnfocused event _
    exact ⟨status, view', hevent, hfocus, hkeeps, fun _ => hpasses⟩
  | true =>
    obtain rfl := hc rfl
    obtain ⟨status, view', hpart, hparts, hstays, -⟩ :=
      h.parts.handlePart_ok event true view.focusedElement fun _ => holder_self _
    have hfocus := h.of_stays hparts hstays
    simp only [MainView.handleEvent, if_true]
    rw [Ui.bind_ok hpart]
    rcases status with _ | _ | ⟨position, direction⟩
    · exact ⟨_, view', rfl, hfocus, hstays.toKeeps, nofun⟩
    · obtain ⟨status', view'', hrest, hfocus', hkeeps, -⟩ := hfocus.handleUnfocused event _
      exact ⟨status', view'', hrest, hfocus', hstays.toKeeps.trans hkeeps, nofun⟩
    · obtain ⟨status', view'', hpass, hfocus', hkeeps⟩ :=
        hfocus.passFocus position direction _ view'.focusedElement le_rfl
          ((remaining_le _ _ _).trans_lt (by decide : 2 < 4))
      exact ⟨status', view'', hpass, hfocus', hstays.toKeeps.trans hkeeps, nofun⟩

end MainView

end DustDevil
