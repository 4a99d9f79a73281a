import DustDevil.Proofs.MainView

/-!
# The layout of the main view

Whatever its layout, the parts of the main view are apart and in its area, the focus is with one
that the layout shows (`performResize_ok`), and rendering it fails only where the log or the graph
cannot be drawn (`Focus.render_iff`).
-/

namespace DustDevil

open Wire

namespace MainView

variable {env : UiEnv} {view view' : MainView} {area : Rect}

/-! ## Where the parts are -/

/-- The layout of an area. -/
def modeFor (area : Rect) (expanded : Bool) : LayoutMode :=
  if expanded then .graphExpanded
  else if area.isEmpty then .full
  else if area.width - (area.width + 1) / 2 - 1 < minRightAreaWidth
      ∨ area.height < usageGraphMinHeight + 3 then .logsOnly
  else .full

/-- Where the log is in it. -/
def logBlockArea (area : Rect) : LayoutMode → Ui Rect
  | .full => if area.isEmpty then .ok .default else .ok (area.narrow ((area.width + 1) / 2))
  | .logsOnly => Rect.new area.x (area.y + 2) area.width (area.height - 2)
  | .graphExpanded => .ok .default

/-- And where the graph is. -/
def usageGraphArea (area : Rect) : LayoutMode → Ui Rect
  | .full =>
    if area.isEmpty then .ok .default
    else Rect.new (area.x + (area.width + 1) / 2 + 1) (area.y + 3)
      (area.width - (area.width + 1) / 2 - 1)
      (area.height - (if minFullDisplayHeight ≤ area.height then metricsDisplayHeight + 1 else 0)
        - 3)
  | .logsOnly => .ok .default
  | .graphExpanded =>
    if area.height = 0 ∨ area.width < verticalLabelsAreaWidth + 4 then .ok .default
    else Rect.new (area.x + 1) (area.y + 2) (area.width - 2) (area.height - 2)

def Areas.toList (areas : Areas) : List Rect :=
  [areas.logBlock, areas.usageGraph, areas.metricsDisplay, areas.clientActivityLine,
    areas.graphPrecisionLine]

theorem pairwise_toList {areas : Areas} : areas.toList.Pairwise Rect.Apart
    ↔ (areas.logBlock.Apart areas.usageGraph ∧ areas.logBlock.Apart areas.metricsDisplay
        ∧ areas.logBlock.Apart areas.clientActivityLine
        ∧ areas.logBlock.Apart areas.graphPrecisionLine)
      ∧ (areas.usageGraph.Apart areas.metricsDisplay
        ∧ areas.usageGraph.Apart areas.clientActivityLine
        ∧ areas.usageGraph.Apart areas.graphPrecisionLine)
      ∧ (areas.metricsDisplay.Apart areas.clientActivityLine
        ∧ areas.metricsDisplay.Apart areas.graphPrecisionLine)
      ∧ areas.clientActivityLine.Apart areas.graphPrecisionLine := by
  simp only [Areas.toList, List.pairwise_cons, List.forall_mem_cons, List.not_mem_nil,
    false_imp_iff, implies_true, List.Pairwise.nil, and_true]

theorem forall_mem_toList {areas : Areas} {p : Rect → Prop} : (∀ r ∈ areas.toList, p r)
    ↔ p areas.logBlock ∧ p areas.usageGraph ∧ p areas.metricsDisplay ∧ p areas.clientActivityLine
      ∧ p areas.graphPrecisionLine := by
  simp only [Areas.toList, List.forall_mem_cons, List.not_mem_nil, false_imp_iff, implies_true,
    and_true]

/-- The areas of a view that is laid out. -/
structure Laid (area : Rect) (layoutMode : LayoutMode) (areas : Areas) : Prop where
  apart : areas.toList.Pairwise Rect.Apart
  within : ∀ r ∈ areas.toList, r.Within area
  logBlock : logBlockArea area layoutMode = .ok areas.logBlock
  usageGraph : usageGraphArea area layoutMode = .ok areas.usageGraph
  /-- The cell between the lines is in none of them. -/
  separator : layoutMode = .graphExpanded → ∀ cell : Rect,
    cell.x = areas.clientActivityLine.right + 1 → cell.y = areas.clientActivityLine.y →
    cell.width = 1 → cell.height = 1 → ¬ areas.clientActivityLine.isEmpty →
    (∀ r ∈ areas.toList, cell.Apart r) ∧ (cell.x < area.right → cell.Within area)
  room : areas.clientActivityLine.right + 2 < 2 ^ 16
  lines : areas.clientActivityLine.x + maxWidth + 1 < 2 ^ 16
    ∧ areas.graphPrecisionLine.x + maxWidth + 1 < 2 ^ 16

/-- The view below a menu bar of two rows. -/
structure Fits (area : Rect) : Prop where
  x_eq : area.x = 0
  y_eq : area.y = 2
  width_le : ¬ area.isEmpty → area.width ≤ maxWidth

theorem default_apart (area : Rect) : Rect.default.Apart area := by
  rintro ⟨x, y⟩ ⟨-, hx, -⟩
  exact absurd hx (Nat.not_lt_zero x)

theorem default_within (area : Rect) : Rect.default.Within area := by
  rintro ⟨x, y⟩ ⟨-, hx, -⟩
  exact absurd hx (Nat.not_lt_zero x)

theorem apart_default (area : Rect) : area.Apart .default :=
  fun cell hcell hcell' => default_apart area cell hcell' hcell

/-- What the lines are after they were asked how large they would like to be. -/
theorem beginResize_client (view : MainView) {width : ℕ} (height : ℕ) (hwidth : width ≤ maxWidth) :
    (clientActivityElement.beginResize width height view.clientActivityLine).1.1 ≤ width
      ∧ (∀ b, clientActivityLaw.Focus b view.clientActivityLine → clientActivityLaw.Focus b
        (clientActivityElement.beginResize width height view.clientActivityLine).2)
      ∧ (clientActivityElement.beginResize width height view.clientActivityLine).2.second
        = view.clientActivityLine.second := by
  refine ⟨clientActivityLaw.beginResize_le width height,
    fun b h => (clientActivityLaw.beginResize height hwidth h).1, ?_⟩
  simp only [clientActivityElement, HorizontalSplit.autosizeElement, CenteredButton.element]
  split_ifs <;> rfl

theorem beginResize_precision (env : UiEnv) (view : MainView) {width : ℕ} (height : ℕ)
    (hwidth : width ≤ maxWidth) :
    ((graphPrecisionElement env).beginResize width height view.graphPrecisionLine).1.1 ≤ width
      ∧ (∀ b, (graphPrecisionLaw env).Focus b view.graphPrecisionLine →
        (graphPrecisionLaw env).Focus b
          ((graphPrecisionElement env).beginResize width height view.graphPrecisionLine).2)
      ∧ ((graphPrecisionElement env).beginResize width height view.graphPrecisionLine).2.second
        = view.graphPrecisionLine.second := by
  refine ⟨(graphPrecisionLaw env).beginResize_le width height,
    fun b h => ((graphPrecisionLaw env).beginResize height hwidth h).1, ?_⟩
  simp only [graphPrecisionElement, HorizontalSplit.autosizeElement, ArrowSelector.element]
  split_ifs <;> rfl

/-! ## Laying out -/

/-- The areas are those of the layout, and nothing else has changed but what the lines are. -/
structure Distributed (env : UiEnv) (area : Rect) (expanded : Bool) (view view' : MainView) :
    Prop where
  laid : Laid area view'.layoutMode view'.areas
  layoutMode : view'.layoutMode = modeFor area expanded
  clientActivity : ∀ b, clientActivityLaw.Focus b view.clientActivityLine →
    clientActivityLaw.Focus b view'.clientActivityLine
  button : view'.clientActivityLine.second = view.clientActivityLine.second
  graphPrecision : ∀ b, (graphPrecisionLaw env).Focus b view.graphPrecisionLine →
    (graphPrecisionLaw env).Focus b view'.graphPrecisionLine
  selector : view'.graphPrecisionLine.second = view.graphPrecisionLine.second
  kept : view' = { view with
    clientActivityLine := view'.clientActivityLine
    graphPrecisionLine := view'.graphPrecisionLine
    areas := view'.areas
    layoutMode := view'.layoutMode }

theorem laid_default {layoutMode : LayoutMode} (hlog : logBlockArea area layoutMode = .ok .default)
    (hgraph : usageGraphArea area layoutMode = .ok .default) :
    Laid area layoutMode .default where
  apart := by
    rw [pairwise_toList]
    simp only [Areas.default, default_apart, and_self]
  within := by
    rw [forall_mem_toList]
    simp only [Areas.default, default_within, and_self]
  logBlock := hlog
  usageGraph := hgraph
  separator _ _ _ _ _ _ hne := absurd rfl hne
  room := by decide
  lines := by decide

theorem distributeLogsOnly_ok (hfits : Fits area) (hne : ¬ area.isEmpty)
    (hmode : modeFor area false = .logsOnly) (view : MainView) :
    ∃ view', view.distributeLogsOnly area = .ok view' ∧ Distributed env area false view view' := by
  have hx := hfits.x_eq
  have hy := hfits.y_eq
  have hwidth := hfits.width_le hne
  have hright := area.right_lt
  have hbottom := area.bottom_lt
  have hnonempty := mt Rect.isEmpty_iff.2 hne
  obtain ⟨hle, hfocus, hsecond⟩ := beginResize_client view 1 hwidth
  unfold distributeLogsOnly
  set lineWidth := (clientActivityElement.beginResize area.width 1 view.clientActivityLine).1.1
  have hmax : maxWidth = 21845 := rfl
  dsimp only
  rw [Ui.bind_ok (Rect.new_ok (by omega) (by omega)),
    Ui.bind_ok (Rect.new_ok (by omega) (by omega))]
  have hnot : LayoutMode.logsOnly ≠ .graphExpanded := by decide
  refine ⟨_, rfl, ⟨⟨pairwise_toList.2 ?_, forall_mem_toList.2 ?_, ?_, rfl,
    fun hexpanded => absurd hexpanded hnot, ?_, ?_⟩,
    hmode.symm, hfocus, hsecond, fun _ => id, rfl, rfl⟩⟩
  · simp only [Areas.default, default_apart, apart_default, and_true, true_and]
    intro cell hcell hcell'
    simp only [Rect.Has, Rect.bottom] at hcell hcell'
    omega
  · simp only [Areas.default, default_within, and_true, true_and]
    constructor <;>
    · intro cell hcell
      simp only [Rect.Has, Rect.right, Rect.bottom] at hcell ⊢
      omega
  · exact Rect.new_ok (by omega) (by omega)
  · simp only [Rect.right]
    omega
  · simp only [Areas.default, Rect.default]
    omega

theorem distributeMetrics_ok {right : Rect} (hwidth : minRightAreaWidth ≤ right.width) :
    ∃ metrics remaining, distributeMetrics right = .ok (metrics, remaining)
      ∧ remaining
        = right.height
          - (if minFullDisplayHeight ≤ right.height then metricsDisplayHeight + 1 else 0)
      ∧ (metrics.width = 0 ∨ metrics.x = right.x ∧ metrics.width = right.width
        ∧ metrics.bottom = right.bottom ∧ metrics.y = right.y + remaining + 1) := by
  have hright := right.right_lt
  have hbottom := right.bottom_lt
  have hmin : metricsDisplayMinWidth ≤ right.width :=
    (by decide : metricsDisplayMinWidth ≤ minRightAreaWidth).trans hwidth
  unfold distributeMetrics
  by_cases hroom : minFullDisplayHeight ≤ right.height
  · have hfull : metricsDisplayHeight + 1 ≤ right.height :=
      (by decide : metricsDisplayHeight + 1 ≤ minFullDisplayHeight).trans hroom
    have hheight : metricsDisplayHeight = 6 := rfl
    have hle : metricsDisplayHeight ≤ right.bottom := by
      simp only [Rect.bottom]
      omega
    rw [if_pos ⟨hmin, hroom⟩, if_pos hroom, Ui.bind_ok (subU16_ok hle),
      Ui.bind_ok (Rect.new_ok hright (by simp only [Rect.bottom]; omega)),
      Ui.bind_ok (subU16_ok hfull)]
    refine ⟨_, _, rfl, rfl, .inr ⟨rfl, rfl, ?_, ?_⟩⟩ <;> simp only [Rect.bottom] <;> omega
  · rw [if_neg fun h => hroom h.2, if_neg hroom]
    exact ⟨_, _, rfl, (Nat.sub_zero _).symm, .inl rfl⟩

theorem distributeFull_ok (hfits : Fits area) (hne : ¬ area.isEmpty)
    (hmode : modeFor area false = .full) {right : Rect}
    (hright : right.x = area.x + (area.width + 1) / 2 + 1 ∧ right.y = area.y
      ∧ right.width = area.width - (area.width + 1) / 2 - 1 ∧ right.height = area.height)
    (hwide : minRightAreaWidth ≤ right.width) (hhigh : usageGraphMinHeight + 3 ≤ right.height)
    (view : MainView) :
    ∃ view', view.distributeFull env (area.narrow ((area.width + 1) / 2)) right = .ok view'
      ∧ Distributed env area false view view' := by
  obtain ⟨hx, hy, hwidth, hheight⟩ := hright
  have hmax : maxWidth = 21845 := rfl
  have hmin : minRightAreaWidth = 34 := rfl
  have hmin' : usageGraphMinHeight = 7 := rfl
  have hlabels : verticalLabelsAreaWidth = 9 := rfl
  have hmetricsHeight : metricsDisplayHeight = 6 := rfl
  have hminFull : minFullDisplayHeight = 17 := rfl
  have hareaX := hfits.x_eq
  have hareaY := hfits.y_eq
  have hareaWidth := hfits.width_le hne
  have hareaBottom := area.bottom_lt
  obtain ⟨metrics, remaining, hmetrics, hremaining, hwhere⟩ := distributeMetrics_ok hwide
  have hremaining' : 3 ≤ remaining ∧ remaining ≤ right.height := by
    rw [hremaining]
    split_ifs <;> omega
  have hrightWidth : right.width ≤ maxWidth := by omega
  obtain ⟨hle, hfocus, hsecond⟩ := beginResize_client view (min remaining 1) hrightWidth
  obtain ⟨hle', hfocus', hsecond'⟩ :=
    beginResize_precision env view (min (remaining - 1) 1) hrightWidth
  unfold distributeFull
  rw [Ui.bind_ok hmetrics]
  dsimp only
  rw [Ui.bind_ok (subU16_ok (by omega)), Ui.bind_ok (subU16_ok (by omega)),
    Ui.bind_ok (Rect.new_ok (by omega) (by omega)),
    Ui.bind_ok (Rect.new_ok (by omega) (by omega)),
    Ui.bind_ok (Rect.new_ok (by omega) (by omega))]
  refine ⟨_, rfl, ⟨⟨pairwise_toList.2 ?_, forall_mem_toList.2 ?_, if_neg hne, ?_, nofun, ?_, ?_⟩,
    hmode.symm, hfocus, hsecond, hfocus', hsecond', rfl⟩⟩
  · refine ⟨⟨?_, ?_, ?_, ?_⟩, ⟨?_, ?_, ?_⟩, ⟨?_, ?_⟩, ?_⟩ <;>
    · intro cell hcell hcell'
      simp only [Rect.Has, Rect.narrow, Rect.right, Rect.bottom] at hcell hcell' hwhere
      omega
  · refine ⟨?_, ?_, ?_, ?_, ?_⟩ <;>
    · intro cell hcell
      simp only [Rect.Has, Rect.narrow, Rect.right, Rect.bottom] at hcell hwhere ⊢
      omega
  · rw [usageGraphArea, if_neg hne]
    refine Rect.new_eq hx (by dsimp only; omega) hwidth ?_
    rw [← hheight, ← hremaining]
    dsimp only
    omega
  · simp only [Rect.right]
    omega
  · dsimp only
    omega

theorem rightArea_ok (hfits : Fits area) (hne : ¬ area.isEmpty) :
    ∃ right, rightArea area = .ok right ∧ right.x = area.x + (area.width + 1) / 2 + 1
      ∧ right.y = area.y ∧ right.width = area.width - (area.width + 1) / 2 - 1
      ∧ right.height = area.height := by
  have hmax : maxWidth = 21845 := rfl
  have hx := hfits.x_eq
  have hwidth := hfits.width_le hne
  have hbottom := area.bottom_lt
  rw [rightArea, Ui.bind_ok (addU16_ok (by omega))]
  exact ⟨_, Rect.new_ok (by omega) hbottom, rfl, rfl, rfl, rfl⟩

theorem distributeAreas_ok (hfits : Fits area) (view : MainView) :
    ∃ view', view.distributeAreas env area = .ok view'
      ∧ Distributed env area false view view' := by
  unfold distributeAreas
  by_cases hne : area.isEmpty = true
  · rw [if_pos hne]
    have hmode : modeFor area false = .full := by simp [modeFor, hne]
    exact ⟨_, rfl, laid_default (if_pos hne) (if_pos hne), hmode.symm, fun _ => id, rfl,
      fun _ => id, rfl, rfl⟩
  rw [if_neg hne]
  obtain ⟨right, hright, hwhere⟩ := rightArea_ok hfits hne
  rw [Ui.bind_ok hright]
  split_ifs with hsmall
  · have hmode : modeFor area false = .logsOnly := by
      rw [hwhere.2.2.1, hwhere.2.2.2] at hsmall
      simp [modeFor, hne, hsmall]
    exact distributeLogsOnly_ok hfits hne hmode view
  · have hmode : modeFor area false = .full := by
      rw [hwhere.2.2.1, hwhere.2.2.2] at hsmall
      simp [modeFor, hne, hsmall]
    rw [not_or, not_lt, not_lt] at hsmall
    exact distributeFull_ok hfits hne hmode hwhere hsmall.1 hsmall.2 view

theorem distributeAreasExpanded_ok (hfits : Fits area) (view : MainView) :
    ∃ view', view.distributeAreasExpanded area = .ok view'
      ∧ Distributed env area true view view' := by
  unfold distributeAreasExpanded
  split_ifs with hsmall
  · exact ⟨_, rfl, laid_default rfl (if_pos hsmall), rfl, fun _ => id, rfl, fun _ => id, rfl, rfl⟩
  have hmax : maxWidth = 21845 := rfl
  have hlabels : verticalLabelsAreaWidth = 9 := rfl
  have hne : ¬ area.isEmpty := by
    rw [Rect.isEmpty_iff]
    omega
  have hx := hfits.x_eq
  have hy := hfits.y_eq
  have hwidth := hfits.width_le hne
  have hbottom := area.bottom_lt
  rw [Ui.bind_ok (Rect.new_ok (by omega) (by omega))]
  dsimp only
  have hlineWidth : area.width - 2 ≤ maxWidth := by omega
  obtain ⟨hle, hfocus, hsecond⟩ := beginResize_client view 1 hlineWidth
  rw [Ui.bind_ok (Rect.new_ok (by omega) (by omega)),
    Ui.bind_ok (Rect.new_ok (by omega) (by omega)),
    Ui.bind_ok (Rect.new_ok (by omega) (by omega))]
  refine ⟨_, rfl, ⟨⟨pairwise_toList.2 ?_, forall_mem_toList.2 ?_, rfl, ?_, ?_, ?_, ?_⟩,
    rfl, hfocus, hsecond, fun _ => id, rfl, rfl⟩⟩
  · simp only [Areas.default, default_apart, apart_default, and_true, true_and]
    refine ⟨⟨?_, ?_⟩, ?_⟩ <;>
    · intro cell hcell hcell'
      simp only [Rect.Has, Rect.right, Rect.bottom] at hcell hcell'
      omega
  · simp only [Areas.default, default_within, true_and]
    refine ⟨?_, ?_, ?_⟩ <;>
    · intro cell hcell
      simp only [Rect.Has, Rect.right, Rect.bottom] at hcell ⊢
      omega
  · rw [usageGraphArea, if_neg hsmall]
    exact Rect.new_ok (by omega) (by omega)
  · intro _ cell hcellX hcellY hcellWidth hcellHeight hline
    rw [Rect.isEmpty_iff] at hline
    simp only [Rect.right] at hcellX hcellY
    refine ⟨forall_mem_toList.2 ?_, fun hlt => ?_⟩
    · simp only [Areas.default, apart_default, true_and]
      refine ⟨?_, ?_, ?_⟩ <;>
      · intro position hposition hposition'
        simp only [Rect.Has, Rect.right, Rect.bottom] at hposition hposition'
        omega
    · intro position hposition
      simp only [Rect.Has, Rect.right, Rect.bottom] at hposition hlt ⊢
      omega
  · simp only [Rect.right]
    omega
  · dsimp only
    omega

/-- The areas are distributed in either layout. -/
theorem distribute_ok (env : UiEnv) (hfits : Fits area) (expanded : Bool) (view : MainView) :
    ∃ view', (if expanded then view.distributeAreasExpanded area
      else view.distributeAreas env area) = .ok view'
        ∧ Distributed env area expanded view view' := by
  cases expanded with
  | true => exact distributeAreasExpanded_ok hfits view
  | false => exact distributeAreas_ok hfits view

/-- And the parts hold the focus as before. -/
theorem Distributed.parts {expanded b : Bool} (h : Distributed env area expanded view view')
    (hparts : Parts env (holder b view.focusedElement) view) :
    Parts env (holder b view'.focusedElement) view' := by
  have hlog : view'.logBlock = view.logBlock := by rw [h.kept]
  have hfocused : view'.focusedElement = view.focusedElement := by rw [h.kept]
  rw [hfocused]
  refine ⟨hlog ▸ hparts.logBlock, h.clientActivity _ hparts.clientActivity,
    h.graphPrecision _ hparts.graphPrecision, ?_⟩
  rw [h.selector]
  exact hparts.options

/-! ## Resizing -/

theorem isLayoutExpanded_modeFor (area : Rect) (expanded : Bool) :
    decide (modeFor area expanded = .graphExpanded) = expanded := by
  unfold modeFor
  cases expanded with
  | true => rfl
  | false =>
    simp only [Bool.false_eq_true, if_false]
    split_ifs <;> rfl

/-- Every part that has an area was last resized to it. -/
structure InPlace (env : UiEnv) (view : MainView) : Prop where
  logBlock : ¬ view.areas.logBlock.isEmpty →
    (LogBlock.law env).Placed view.areas.logBlock view.logBlock
  usageGraph : ¬ view.areas.usageGraph.isEmpty →
    (UsageGraph.law env).Placed view.areas.usageGraph view.usageGraph
  clientActivity : ¬ view.areas.clientActivityLine.isEmpty →
    clientActivityLaw.Placed view.areas.clientActivityLine view.clientActivityLine
  graphPrecision : ¬ view.areas.graphPrecisionLine.isEmpty →
    (graphPrecisionLaw env).Placed view.areas.graphPrecisionLine view.graphPrecisionLine

theorem InPlace.of_keeps (h : InPlace env view) (hkeeps : Keeps env view view') :
    InPlace env view' := by
  have hareas := hkeeps.areas
  refine ⟨fun hne => ?_, fun hne => ?_, fun hne => ?_, fun hne => ?_⟩ <;> rw [hareas] at hne ⊢
  · exact hkeeps.logBlock _ (h.logBlock hne)
  · exact hkeeps.usageGraph.trans (h.usageGraph hne)
  · exact hkeeps.clientActivity _ (h.clientActivity hne)
  · exact hkeeps.graphPrecision _ (h.graphPrecision hne)

structure Placed (env : UiEnv) (area : Rect) (view : MainView) : Prop where
  fits : Fits area
  laid : Laid area view.layoutMode view.areas
  layoutMode : view.layoutMode = modeFor area view.isLayoutExpanded
  inPlace : InPlace env view

theorem Placed.of_keeps (h : Placed env area view) (hkeeps : Keeps env view view') :
    Placed env area view' where
  fits := h.fits
  laid := by
    rw [hkeeps.areas, hkeeps.layoutMode]
    exact h.laid
  layoutMode := by
    rw [isLayoutExpanded, hkeeps.layoutMode]
    exact h.layoutMode
  inPlace := h.inPlace.of_keeps hkeeps

theorem fits_line (env : UiEnv) {line : Rect} (h : line.x + maxWidth + 1 < 2 ^ 16) :
    clientActivityLaw.Fits line ∧ (graphPrecisionLaw env).Fits line := by
  have hroom : ∀ size space, HorizontalSplit.Sizes maxWidth 1 size space →
      Axis.start .horizontal line + size + space < 2 ^ 16 := by
    rintro size space ⟨hsize, rfl⟩
    simp only [Axis.start]
    omega
  exact ⟨⟨hroom, fun _ _ _ => trivial, fun _ _ _ _ _ => trivial⟩,
    ⟨hroom, fun _ _ _ => trivial, fun _ _ _ _ _ => trivial⟩⟩

/-- What the button's handler knows is for events only to change. -/
theorem resizeVisible_handler {line line' : ClientActivityLine}
    (h : clientActivityElement.toUIElement.resizeVisible area line = .ok line') :
    line'.second.handler = line.second.handler := by
  unfold UIElement.resizeVisible at h
  split_ifs at h
  · rw [Except.ok.inj h]
  · obtain ⟨s, -, h⟩ := bind_eq_ok h
    obtain ⟨area', -, h⟩ := bind_eq_ok h
    obtain rfl := Except.ok.inj h
    rfl

theorem Parts.resizeParts_ok {c : FocusedElement → Bool} (h : Parts env c view)
    {layoutMode : LayoutMode} (hlaid : Laid area layoutMode view.areas) :
    ∃ view', view.resizeParts env = .ok view' ∧ Parts env c view' ∧ InPlace env view'
      ∧ view' = { view with
        logBlock := view'.logBlock
        usageGraph := view'.usageGraph
        metricsDisplay := view'.metricsDisplay
        clientActivityLine := view'.clientActivityLine
        graphPrecisionLine := view'.graphPrecisionLine }
      ∧ view'.logBlock.handler = view.logBlock.handler
      ∧ view'.metricsDisplay = view.metricsDisplay
      ∧ view'.expanded = view.expanded
      ∧ (UsageGraph.element env).resizeVisible view.areas.usageGraph view.usageGraph
        = .ok view'.usageGraph := by
  obtain ⟨logBlock, hlog, hlogFocus, hlogPlaced, hhandler⟩ :=
    (LogBlock.law env).resizeVisible view.areas.logBlock h.logBlock fun _ => trivial
  obtain ⟨usageGraph, hgraph, -, hgraphPlaced, -⟩ :=
    (UsageGraph.law env).resizeVisible view.areas.usageGraph (s := view.usageGraph) rfl
      fun hne hzero => hne (Rect.isEmpty_iff.2 (.inr hzero))
  obtain ⟨metricsDisplay, hmetrics, -, -, hmetricsData⟩ :=
    MetricsDisplay.law.resizeVisible view.areas.metricsDisplay (s := view.metricsDisplay) rfl
      fun _ => trivial
  obtain ⟨line, hline, hlineFocus, hlinePlaced, -⟩ := clientActivityLaw.toLaw.resizeVisible
    view.areas.clientActivityLine h.clientActivity fun _ => (fits_line env hlaid.lines.1).1
  obtain ⟨line', hline', hlineFocus', hlinePlaced', hdata⟩ :=
    (graphPrecisionLaw env).toLaw.resizeVisible view.areas.graphPrecisionLine h.graphPrecision
      fun _ => (fits_line env hlaid.lines.2).2
  have hoptions := (congrArg (fun data => data.2.length) hdata).trans h.options
  refine ⟨{ view with
    logBlock := logBlock
    usageGraph := usageGraph
    metricsDisplay := metricsDisplay
    clientActivityLine := line
    graphPrecisionLine := line' }, ?_, ⟨hlogFocus, hlineFocus, hlineFocus', hoptions⟩,
    ⟨hlogPlaced, hgraphPlaced, hlinePlaced, hlinePlaced'⟩, rfl, hhandler, hmetricsData,
    resizeVisible_handler hline, hgraph⟩
  rw [resizeParts, Ui.bind_ok hlog, Ui.bind_ok hgraph, Ui.bind_ok hmetrics, Ui.bind_ok hline,
    Ui.bind_ok hline']
  rfl

theorem receiveFocus_handler {line line' : ClientActivityLine} {position : ℕ × ℕ} {received : Bool}
    (h : clientActivityElement.receiveFocus position line = .ok (received, line')) :
    line'.second.handler = line.second.handler := by
  obtain ⟨x, -, h⟩ := bind_eq_ok h
  obtain ⟨limit, -, h⟩ := bind_eq_ok h
  dsimp only at h
  split_ifs at h
  · obtain ⟨-, rfl⟩ := Prod.ext_iff.1 (Except.ok.inj h)
    rfl
  · obtain ⟨-, rfl⟩ := Prod.ext_iff.1 (Except.ok.inj h)
    rfl

/-- Neither is the graph, nor whether it is expanded, changed where the focus is. -/
theorem takeFromPart_kept (env : UiEnv) (element : FocusedElement) (view : MainView) :
    (view.takeFromPart env element).usageGraph = view.usageGraph
      ∧ (view.takeFromPart env element).expanded = view.expanded := by
  cases element with
  | expandButton =>
    refine ⟨rfl, ?_⟩
    simp only [expanded, takeFromPart, clientActivityElement, HorizontalSplit.autosizeElement,
      HorizontalSplit.element, Split.element, Split.focusLost]
    split_ifs <;> rfl
  | _ => exact ⟨rfl, rfl⟩

theorem offerPart_kept {element : FocusedElement} {position : ℕ × ℕ} {received : Bool}
    (h : view.offerPart env position element = .ok (received, view')) :
    view'.usageGraph = view.usageGraph ∧ view'.expanded = view.expanded := by
  cases element with
  | expandButton =>
    obtain ⟨⟨received', line⟩, hline, h⟩ := bind_eq_ok h
    obtain ⟨-, rfl⟩ := Prod.ext_iff.1 (Except.ok.inj h)
    exact ⟨rfl, receiveFocus_handler hline⟩
  | _ =>
    obtain ⟨⟨received', s⟩, -, h⟩ := bind_eq_ok h
    obtain ⟨-, rfl⟩ := Prod.ext_iff.1 (Except.ok.inj h)
    exact ⟨rfl, rfl⟩

theorem offerInOrder_kept {position : ℕ × ℕ} {received : Bool} :
    ∀ {order : List FocusedElement} {view : MainView},
      offerInOrder env position order view = .ok (received, view') →
        view'.usageGraph = view.usageGraph ∧ view'.expanded = view.expanded
  | [], view, h => by
    obtain ⟨-, rfl⟩ := Prod.ext_iff.1 (Except.ok.inj h)
    exact ⟨rfl, rfl⟩
  | element :: order, view, h => by
    obtain ⟨⟨received', view₁⟩, hoffer, h⟩ := bind_eq_ok h
    obtain ⟨hgraph, hexpanded⟩ := offerPart_kept hoffer
    dsimp only at h
    split_ifs at h
    · obtain ⟨-, rfl⟩ := Prod.ext_iff.1 (Except.ok.inj h)
      exact ⟨hgraph, hexpanded⟩
    · obtain ⟨hgraph', hexpanded'⟩ := offerInOrder_kept h
      exact ⟨hgraph'.trans hgraph, hexpanded'.trans hexpanded⟩

theorem refocus_kept (h : view.refocus env = .ok view') :
    view'.usageGraph = view.usageGraph ∧ view'.expanded = view.expanded := by
  unfold refocus at h
  split_ifs at h
  · obtain ⟨⟨received, view₁⟩, hreceive, h⟩ := bind_eq_ok h
    obtain ⟨order, -, hoffer⟩ := bind_eq_ok hreceive
    obtain rfl := Except.ok.inj h
    obtain ⟨hgraph, hexpanded⟩ := offerInOrder_kept hoffer
    obtain ⟨hgraph', hexpanded'⟩ :=
      takeFromPart_kept env view.focusedElement { view with isFocused := false }
    exact ⟨hgraph.trans hgraph', hexpanded.trans hexpanded'⟩
  · rw [Except.ok.inj h]
    exact ⟨rfl, rfl⟩

/-- Where the part that has the focus is not in the layout, another one has it then. -/
theorem refocus_ok {b : Bool} (hparts : Parts env (holder b view.focusedElement) view)
    (hfocused : view.isFocused = b) (hroom : view.areas.clientActivityLine.right + 2 < 2 ^ 16) :
    ∃ view', view.refocus env = .ok view' ∧ Focus env b view' ∧ Keeps env view view' := by
  unfold refocus
  rw [hfocused]
  by_cases hvisible : b = true → view.focusedElement.isVisibleIn view.layoutMode = true
  · have hstay : (b && !view.focusedElement.isVisibleIn view.layoutMode) = false := by
      cases b with
      | false => rfl
      | true => rw [hvisible rfl]; rfl
    rw [hstay]
    exact ⟨view, rfl, ⟨hparts, hfocused, hvisible, hroom⟩, Keeps.refl env view⟩
  · obtain ⟨rfl, hhidden⟩ := Classical.not_imp.1 hvisible
    obtain ⟨hlost, hkeeps⟩ := hparts.focusLost hroom
    obtain ⟨view', hreceive, hfocus, hkeeps'⟩ := hlost.receiveFocus (0, 0)
    rw [Bool.not_eq_true] at hhidden
    rw [hhidden]
    exact ⟨view', Ui.bind_ok hreceive _, hfocus, hkeeps.trans hkeeps'⟩

/-- What laying out the view leaves, but for where its parts are. -/
structure Resized (env : UiEnv) (view view' : MainView) : Prop where
  handler : view'.logBlock.handler = view.logBlock.handler
  metricsDisplay : view'.metricsDisplay = view.metricsDisplay
  expanded : view'.expanded = view.expanded
  usageGraph : ¬ view'.areas.usageGraph.isEmpty →
    (UsageGraph.Draws env view'.areas.usageGraph view.usageGraph
      ↔ UsageGraph.Draws env view'.areas.usageGraph view'.usageGraph)

theorem performResize_ok {b : Bool} (hparts : Parts env (holder b view.focusedElement) view)
    (hfocused : view.isFocused = b) (hfits : Fits area) (expanded : Bool) :
    ∃ view', view.performResize env area expanded = .ok view' ∧ Focus env b view'
      ∧ Placed env area view' ∧ view'.layoutMode = modeFor area expanded
      ∧ Resized env view view' := by
  obtain ⟨view₁, hview₁, hdist⟩ := distribute_ok env hfits expanded view
  have hkept := hdist.kept
  have hlog₁ := congrArg MainView.logBlock hkept
  have hgraph₁ := congrArg MainView.usageGraph hkept
  have hmetrics₁ := congrArg MainView.metricsDisplay hkept
  have hisFocused₁ := congrArg MainView.isFocused hkept
  dsimp only at hlog₁ hgraph₁ hmetrics₁ hisFocused₁
  obtain ⟨view₂, hview₂, hparts₂, hinPlace, hkept₂, hhandler₂, hmetrics₂, hexpanded₂, hresize⟩ :=
    (hdist.parts hparts).resizeParts_ok hdist.laid
  have hareas₂ := congrArg MainView.areas hkept₂
  have hmode₂ := congrArg MainView.layoutMode hkept₂
  have hfocusedElement₂ := congrArg MainView.focusedElement hkept₂
  have hisFocused₂ := congrArg MainView.isFocused hkept₂
  dsimp only at hareas₂ hmode₂ hfocusedElement₂ hisFocused₂
  rw [← hfocusedElement₂] at hparts₂
  obtain ⟨view₃, hview₃, hfocus, hkeeps⟩ :=
    refocus_ok hparts₂ (hisFocused₂.trans (hisFocused₁.trans hfocused)) (by
      rw [hareas₂]
      exact hdist.laid.room)
  obtain ⟨hgraph₃, hexpanded₃⟩ := refocus_kept hview₃
  have hplaced : Placed env area view₂ := by
    refine ⟨hfits, ?_, ?_, hinPlace⟩
    · rw [hareas₂, hmode₂]
      exact hdist.laid
    · rw [isLayoutExpanded, hmode₂, hdist.layoutMode, isLayoutExpanded_modeFor]
  refine ⟨view₃, ?_, hfocus, hplaced.of_keeps hkeeps, ?_, ?_, ?_, ?_, fun hne => ?_⟩
  · have hperform : view.performResize env area expanded = (do
        let view ← view₁.resizeParts env
        view.refocus env) := by
      cases expanded with
      | true => exact Ui.bind_ok hview₁ _
      | false => exact Ui.bind_ok hview₁ _
    rw [hperform, Ui.bind_ok hview₂, hview₃]
  · rw [hkeeps.layoutMode, hmode₂, hdist.layoutMode]
  · rw [hkeeps.handler, hhandler₂, hlog₁]
  · rw [hkeeps.metricsDisplay, hmetrics₂, hmetrics₁]
  · rw [hexpanded₃, hexpanded₂, MainView.expanded, hdist.button]
    rfl
  · have hne' : ¬ view₂.areas.usageGraph.isEmpty := by rwa [hkeeps.areas] at hne
    have harea := hinPlace.usageGraph hne'
    rw [hkeeps.areas, hgraph₃]
    rw [hareas₂] at hne' harea ⊢
    rw [UIElement.resizeVisible, if_neg hne', hgraph₁] at hresize
    exact UsageGraph.draws_iff_of_resize hresize harea

/-! ## Drawing -/

/-- There is room for the log where it is to be, and the graph can be drawn where it is. -/
structure Draws (env : UiEnv) (area : Rect) (view : MainView) : Prop where
  logBlock : ∀ r, logBlockArea area (modeFor area view.expanded) = .ok r → ¬ r.isEmpty →
    LogBlock.Draws r view.logBlock
  usageGraph : ∀ r, usageGraphArea area (modeFor area view.expanded) = .ok r → ¬ r.isEmpty →
    UsageGraph.Draws env r view.usageGraph

theorem LogBlock.draws_congr {block block' : LogBlock} (h : block'.handler = block.handler)
    (area : Rect) : LogBlock.Draws area block' ↔ LogBlock.Draws area block := by
  rw [LogBlock.Draws, LogBlock.Draws, h]

theorem relabel_expanded (view : MainView) : view.relabel.expanded = view.expanded := by
  unfold relabel
  by_cases hexpanded : view.expanded = true
  · rw [if_pos hexpanded]
    rfl
  · rw [if_neg hexpanded]
    rfl

theorem Focus.relayoutIfNeeded_ok {b : Bool} (h : Focus env b view)
    (hplaced : Placed env area view) :
    ∃ view', view.relayoutIfNeeded env area = .ok view' ∧ Focus env b view'
      ∧ Placed env area view' ∧ view'.layoutMode = modeFor area view.expanded
      ∧ Resized env view view' := by
  unfold relayoutIfNeeded
  split_ifs with hchanged
  · have hclient : clientActivityLaw.Focus (holder b view.focusedElement .expandButton)
        view.relabel.clientActivityLine := by
      have hsplit := h.parts.clientActivity
      refine ⟨hsplit.sizes, hsplit.room, hsplit.first, ?_⟩
      simp only [relabel]
      split_ifs <;> exact hsplit.second
    have hparts : Parts env (holder b view.relabel.focusedElement) view.relabel :=
      ⟨h.parts.logBlock, hclient, h.parts.graphPrecision, h.parts.options⟩
    obtain ⟨view', hresize, hfocus, hplaced', hmode, hresized⟩ :=
      performResize_ok hparts h.isFocused hplaced.fits view.expanded
    exact ⟨view', hresize, hfocus, hplaced', hmode, hresized.handler, hresized.metricsDisplay,
      hresized.expanded.trans (relabel_expanded view), hresized.usageGraph⟩
  · refine ⟨view, rfl, h, hplaced, ?_, rfl, rfl, rfl, fun _ => Iff.rfl⟩
    rw [not_not.1 hchanged]
    exact hplaced.layoutMode

/-- The cell between the lines is apart from the areas of a view that is laid out. -/
theorem separator_ok {expanded : Bool} (hlaid : Laid area view.layoutMode view.areas)
    (hmode : view.layoutMode = modeFor area expanded) :
    ∃ cells cell, view.separator area expanded = .ok cells ∧ cells.Pairwise Rect.Apart
      ∧ (∀ r ∈ cells, r.Within cell) ∧ cell.Within area
      ∧ ∀ r ∈ view.areas.toList, cell.Apart r := by
  have hroom := hlaid.room
  have hbottom := view.areas.clientActivityLine.bottom_lt
  have hnone : ∃ cells cell, (pure [] : Ui (List Rect)) = .ok cells ∧ cells.Pairwise Rect.Apart
      ∧ (∀ r ∈ cells, r.Within cell) ∧ cell.Within area
      ∧ ∀ r ∈ view.areas.toList, cell.Apart r :=
    ⟨[], .default, rfl, .nil, by simp, default_within area, fun r _ => default_apart r⟩
  unfold separator
  split_ifs with hshown
  · rw [Bool.and_eq_true, Bool.not_eq_true'] at hshown
    obtain ⟨rfl, hne⟩ := hshown
    have hheight : view.areas.clientActivityLine.height ≠ 0 := fun hzero =>
      Bool.eq_false_iff.1 hne (Rect.isEmpty_iff.2 (.inr hzero))
    rw [Ui.bind_ok (addU16_ok (by omega))]
    split_ifs with hlt
    · have hcellRight : view.areas.clientActivityLine.right + 1 + 1 < 2 ^ 16 := hroom
      have hcellBottom : view.areas.clientActivityLine.y + 1 < 2 ^ 16 := by omega
      obtain ⟨hapart, hwithin⟩ := hlaid.separator hmode
        ⟨view.areas.clientActivityLine.right + 1, view.areas.clientActivityLine.y, 1, 1,
          hcellRight, hcellBottom⟩ rfl rfl rfl rfl (Bool.eq_false_iff.1 hne)
      rw [Ui.bind_ok (Rect.new_ok hcellRight hcellBottom)]
      exact ⟨_, _, rfl, Rect.pairwise_apart_whole, Rect.whole_within, hwithin hlt, hapart⟩
    · exact hnone
  · exact hnone

/-- The lines are drawn anywhere, as are the metrics. -/
theorem line_draws (env : UiEnv) (area : Rect) (line : ClientActivityLine)
    (line' : GraphPrecisionLine) :
    clientActivityLaw.Draws area line ∧ (graphPrecisionLaw env).Draws area line' :=
  ⟨⟨fun _ => trivial, fun _ _ _ => trivial⟩, ⟨fun _ => trivial, fun _ _ _ => trivial⟩⟩

theorem Focus.render_iff {b : Bool} (h : Focus env b view) (hplaced : Placed env area view) :
    (∃ r, view.render env area = .ok r) ↔ Draws env area view := by
  obtain ⟨view', hrelayout, hfocus, hplaced', hmode, hresized⟩ := h.relayoutIfNeeded_ok hplaced
  have hlogArea := hmode ▸ hplaced'.laid.logBlock
  have hgraphArea := hmode ▸ hplaced'.laid.usageGraph
  have hlog := (LogBlock.law env).renderVisible_iff hfocus.parts.logBlock hplaced'.inPlace.logBlock
  have hgraph := (UsageGraph.law env).renderVisible_iff (s := view'.usageGraph) (b := false) rfl
    hplaced'.inPlace.usageGraph
  constructor
  · rintro ⟨r, hr⟩
    obtain ⟨view'', hview'', hr⟩ := bind_eq_ok hr
    obtain rfl := Except.ok.inj (hrelayout.symm.trans hview'')
    obtain ⟨⟨drawn₁, logBlock⟩, hdrawn₁, hr⟩ := bind_eq_ok hr
    obtain ⟨⟨drawn₂, usageGraph⟩, hdrawn₂, -⟩ := bind_eq_ok hr
    refine ⟨fun area' harea' hne => ?_, fun area' harea' hne => ?_⟩
    · obtain rfl := Except.ok.inj (hlogArea.symm.trans harea')
      exact (LogBlock.draws_congr hresized.handler _).1 (hlog.1 ⟨_, hdrawn₁⟩ hne)
    · obtain rfl := Except.ok.inj (hgraphArea.symm.trans harea')
      exact (hresized.usageGraph hne).2 (hgraph.1 ⟨_, hdrawn₂⟩ hne)
  · intro hdraws
    obtain ⟨⟨drawn₁, logBlock⟩, hdrawn₁⟩ := hlog.2 fun hne =>
      (LogBlock.draws_congr hresized.handler _).2 (hdraws.logBlock _ hlogArea hne)
    obtain ⟨⟨drawn₂, usageGraph⟩, hdrawn₂⟩ := hgraph.2 fun hne =>
      (hresized.usageGraph hne).1 (hdraws.usageGraph _ hgraphArea hne)
    have hmetrics : MetricsDisplay.law.Focus false view'.metricsDisplay := rfl
    have hmetricsPlaced : ¬ view'.areas.metricsDisplay.isEmpty →
        MetricsDisplay.law.Placed view'.areas.metricsDisplay view'.metricsDisplay :=
      fun _ => trivial
    obtain ⟨⟨drawn₃, metricsDisplay⟩, hdrawn₃⟩ :=
      (MetricsDisplay.law.renderVisible_iff hmetrics hmetricsPlaced).2 fun _ => trivial
    obtain ⟨⟨drawn₄, line⟩, hdrawn₄⟩ := (clientActivityLaw.toLaw.renderVisible_iff
      hfocus.parts.clientActivity hplaced'.inPlace.clientActivity).2
      fun _ => (line_draws env _ _ view'.graphPrecisionLine).1
    obtain ⟨cells, cell, hcells, -⟩ := separator_ok hplaced'.laid hmode
    obtain ⟨⟨drawn₆, line'⟩, hdrawn₆⟩ := ((graphPrecisionLaw env).toLaw.renderVisible_iff
      hfocus.parts.graphPrecision hplaced'.inPlace.graphPrecision).2
      fun _ => (line_draws env _ view'.clientActivityLine _).2
    unfold MainView.render
    dsimp only
    rw [Ui.bind_ok hrelayout, Ui.bind_ok hdrawn₁, Ui.bind_ok hdrawn₂, Ui.bind_ok hdrawn₃,
      Ui.bind_ok hdrawn₄, Ui.bind_ok hcells, Ui.bind_ok hdrawn₆]
    exact ⟨_, rfl⟩

/-- Nothing that is drawn is at the same place as another, the cell between the lines included. -/
theorem Laid.drawn_apart {layoutMode : LayoutMode} {areas : Areas} {cell : Rect}
    (h : Laid area layoutMode areas) (hcell : ∀ r ∈ areas.toList, cell.Apart r) :
    [areas.logBlock, areas.usageGraph, areas.metricsDisplay, areas.clientActivityLine, cell,
      areas.graphPrecisionLine].Pairwise Rect.Apart := by
  obtain ⟨hlog, hgraph, hmetrics, hline⟩ := pairwise_toList.1 h.apart
  obtain ⟨hcellLog, hcellGraph, hcellMetrics, hcellLine, hcellLine'⟩ := forall_mem_toList.1 hcell
  simp only [List.pairwise_cons, List.forall_mem_cons, List.not_mem_nil, false_imp_iff,
    implies_true, List.Pairwise.nil, and_true]
  exact ⟨⟨hlog.1, hlog.2.1, hlog.2.2.1, hcellLog.symm, hlog.2.2.2⟩,
    ⟨hgraph.1, hgraph.2.1, hcellGraph.symm, hgraph.2.2⟩,
    ⟨hmetrics.1, hcellMetrics.symm, hmetrics.2⟩, ⟨hcellLine.symm, hline⟩, hcellLine'⟩

theorem Laid.drawn_within {layoutMode : LayoutMode} {areas : Areas} {cell : Rect}
    (h : Laid area layoutMode areas) (hcell : cell.Within area) :
    ∀ r ∈ [areas.logBlock, areas.usageGraph, areas.metricsDisplay, areas.clientActivityLine, cell,
      areas.graphPrecisionLine], r.Within area := by
  obtain ⟨hlog, hgraph, hmetrics, hline, hline'⟩ := forall_mem_toList.1 h.within
  simp only [List.forall_mem_cons, List.not_mem_nil, false_imp_iff, implies_true, and_true]
  exact ⟨hlog, hgraph, hmetrics, hline, hcell, hline'⟩

theorem Focus.render {b : Bool} {drawn : List Rect} (h : Focus env b view)
    (hplaced : Placed env area view) (hrender : view.render env area = .ok (drawn, view')) :
    Focus env b view' ∧ Placed env area view' ∧ view'.logBlock.handler = view.logBlock.handler
      ∧ view'.metricsDisplay = view.metricsDisplay ∧ drawn.Pairwise Rect.Apart
      ∧ ∀ r ∈ drawn, r.Within area := by
  obtain ⟨view₁, hrelayout, hfocus, hplaced', hmode, hresized⟩ := h.relayoutIfNeeded_ok hplaced
  obtain ⟨view₂, hview₂, hrender⟩ := bind_eq_ok hrender
  obtain rfl := Except.ok.inj (hrelayout.symm.trans hview₂)
  obtain ⟨⟨drawn₁, logBlock⟩, hdrawn₁, hrender⟩ := bind_eq_ok hrender
  obtain ⟨⟨drawn₂, usageGraph⟩, hdrawn₂, hrender⟩ := bind_eq_ok hrender
  obtain ⟨⟨drawn₃, metricsDisplay⟩, hdrawn₃, hrender⟩ := bind_eq_ok hrender
  obtain ⟨⟨drawn₄, line⟩, hdrawn₄, hrender⟩ := bind_eq_ok hrender
  obtain ⟨cells', hcells', hrender⟩ := bind_eq_ok hrender
  obtain ⟨⟨drawn₆, line'⟩, hdrawn₆, hrender⟩ := bind_eq_ok hrender
  obtain ⟨rfl, rfl⟩ := Prod.ext_iff.1 (Except.ok.inj hrender)
  obtain ⟨cells, cell, hcells, hcellsApart, hinCell, hcellWithin, hcellApart⟩ :=
    separator_ok hplaced'.laid hmode
  obtain rfl := Except.ok.inj (hcells.symm.trans hcells')
  obtain ⟨hfocus₁, hplaced₁, hhandler, hdraw₁⟩ := (LogBlock.law env).renderVisible
    hfocus.parts.logBlock hplaced'.inPlace.logBlock hdrawn₁
  obtain ⟨-, hplaced₂, -, hdraw₂⟩ := (UsageGraph.law env).renderVisible (b := false) rfl
    hplaced'.inPlace.usageGraph hdrawn₂
  obtain ⟨-, -, hmetrics, hdraw₃⟩ := MetricsDisplay.law.renderVisible (b := false) rfl
    (fun _ => trivial) hdrawn₃
  obtain ⟨hfocus₄, hplaced₄, -, hdraw₄⟩ := clientActivityLaw.toLaw.renderVisible
    hfocus.parts.clientActivity hplaced'.inPlace.clientActivity hdrawn₄
  obtain ⟨hfocus₆, hplaced₆, hdata, hdraw₆⟩ := (graphPrecisionLaw env).toLaw.renderVisible
    hfocus.parts.graphPrecision hplaced'.inPlace.graphPrecision hdrawn₆
  have hoptions := (congrArg (fun data => data.2.length) hdata).trans hfocus.parts.options
  have hdraws : List.Forall₂ (fun area drawn => drawn.Pairwise Rect.Apart
      ∧ ∀ r ∈ drawn, r.Within area) [view₁.areas.logBlock, view₁.areas.usageGraph,
        view₁.areas.metricsDisplay, view₁.areas.clientActivityLine, cell,
        view₁.areas.graphPrecisionLine] [drawn₁, drawn₂, drawn₃, drawn₄, cells, drawn₆] :=
    .cons hdraw₁ (.cons hdraw₂ (.cons hdraw₃ (.cons hdraw₄
      (.cons ⟨hcellsApart, hinCell⟩ (.cons hdraw₆ .nil)))))
  have hflatten : drawn₁ ++ drawn₂ ++ drawn₃ ++ drawn₄ ++ cells ++ drawn₆
      = [drawn₁, drawn₂, drawn₃, drawn₄, cells, drawn₆].flatten := by
    simp only [List.flatten_cons, List.flatten_nil, List.append_nil, List.append_assoc]
  rw [hflatten]
  exact ⟨⟨⟨hfocus₁, hfocus₄, hfocus₆, hoptions⟩, hfocus.isFocused, hfocus.visible, hfocus.room⟩,
    ⟨hplaced'.fits, hplaced'.laid, hplaced'.layoutMode, hplaced₁, hplaced₂, hplaced₄, hplaced₆⟩,
    hhandler.trans hresized.handler, hmetrics.trans hresized.metricsDisplay,
    Rect.pairwise_apart_flatten hdraws (hplaced'.laid.drawn_apart hcellApart),
    Rect.within_flatten hdraws (hplaced'.laid.drawn_within hcellWithin)⟩

/-! ## As an element -/

theorem Parts.marks_eq {b : Bool} (h : Parts env (holder b view.focusedElement) view) :
    (LogBlock.law env).marks view.logBlock + clientActivityLaw.marks view.clientActivityLine
      + (graphPrecisionLaw env).marks view.graphPrecisionLine = b.toNat := by
  rw [(LogBlock.law env).marks_eq h.logBlock, clientActivityLaw.marks_eq h.clientActivity,
    (graphPrecisionLaw env).marks_eq h.graphPrecision]
  cases b <;> cases view.focusedElement <;> rfl

/-- The main view always takes the focus. It can be drawn where its log and its graph can. -/
def law (env : UiEnv) : (element env).Law (LogListHandler × Metrics) where
  data view := (view.logBlock.handler, view.metricsDisplay)
  marks view := (LogBlock.law env).marks view.logBlock
    + clientActivityLaw.marks view.clientActivityLine
    + (graphPrecisionLaw env).marks view.graphPrecisionLine
  Focus := Focus env
  Placed := Placed env
  Fits := Fits
  Draws := Draws env
  Eager := True
  marks_eq h := h.parts.marks_eq
  resize {b view area} h hfits := by
    obtain ⟨view', hresize, hfocus, hplaced, -, hresized⟩ :=
      performResize_ok h.parts h.isFocused hfits view.expanded
    exact ⟨view', hresize, hfocus, hplaced, Prod.ext hresized.handler hresized.metricsDisplay⟩
  render_iff h hplaced := h.render_iff hplaced
  render h hplaced hrender := by
    obtain ⟨hfocus, hplaced', hhandler, hmetrics, hdrawn⟩ := h.render hplaced hrender
    exact ⟨hfocus, hplaced', Prod.ext hhandler hmetrics, hdrawn⟩
  handleEvent event hc h := by
    obtain ⟨status, view', hevent, hfocus, hkeeps, hpasses⟩ := h.handleEvent event hc
    exact ⟨status, view', hevent, hfocus, fun _ hplaced => hplaced.of_keeps hkeeps,
      Prod.ext hkeeps.handler hkeeps.metricsDisplay, hpasses⟩
  receiveFocus position h := by
    obtain ⟨view', hreceive, hfocus, hkeeps⟩ := h.receiveFocus position
    exact ⟨true, view', hreceive, hfocus, fun _ hplaced => hplaced.of_keeps hkeeps,
      Prod.ext hkeeps.handler hkeeps.metricsDisplay, fun _ => rfl⟩
  focusLost h := by
    obtain ⟨hfocus, hkeeps⟩ := h.parts.focusLost h.room
    exact ⟨hfocus, fun _ hplaced => hplaced.of_keeps hkeeps,
      Prod.ext hkeeps.handler hkeeps.metricsDisplay⟩

/-! ## What is streamed -/

theorem sizes_room (size space : ℕ) (h : HorizontalSplit.Sizes maxWidth 1 size space) :
    Axis.start .horizontal .default + size + space < 2 ^ 16 := by
  obtain ⟨hsize, rfl⟩ := h
  have hmax : maxWidth = 21845 := rfl
  simp only [Axis.start, Rect.default]
  omega

theorem focus_new (history : UsageTracker) (metrics : Metrics) :
    Focus env false (new env history metrics) := by
  have hlabel : clientActivityLabel.length ≤ maxWidth := by decide
  have hlabel' : graphPrecisionLabel.length ≤ maxWidth := by decide
  have hselected : 0 < precisionOptions.length := by decide
  exact ⟨⟨LogBlock.focus_new, ⟨⟨hlabel, rfl⟩, sizes_room, rfl, rfl⟩,
    ⟨⟨hlabel', rfl⟩, sizes_room, rfl, rfl, hselected, fun index hindex =>
      absurd hindex List.not_mem_nil⟩, rfl⟩, rfl, nofun, (by decide : 0 + 2 < 2 ^ 16)⟩

/-- What the graph is told changes no other part. -/
theorem Focus.withUsageGraph {b : Bool} (h : Focus env b view) {usageGraph : UsageGraph}
    (harea : usageGraph.currentArea = view.usageGraph.currentArea) :
    Focus env b { view with usageGraph := usageGraph }
      ∧ ∀ area, Placed env area view → Placed env area { view with usageGraph := usageGraph } :=
  ⟨⟨⟨h.parts.logBlock, h.parts.clientActivity, h.parts.graphPrecision, h.parts.options⟩,
    h.isFocused, h.visible, h.room⟩, fun _ hplaced => ⟨hplaced.fits, hplaced.laid,
      hplaced.layoutMode, hplaced.inPlace.logBlock,
      fun hne => harea.trans (hplaced.inPlace.usageGraph hne), hplaced.inPlace.clientActivity,
      hplaced.inPlace.graphPrecision⟩⟩

theorem recordUsage_currentArea {graph graph' : UsageGraph} {timestamp : ℤ} {usage : UsageMeasure}
    (h : graph.recordUsage env.growth timestamp usage = .ok graph') :
    graph'.currentArea = graph.currentArea := by
  obtain ⟨history, -, h⟩ := bind_eq_ok h
  obtain rfl := Except.ok.inj h
  rfl

theorem recordEvent_currentArea {graph graph' : UsageGraph} {event : Event}
    (h : recordEvent env event graph = .ok graph') : graph'.currentArea = graph.currentArea := by
  unfold recordEvent at h
  split at h
  · exact recordUsage_currentArea h
  · exact recordUsage_currentArea h
  · obtain rfl := Except.ok.inj h
    rfl

theorem Focus.tick {b : Bool} (h : Focus env b view) {timestampNow : ℤ} {usageGraph : UsageGraph}
    (htick : view.usageGraph.tick env.growth timestampNow = .ok usageGraph) :
    Focus env b { view with usageGraph := usageGraph }
      ∧ ∀ area, Placed env area view → Placed env area { view with usageGraph := usageGraph } := by
  refine h.withUsageGraph ?_
  unfold UsageGraph.tick at htick
  split_ifs at htick
  · exact recordUsage_currentArea htick
  · obtain rfl := Except.ok.inj htick
    rfl

/-- A streamed event leaves the focus, and where everything is, as they were. -/
theorem Focus.newStreamEvent {b : Bool} (h : Focus env b view) {event : Event}
    (hevent : view.newStreamEvent env event = .ok view') :
    Focus env b view' ∧ (∀ area, Placed env area view → Placed env area view')
      ∧ view'.logBlock = view.logBlock.newStreamEvent event := by
  obtain ⟨metricsDisplay, -, hevent⟩ := bind_eq_ok hevent
  obtain ⟨usageGraph, hgraph, hevent⟩ := bind_eq_ok hevent
  obtain rfl := Except.ok.inj hevent
  have hparts : (LogBlock.law env).Focus (holder b view.focusedElement .logBlock)
      view.logBlock := h.parts.logBlock
  obtain ⟨hlog, harea⟩ := LogBlock.Focus.newStreamEvent hparts event
  obtain ⟨hfocus, hplaced⟩ := h.withUsageGraph (recordEvent_currentArea hgraph)
  refine ⟨⟨⟨hlog, h.parts.clientActivity, h.parts.graphPrecision, h.parts.options⟩, h.isFocused,
    h.visible, h.room⟩, fun area hin => ?_, rfl⟩
  obtain ⟨hfits, hlaid, hmode, hinPlace⟩ := hplaced area hin
  exact ⟨hfits, hlaid, hmode, fun hne => harea.trans (hinPlace.logBlock hne), hinPlace.usageGraph,
    hinPlace.clientActivity, hinPlace.graphPrecision⟩

end MainView

end DustDevil
