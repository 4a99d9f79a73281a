import DustDevil.Client.MainView
import DustDevil.Proofs.LogBlock
import DustDevil.Proofs.Logger
import DustDevil.Proofs.LongListRender
import DustDevil.Proofs.UiElement

/-!
# What the main view shows

The parts of the main view keep to the rules: the log, which has an event selected while it has the
focus, and which cannot be drawn where there is no room for it; and the graph and the metrics, which
never take the focus.
-/

namespace DustDevil

open Wire

/-! ## The focus of a list -/

namespace LongList

variable {Line ε : Type} {list list' : LongList Line}

@[simp] theorem select_selectedIndex (list : LongList Line) (selectedIndex : Option ℕ) :
    (list.select selectedIndex).selectedIndex = selectedIndex := by
  unfold select
  split_ifs with hne
  · rfl
  · exact (not_not.1 hne).symm

@[simp] theorem select_deselectOnRemove (list : LongList Line) (selectedIndex : Option ℕ) :
    (list.select selectedIndex).deselectOnRemove = list.deselectOnRemove := by
  unfold select
  split_ifs <;> rfl

theorem isSome_of_ne_zero {itemCount : ℕ} (h : itemCount ≠ 0) (selectLastFirst : Bool) :
    (indexOfFirst itemCount).isSome ∧ (indexOfLast itemCount).isSome
      ∧ (selectionStartIndex selectLastFirst itemCount).isSome := by
  simp only [indexOfFirst, indexOfLast, selectionStartIndex, if_neg h]
  refine ⟨rfl, rfl, ?_⟩
  split_ifs <;> rfl

theorem stepSelection_isSome (h : list.selectedIndex.isSome) (limit : Option ℕ)
    (move : ℕ → ℕ → ℕ) : (list.stepSelection limit move).1.isSome := by
  obtain ⟨selectedIndex, hselected⟩ := Option.isSome_iff_exists.1 h
  unfold stepSelection
  rw [hselected]
  cases limit with
  | none => rfl
  | some limit =>
    dsimp only
    split_ifs <;> rfl

/-- An event takes the selection away from no list, and gives none to one that is not focused. -/
theorem Valid.handleEvent_isSome {b c : Bool} (h : Valid list)
    (hfocus : list.selectedIndex.isSome = b) (handler : LongListHandler Line) (event : TuiEvent)
    (hc : c = true → b = true) :
    (list.handleEvent handler event c).2.selectedIndex.isSome = b
      ∧ (list.handleEvent handler event c).2.deselectOnRemove = list.deselectOnRemove
      ∧ (c = false → (list.handleEvent handler event c).1.passes = false) := by
  cases c with
  | false =>
    cases event with
    | mouse mouseEvent => exact ⟨hfocus, rfl, fun _ => rfl⟩
    | key keyEvent => exact ⟨hfocus, rfl, fun _ => rfl⟩
    | other => exact ⟨hfocus, rfl, fun _ => rfl⟩
  | true =>
    obtain rfl := hc rfl
    obtain ⟨selectedIndex, hselected⟩ := Option.isSome_iff_exists.1 hfocus
    have hcount : list.itemCount ≠ 0 := (Nat.zero_lt_of_lt (h.selected_lt _ hselected)).ne'
    obtain ⟨hfirst, hlast, -⟩ := isSome_of_ne_zero hcount list.selectLastFirst
    cases event with
    | other => exact ⟨hfocus, rfl, nofun⟩
    | mouse mouseEvent =>
      simp only [LongList.handleEvent, LongList.handleMouseEvent]
      cases mouseEvent.kind <;> simp [hselected]
    | key keyEvent =>
      simp only [LongList.handleEvent, LongList.handleKeyEvent]
      split
      · exact ⟨hfocus, rfl, nofun⟩
      split
      · exact ⟨hfocus, rfl, nofun⟩
      split
      · exact ⟨hfocus, rfl, nofun⟩
      cases keyEvent.code with
      | up => simpa using stepSelection_isSome hfocus _ _
      | down => simpa using stepSelection_isSome hfocus _ _
      | pageUp => simp [hselected]
      | pageDown =>
        obtain ⟨last, hlast⟩ := Option.isSome_iff_exists.1 hlast
        simp [hselected, hlast]
      | home => simpa using hfirst
      | endKey => simpa using hlast
      | enter =>
        dsimp only
        split <;> exact ⟨hfocus, rfl, nofun⟩
      | _ => exact ⟨hfocus, rfl, nofun⟩

theorem receiveFocus_isSome (list : LongList Line) (h : list.selectedIndex.isSome = false) :
    list.receiveFocus.2.selectedIndex.isSome = list.receiveFocus.1
      ∧ list.receiveFocus.2.deselectOnRemove = list.deselectOnRemove := by
  unfold receiveFocus
  split
  · exact ⟨rfl, rfl⟩
  · exact ⟨h, rfl⟩

theorem focusLost_isSome (list : LongList Line) :
    list.focusLost.selectedIndex.isSome = false
      ∧ list.focusLost.deselectOnRemove = list.deselectOnRemove := by
  unfold focusLost
  split_ifs with h
  · exact ⟨rfl, rfl⟩
  · exact ⟨Bool.not_eq_true _ ▸ h, rfl⟩

theorem setItemCount_isSome (list : LongList Line) {itemCount : ℕ} (hcount : itemCount ≠ 0) :
    (list.setItemCount itemCount).selectedIndex.isSome = list.selectedIndex.isSome
      ∧ (list.setItemCount itemCount).deselectOnRemove = list.deselectOnRemove := by
  obtain ⟨-, hlast, -⟩ := isSome_of_ne_zero hcount false
  obtain ⟨last, hlast⟩ := Option.isSome_iff_exists.1 hlast
  unfold setItemCount
  split_ifs
  · exact ⟨rfl, rfl⟩
  · cases hselected : list.selectedIndex <;> simp [redrawNotify, hlast]

/-- A list that keeps the selection when its item is removed has one for as long as it has items. -/
theorem onItemRemoved_isSome (list : LongList Line) (index : ℕ)
    (hkeeps : list.deselectOnRemove = false) (hcount : list.itemCount - 1 ≠ 0) :
    (list.onItemRemoved index).selectedIndex.isSome = list.selectedIndex.isSome
      ∧ (list.onItemRemoved index).deselectOnRemove = list.deselectOnRemove := by
  refine ⟨?_, rfl⟩
  unfold onItemRemoved redrawNotify
  cases hselected : list.selectedIndex with
  | none => rfl
  | some selectedIndex =>
    dsimp only
    rw [if_neg (by simp [hkeeps, hcount])]
    split_ifs <;> rfl

/-- A render changes the lines that are kept, and nothing else. -/
theorem render_kept {handler : LongListHandler Line} {search : KeySearch (Line × ℕ)}
    {block : BlockInner} {area : Rect} {drawn : List (Drawn Line)}
    (h : list.render (ε := ε) handler search block area = .ok (drawn, list')) :
    list' = { list with lines := list'.lines } := by
  obtain ⟨⟨lines, list''⟩, hprocess, -⟩ := bind_eq_ok h
  rw [render_snd hprocess h]
  unfold processLines at hprocess
  split_ifs at hprocess
  · obtain ⟨-, rfl⟩ := Prod.ext_iff.1 (Except.ok.inj hprocess)
    rfl
  · obtain ⟨view, -, hprocess⟩ := bind_eq_ok hprocess
    obtain ⟨view', -, hprocess⟩ := bind_eq_ok hprocess
    obtain ⟨-, rfl⟩ := Prod.ext_iff.1 (Except.ok.inj hprocess)
    rfl

end LongList

/-! ## The log -/

namespace LogBlock

variable {env : UiEnv} {b : Bool} {block : LogBlock} {area : Rect}

/-- The log shows an item as selected while it has the focus, which it keeps when the item goes. -/
structure Focus (env : UiEnv) (b : Bool) (block : LogBlock) : Prop where
  selected : block.list.selectedIndex.isSome = b
  keeps : block.list.deselectOnRemove = false
  shows : Shows env.borders block

/-- There is room for the events, or for the only one that there is. -/
def Draws (area : Rect) (block : LogBlock) : Prop :=
  3 ≤ area.height ∧ ∀ event, block.handler.eventHistory = [event] → 3 ≤ area.width →
    (eventLines block.handler.localDateTime (area.width - 2) event).length ≤ area.height - 2

theorem focus_new : Focus env false (new env.localDateTime) := ⟨rfl, rfl, shows_new⟩

theorem Focus.pushBack (h : Focus env b block) (event : Event) :
    Focus env b (block.pushBack event)
      ∧ (block.pushBack event).list.currentArea = block.list.currentArea := by
  have hcount : (block.handler.eventHistory ++ [event]).length ≠ 0 := by simp
  obtain ⟨hselected, hkeeps⟩ := block.list.setItemCount_isSome hcount
  refine ⟨⟨hselected.trans h.selected, hkeeps.trans h.keeps, h.shows.pushBack event⟩, ?_⟩
  unfold LogBlock.pushBack LongList.setItemCount
  dsimp only
  split_ifs <;> rfl

theorem Focus.popFront (h : Focus env b block) (hmany : 2 ≤ block.handler.eventHistory.length) :
    Focus env b block.popFront ∧ block.popFront.list.currentArea = block.list.currentArea := by
  have hcount := h.shows.itemCount
  obtain ⟨hselected, hkeeps⟩ := block.list.onItemRemoved_isSome 0 h.keeps (by omega)
  have hne : block.handler.eventHistory ≠ [] := List.length_pos_iff.1 (by omega)
  exact ⟨⟨hselected.trans h.selected, hkeeps.trans h.keeps, h.shows.popFront hne⟩, rfl⟩

theorem Focus.newStreamEvent (h : Focus env b block) (event : Event) :
    Focus env b (block.newStreamEvent event)
      ∧ (block.newStreamEvent event).list.currentArea = block.list.currentArea := by
  unfold LogBlock.newStreamEvent
  split_ifs with hignores hfull
  · exact ⟨h, rfl⟩
  · have hmany : 2 ≤ maximumEventHistoryLength := by decide
    obtain ⟨hpopped, harea⟩ := h.popFront (hmany.trans hfull)
    obtain ⟨hpushed, harea'⟩ := hpopped.pushBack event
    exact ⟨hpushed, harea'.trans harea⟩
  · exact h.pushBack event

theorem render_element {r : List (Drawn (Line LogStyle)) × LongList (Line LogStyle)}
    (h : block.list.render (ε := Empty) block.handler.items env.search env.borders area = .ok r) :
    (element env).render area block = .ok ([area], { block with list := r.2 }) := by
  have hblock : block.render env.search env.borders area = .ok (r.1, { block with list := r.2 }) :=
    Ui.bind_ok h _
  exact Ui.bind_ok hblock _

theorem exists_of_render {r : List Rect × LogBlock} (h : (element env).render area block = .ok r) :
    ∃ drawn list', block.list.render (ε := Empty) block.handler.items env.search env.borders area
        = .ok (drawn, list') ∧ r = ([area], { block with list := list' }) := by
  obtain ⟨⟨drawn, block'⟩, hblock, h⟩ := bind_eq_ok h
  obtain ⟨⟨drawn', list'⟩, hlist, hblock⟩ := bind_eq_ok hblock
  obtain ⟨rfl, rfl⟩ := Prod.ext_iff.1 (Except.ok.inj hblock)
  exact ⟨drawn', list', hlist, (Except.ok.inj h).symm⟩

theorem Focus.render_iff (h : Focus env b block) (hplaced : block.list.currentArea = area) :
    (∃ r, (element env).render area block = .ok r) ↔ Draws area block := by
  subst hplaced
  have hlist : (∃ r, (element env).render block.list.currentArea block = .ok r)
      ↔ ∃ r, block.list.render (ε := Empty) block.handler.items env.search env.borders
        block.list.currentArea = .ok r :=
    ⟨fun ⟨r, hr⟩ => let ⟨drawn, list', hlist, _⟩ := exists_of_render hr; ⟨_, hlist⟩,
      fun ⟨r, hr⟩ => ⟨_, render_element hr⟩⟩
  rw [hlist, h.shows.legible.render_iff (preserves_items _), Draws, h.shows.itemCount]
  refine and_congr_right fun _ => ⟨fun hfits event hevent hwidth => ?_, fun hfits hwidth hone => ?_⟩
  · have hpos : 0 < block.handler.eventHistory.length := by simp [hevent]
    have hlines := getItemLines_items hpos (block.list.currentArea.width - 2)
    have hle := hfits hwidth (by simp [hevent])
    simpa [LongList.linesOf, hlines, hevent] using hle
  · obtain ⟨event, hevent⟩ := List.length_eq_one_iff.1 hone
    have hpos : 0 < block.handler.eventHistory.length := by simp [hevent]
    have hlines := getItemLines_items hpos (block.list.currentArea.width - 2)
    have hle := hfits event hevent hwidth
    simpa [LongList.linesOf, hlines, hevent] using hle

theorem Focus.render {drawn : List Rect} {block' : LogBlock} (h : Focus env b block)
    (hplaced : block.list.currentArea = area)
    (hrender : (element env).render area block = .ok (drawn, block')) :
    Focus env b block' ∧ block'.list.currentArea = area ∧ block'.handler = block.handler
      ∧ drawn = [area] := by
  subst hplaced
  obtain ⟨drawn, list', hlist, heq⟩ := exists_of_render hrender
  obtain ⟨rfl, rfl⟩ := Prod.ext_iff.1 heq
  obtain ⟨hlegible, hcount⟩ := h.shows.legible.render (preserves_items _) hlist
  have hkept := LongList.render_kept hlist
  refine ⟨⟨?_, ?_, hcount.trans h.shows.itemCount, hlegible⟩, ?_, rfl, rfl⟩
  · rw [hkept]
    exact h.selected
  · rw [hkept]
    exact h.keeps
  · rw [hkept]

def law (env : UiEnv) : (element env).Law LogListHandler where
  data block := block.handler
  marks block := block.list.selectedIndex.isSome.toNat
  Focus := Focus env
  Placed area block := block.list.currentArea = area
  Fits _ := True
  Draws := Draws
  Eager := False
  marks_eq h := by rw [h.selected]
  resize {b block area} h _ := by
    have hplace : InPlace block (.resize area) := trivial
    have hstep : step env.search env.borders block (.resize area) = some (block.resize area) := rfl
    have hshows := h.shows.step hplace hstep
    refine ⟨_, rfl, ⟨?_, ?_, hshows⟩, ?_, rfl⟩
    all_goals unfold LogBlock.resize LongList.resize
    · split_ifs <;> exact h.selected
    · split_ifs <;> exact h.keeps
    · split_ifs <;> rfl
  render_iff h hplaced := h.render_iff hplaced
  render h hplaced hrender := by
    obtain ⟨hfocus, harea, hhandler, rfl⟩ := h.render hplaced hrender
    exact ⟨hfocus, harea, hhandler, Rect.pairwise_apart_whole, Rect.whole_within⟩
  handleEvent {b c block} event hc h := by
    have hvalid := LongList.valid_of_map h.shows.legible.valid
    have hlist := hvalid.handleEvent block.handler.items event.tui c
    obtain ⟨hselected, hkeeps, hpasses⟩ :=
      hvalid.handleEvent_isSome h.selected block.handler.items event.tui hc
    exact ⟨_, _, rfl, ⟨hselected, hkeeps.trans h.keeps, h.shows.of_reselected hlist⟩,
      fun _ => hlist.currentArea_eq.trans, rfl, hpasses⟩
  receiveFocus {block} position h := by
    have hlist := (LongList.valid_of_map h.shows.legible.valid).receiveFocus
    obtain ⟨hselected, hkeeps⟩ := block.list.receiveFocus_isSome h.selected
    exact ⟨_, _, rfl, ⟨hselected, hkeeps.trans h.keeps, h.shows.of_reselected hlist⟩,
      fun _ => hlist.currentArea_eq.trans, rfl, False.elim⟩
  focusLost {block} h := by
    have hlist := (LongList.valid_of_map h.shows.legible.valid).focusLost
    obtain ⟨hselected, hkeeps⟩ := block.list.focusLost_isSome
    exact ⟨⟨hselected, hkeeps.trans h.keeps, h.shows.of_reselected hlist⟩,
      fun _ => hlist.currentArea_eq.trans, rfl⟩

end LogBlock

/-! ## The graph and the metrics -/

namespace UsageGraph

variable {env : UiEnv} {graph graph' : UsageGraph} {area : Rect}

theorem resize_self (graph : UsageGraph) : graph.resize graph.currentArea = .ok graph :=
  if_neg (not_not.2 rfl)

theorem resize_ok (graph : UsageGraph) (h : area.height ≠ 0) :
    ∃ graph', graph.resize area = .ok graph' ∧ graph'.currentArea = area := by
  unfold resize
  dsimp only
  split_ifs
  · rw [Ui.bind_ok (subU16_ok (Nat.one_le_iff_ne_zero.2 h))]
    exact ⟨_, rfl, rfl⟩
  · exact ⟨_, rfl, rfl⟩

/-- Once it is resized there, the graph can be drawn. -/
def Draws (env : UiEnv) (area : Rect) (graph : UsageGraph) : Prop :=
  ∃ graph' r, graph.resize area = .ok graph' ∧ graph'.render env.localTime area = .ok r

theorem draws_iff_of_resize (h : graph.resize area = .ok graph')
    (harea : graph'.currentArea = area) :
    Draws env area graph ↔ Draws env area graph' := by
  have hself := graph'.resize_self
  rw [harea] at hself
  unfold Draws
  rw [h, hself]

theorem draws_iff (harea : graph.currentArea = area) :
    Draws env area graph ↔ ∃ r, graph.render env.localTime area = .ok r := by
  subst harea
  refine ⟨fun ⟨graph', r, hresize, hrender⟩ => ?_, fun ⟨r, hr⟩ => ⟨graph, r, graph.resize_self, hr⟩⟩
  obtain rfl := Except.ok.inj (graph.resize_self.symm.trans hresize)
  exact ⟨r, hrender⟩

theorem render_currentArea {r : Option DrawnGraph × UsageGraph}
    (h : graph.render env.localTime area = .ok r) : r.2.currentArea = graph.currentArea := by
  unfold render at h
  split_ifs at h
  · obtain rfl := Except.ok.inj h
    rfl
  · obtain ⟨plotArea, -, h⟩ := bind_eq_ok h
    obtain ⟨⟨units, history⟩, -, h⟩ := bind_eq_ok h
    obtain ⟨plot, -, h⟩ := bind_eq_ok h
    obtain ⟨verticalAxisArea, -, h⟩ := bind_eq_ok h
    obtain ⟨⟨vertical, verticalAxis⟩, -, h⟩ := bind_eq_ok h
    obtain ⟨horizontalAxisArea, -, h⟩ := bind_eq_ok h
    obtain ⟨⟨horizontal, horizontalAxis⟩, -, h⟩ := bind_eq_ok h
    obtain rfl := Except.ok.inj h
    rfl

theorem exists_of_render {r : List Rect × UsageGraph}
    (h : (element env).render area graph = .ok r) :
    ∃ r', graph.render env.localTime area = .ok r' ∧ r = ([area], r'.2) := by
  obtain ⟨r', hr', h⟩ := bind_eq_ok h
  exact ⟨r', hr', (Except.ok.inj h).symm⟩

/-- The graph takes no focus. -/
def law (env : UiEnv) : (element env).Law Unit where
  data _ := ()
  marks _ := 0
  Focus b _ := b = false
  Placed area graph := graph.currentArea = area
  Fits area := area.height ≠ 0
  Draws := Draws env
  Eager := False
  marks_eq h := by rw [h]; rfl
  resize {b graph area} h hfits := by
    obtain ⟨graph', hresize, harea⟩ := graph.resize_ok hfits
    exact ⟨graph', hresize, h, harea, rfl⟩
  render_iff {b graph area} _ hplaced := by
    rw [draws_iff hplaced]
    constructor
    · rintro ⟨r, hr⟩
      obtain ⟨r', hr', -⟩ := exists_of_render hr
      exact ⟨r', hr'⟩
    · rintro ⟨r, hr⟩
      exact ⟨_, Ui.bind_ok hr _⟩
  render {b graph area drawn graph'} h hplaced hrender := by
    obtain ⟨r, hr, heq⟩ := exists_of_render hrender
    obtain ⟨rfl, rfl⟩ := Prod.ext_iff.1 heq
    exact ⟨h, (render_currentArea hr).trans hplaced, rfl, Rect.pairwise_apart_whole,
      Rect.whole_within⟩
  handleEvent _ _ h := ⟨_, _, rfl, h, fun _ => id, rfl, fun _ => rfl⟩
  receiveFocus _ h := ⟨_, _, rfl, h, fun _ => id, rfl, False.elim⟩
  focusLost h := absurd h.symm Bool.false_ne_true

end UsageGraph

/-- Nor do the metrics, which are drawn anywhere. -/
def MetricsDisplay.law : MetricsDisplay.element.Law Metrics where
  data display := display
  marks _ := 0
  Focus b _ := b = false
  Placed _ _ := True
  Fits _ := True
  Draws _ _ := True
  Eager := False
  marks_eq h := by rw [h]; rfl
  resize h _ := ⟨_, rfl, h, trivial, rfl⟩
  render_iff _ _ := iff_of_true ⟨_, rfl⟩ trivial
  render h _ hrender := by
    obtain ⟨rfl, rfl⟩ := Prod.ext_iff.1 (Except.ok.inj hrender)
    exact ⟨h, trivial, rfl, Rect.pairwise_apart_whole, Rect.whole_within⟩
  handleEvent _ _ h := ⟨_, _, rfl, h, fun _ => id, rfl, fun _ => rfl⟩
  receiveFocus _ h := ⟨_, _, rfl, h, fun _ => id, rfl, False.elim⟩
  focusLost h := absurd h.symm Bool.false_ne_true

end DustDevil
