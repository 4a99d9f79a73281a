import DustDevil.Proofs.LongList

/-!
# Rendering a long list

A render that does not panic draws nothing outside of its area. It panics exactly where the border
leaves no line to the list, where the center item has no lines, and where there is a single item
which does not fit, as the scrollbar then divides by zero (`renders_iff`).
-/

namespace DustDevil

open Wire

variable {Line ε : Type}

/-- What is drawn is inside of an area. -/
def Drawn.Inside (area : Rect) : Drawn Line → Prop
  | .block _ blockArea => blockArea = area
  | .line x y _ width => area.x ≤ x ∧ x + width ≤ area.x + area.width
    ∧ area.y ≤ y ∧ y < area.y + area.height
  | .cell x y _ => area.x ≤ x ∧ x < area.x + area.width ∧ area.y ≤ y ∧ y < area.y + area.height

namespace LongList

/-! ### The scrollbar -/

section Scrollbar

variable {area : Rect} {lowestIndex highestIndex itemCount : ℕ}

theorem checkedSub_ok {a b : ℕ} (h : b ≤ a) : checkedSub (ε := ε) a b = .ok (a - b) := if_pos h

theorem roundedDivide_ok (a : ℕ) {b : ℕ} (h : b ≠ 0) :
    roundedDivide (ε := ε) a b = .ok ((a + b / 2) / b) := if_neg h

theorem rounded_le {a b c : ℕ} (hb : 0 < b) (h : a ≤ c * b) : (a + b / 2) / b ≤ c := by
  refine Nat.le_of_lt_succ ((Nat.div_lt_iff_lt_mul hb).2 ?_)
  rw [Nat.succ_mul]
  omega

theorem inside_column {x y length : ℕ} {symbol : Char} (hx : area.x ≤ x)
    (hx' : x < area.x + area.width) (hy : area.y ≤ y) (hy' : y + length ≤ area.y + area.height) :
    ∀ d ∈ (column x y symbol length : List (Drawn Line)), d.Inside area := by
  intro d hd
  obtain ⟨i, hi, rfl⟩ := List.mem_map.1 hd
  rw [List.mem_range] at hi
  exact ⟨hx, hx', by omega, by omega⟩

theorem renderScrollbar_panics (lowestIndex highestIndex : ℕ) :
    (renderScrollbar area lowestIndex highestIndex 1 : Except (Stop ε) (List (Drawn Line)))
      = .error .panic := rfl

theorem renderScrollbar_ok (Line : Type) (hheight : 3 ≤ area.height) (hwidth : 1 ≤ area.width)
    (hcount : 2 ≤ itemCount) (hindex : highestIndex < itemCount) (lowestIndex : ℕ) :
    ∃ drawn : List (Drawn Line),
      renderScrollbar (ε := ε) area lowestIndex highestIndex itemCount = .ok drawn
        ∧ ∀ d ∈ drawn, d.Inside area := by
  have hhighest : (highestIndex * (area.height - 2) + (itemCount - 1) / 2) / (itemCount - 1)
      ≤ area.height - 2 := by
    refine rounded_le (by omega) ?_
    rw [Nat.mul_comm]
    exact Nat.mul_le_mul_left _ (by omega)
  simp only [renderScrollbar, checkedSub_ok (show 1 ≤ itemCount by omega),
    roundedDivide_ok _ (show itemCount - 1 ≠ 0 by omega), bind, Except.bind, pure, Except.pure]
  generalize (lowestIndex * (area.height - 2) + (itemCount - 1) / 2) / (itemCount - 1) = low
  generalize (highestIndex * (area.height - 2) + (itemCount - 1) / 2) / (itemCount - 1) = high
    at hhighest ⊢
  rw [checkedSub_ok (by omega), checkedSub_ok (by omega)]
  simp only
  rw [checkedSub_ok (by omega)]
  refine ⟨_, rfl, fun d hd => ?_⟩
  simp only [List.mem_append] at hd
  obtain (((hd | hd) | hd) | hd) | hd := hd
  all_goals exact inside_column (by omega) (by omega) (by omega) (by omega) d hd

end Scrollbar

/-! ### The render -/

/-- As calls leave a list that is drawn in the area that it was last resized to: the lines that are
kept are as the handler gives them for what the block leaves of that area, and there are none where
it leaves nothing. -/
structure Drawable (handler : LongListHandler Line) (block : BlockInner) (list : LongList Line) :
    Prop where
  selected_lt : ∀ index, list.selectedIndex = some index → index < list.itemCount
  isSome : ∀ i < list.itemCount,
    (handler.getItemLines i (block.inner list.currentArea).width).isSome
  cached : ∃ first last, Cached handler (block.inner list.currentArea).width list.itemCount
    (linesOf handler (block.inner list.currentArea).width) first last list.lines
  empty : (block.inner list.currentArea).isEmpty → list.lines = []

/-- The render does not panic, and draws inside of its area. -/
def Renders (handler : LongListHandler Line) (search : KeySearch (Line × ℕ)) (block : BlockInner)
    (area : Rect) (list : LongList Line) : Prop :=
  ∃ drawn list', list.render (ε := Empty) handler search block area = .ok (drawn, list')
    ∧ ∀ d ∈ drawn, d.Inside area

section Render

variable {handler : LongListHandler Line} {search : KeySearch (Line × ℕ)} {block : BlockInner}
  {area : Rect} {list list' : LongList Line} {lines : List Line}

/-- The block, and the lines within it. -/
def drawnLines (block : BlockInner) (area : Rect) (title : StaticString) (lines : List Line) :
    List (Drawn Line) :=
  .block title area :: lines.mapIdx fun i line =>
    .line (block.inner area).x ((block.inner area).y + i) line (block.inner area).width

theorem inside_drawnLines (title : StaticString)
    (hlines : lines.length ≤ (block.inner area).height) :
    ∀ d ∈ drawnLines block area title lines, d.Inside area := by
  intro d hd
  obtain rfl | hd := List.mem_cons.1 hd
  · rfl
  · obtain ⟨i, hi, rfl⟩ := List.mem_mapIdx.1 hd
    obtain ⟨hx, hright⟩ := block.x_le area
    obtain ⟨hy, hbottom⟩ := block.y_le area
    exact ⟨hx, hright, by omega, by omega⟩

theorem render_eq (block : BlockInner) (area : Rect)
    (hprocess : list.processLines (ε := ε) handler search list.centerItemIndex
      (block.inner area) = .ok (lines, list')) :
    list.render (ε := ε) handler search block area
      = if (block.inner area).height ≤ list'.lines.length then do
          let lowestIndex ← unwrapItem list'.lines.head?
          let highestIndex ← unwrapItem list'.lines.getLast?
          if 0 < lowestIndex ∨ highestIndex + 1 < list'.itemCount
              ∨ (block.inner area).height < list'.lines.length then do
            let scrollbar ← renderScrollbar area lowestIndex highestIndex list'.itemCount
            pure (drawnLines block area list.title lines ++ scrollbar, list')
          else pure (drawnLines block area list.title lines, list')
        else pure (drawnLines block area list.title lines, list') := by
  simp only [render, hprocess]
  rfl

theorem not_renders_of_error (stop : Stop Empty)
    (h : list.render (ε := Empty) handler search block area = .error stop) :
    ¬ Renders handler search block area list := by
  rintro ⟨drawn, list', hrender, -⟩
  rw [h] at hrender
  cases hrender

/-- Where the lines that are kept do not fill the view, there is no scrollbar. -/
theorem renders_of_lt (hprocess : list.processLines (ε := Empty) handler search
      list.centerItemIndex (block.inner area) = .ok (lines, list'))
    (hlt : list'.lines.length < (block.inner area).height)
    (hlines : lines.length ≤ (block.inner area).height) :
    Renders handler search block area list := by
  refine ⟨_, list', ?_, inside_drawnLines list.title hlines⟩
  rw [render_eq block area hprocess, if_neg (Nat.not_le_of_lt hlt)]
  rfl

theorem not_renders_of_nil (hprocess : list.processLines (ε := Empty) handler search
      list.centerItemIndex (block.inner area) = .ok (lines, list'))
    (hheight : (block.inner area).height = 0) (hnil : list'.lines = []) :
    ¬ Renders handler search block area list := by
  refine not_renders_of_error .panic ?_
  rw [render_eq block area hprocess, if_pos (hheight ▸ Nat.zero_le _), hnil]
  rfl

theorem unwrapItem_of_mem {o : Option (Line × ℕ)} {line : Line × ℕ} (h : o = some line) :
    unwrapItem (ε := ε) o = .ok line.2 := by
  rw [h]
  rfl

/-- The first and the last one of the lines that are kept are of items that are in view. -/
theorem exists_ends {g : ℕ → List Line} {first last : ℕ} {kept : List (Line × ℕ)}
    (hsnd : kept.map Prod.snd = (blocks g first last).map Prod.snd) (hne : kept ≠ []) :
    ∃ lowestIndex highestIndex, unwrapItem (ε := ε) kept.head? = .ok lowestIndex
      ∧ unwrapItem (ε := ε) kept.getLast? = .ok highestIndex
      ∧ (first ≤ lowestIndex ∧ lowestIndex < last)
      ∧ first ≤ highestIndex ∧ highestIndex < last := by
  have hmem (line : Line × ℕ) (hline : line ∈ kept) : first ≤ line.2 ∧ line.2 < last := by
    have hitem := List.mem_map_of_mem (f := Prod.snd) hline
    rw [hsnd, List.mem_map] at hitem
    obtain ⟨line', hline', heq⟩ := hitem
    obtain ⟨hfirst, hlast, -⟩ := mem_blocks.1 hline'
    exact ⟨heq ▸ hfirst, heq ▸ hlast⟩
  exact ⟨(kept.head hne).2, (kept.getLast hne).2, unwrapItem_of_mem (List.head?_eq_some_head hne),
    unwrapItem_of_mem (List.getLast?_eq_some_getLast hne), hmem _ (List.head_mem hne),
    hmem _ (List.getLast_mem hne)⟩

theorem length_drawKept_le (height : ℕ) (kept : List (Line × ℕ)) (skipped : ℕ)
    (list : LongList Line) : (drawKept handler height kept skipped list).1.length ≤ height := by
  rw [drawKept, length_drawLines, List.length_take]
  exact Nat.min_le_left ..

theorem renders_of_ends {lowestIndex highestIndex : ℕ}
    (hprocess : list.processLines (ε := Empty) handler search list.centerItemIndex
      (block.inner area) = .ok (lines, list'))
    (hlines : lines.length ≤ (block.inner area).height)
    (hlowest : unwrapItem (ε := Empty) list'.lines.head? = .ok lowestIndex)
    (hhighest : unwrapItem (ε := Empty) list'.lines.getLast? = .ok highestIndex)
    (hheight : 3 ≤ area.height) (hwidth : 1 ≤ area.width)
    (hindex : highestIndex < list'.itemCount) (hlt : lowestIndex < list'.itemCount) :
    Renders handler search block area list
      ↔ ¬ (list'.itemCount = 1 ∧ (block.inner area).height < list'.lines.length) := by
  have hinside : ∀ d ∈ drawnLines block area list.title lines, d.Inside area :=
    inside_drawnLines list.title hlines
  obtain hfew | hmany := Nat.lt_or_ge list'.lines.length (block.inner area).height
  · exact iff_of_true (renders_of_lt hprocess hfew hlines) (by omega)
  have hrender := render_eq block area hprocess
  rw [if_pos hmany, hlowest, hhighest] at hrender
  simp only [bind, Except.bind] at hrender
  by_cases hscrollbar : 0 < lowestIndex ∨ highestIndex + 1 < list'.itemCount
    ∨ (block.inner area).height < list'.lines.length
  · rw [if_pos hscrollbar] at hrender
    obtain hone | hcount : list'.itemCount = 1 ∨ 2 ≤ list'.itemCount := by omega
    · rw [hone, renderScrollbar_panics] at hrender
      refine iff_of_false (not_renders_of_error .panic hrender) (not_not.2 ⟨hone, ?_⟩)
      omega
    · obtain ⟨scrollbar, hok, hscrollbar⟩ :=
        renderScrollbar_ok Line (ε := Empty) hheight hwidth hcount hindex lowestIndex
      rw [hok] at hrender
      refine iff_of_true ⟨_, list', hrender, fun d hd => ?_⟩ (by omega)
      obtain hd | hd := List.mem_append.1 hd
      · exact hinside d hd
      · exact hscrollbar d hd
  · rw [if_neg hscrollbar] at hrender
    exact iff_of_true ⟨_, list', hrender, hinside⟩ (by omega)

/-- Where the center item has no lines, none of it can be found. -/
theorem processLines_of_nil {first last item : ℕ}
    (h : Cached handler area.width list.itemCount (linesOf handler area.width) first last
      list.lines)
    (hall : ∀ i < list.itemCount, (handler.getItemLines i area.width).isSome)
    (harea : ¬ area.isEmpty) (hitem : item < list.itemCount)
    (hnil : linesOf handler area.width item = []) (search : KeySearch (Line × ℕ)) :
    list.processLines (ε := ε) handler search item area = .error .panic := by
  have hcount : ¬ (list.itemCount = 0 ∨ area.isEmpty) := by
    rintro (hzero | hempty)
    · omega
    · exact harea hempty
  have hcenter : Viewport.center (ε := ε) handler search item area.width area.height list.lines
      = .error .panic := by
    cases hsearch : search.search Prod.snd item list.lines with
    | ok index =>
      obtain ⟨-, -, m, hm, -⟩ := h.exists_index hsearch
      rw [hnil] at hm
      exact absurd hm (Nat.not_lt_zero m)
    | error index =>
      rw [center_of_error hsearch (getItemLines_eq hall hitem), if_pos (by simp [hnil])]
  simp only [processLines, if_neg hcount, hcenter]
  rfl

/-- Without items or room for them, nothing is kept. -/
theorem Drawable.lines_eq_nil (h : Drawable handler block list)
    (hempty : list.itemCount = 0 ∨ (block.inner list.currentArea).isEmpty) : list.lines = [] := by
  obtain hzero | hempty := hempty
  · obtain ⟨first, last, hcached⟩ := h.cached
    have hle := hcached.le
    have hlast := hcached.last_le
    obtain ⟨rfl, rfl⟩ : first = 0 ∧ last = 0 := by omega
    rw [hcached.lines_eq, blocks_self]
  · exact h.empty hempty

/-- Some lines are drawn, and those of some items around the center item are kept. -/
theorem Drawable.processLines (h : Drawable handler block list) (hcount : list.itemCount ≠ 0)
    (harea : ¬ (block.inner list.currentArea).isEmpty)
    (hne : linesOf handler (block.inner list.currentArea).width list.centerItemIndex ≠ [])
    (search : KeySearch (Line × ℕ)) :
    ∃ lines list' first last,
      list.processLines (ε := ε) handler search list.centerItemIndex (block.inner list.currentArea)
          = .ok (lines, list')
        ∧ lines.length ≤ (block.inner list.currentArea).height ∧ list'.itemCount = list.itemCount
        ∧ list'.lines.map Prod.snd
          = (blocks (linesOf handler (block.inner list.currentArea).width) first last).map Prod.snd
        ∧ first ≤ list.centerItemIndex ∧ list.centerItemIndex < last ∧ last ≤ list.itemCount := by
  have hcenter := centerItemIndex_lt h.selected_lt hcount
  obtain ⟨first, last, hcached⟩ := h.cached
  obtain ⟨g, e, hg, -, hfill, hprocess⟩ := hcached.processLines (ε := ε)
    h.isSome harea hcenter hne search
  obtain rfl : g = linesOf handler (block.inner list.currentArea).width := hg.elim id id
  obtain ⟨haround, -⟩ := Extent.around_of_fill hcenter hfill
  exact ⟨_, _, e.lower, e.next, hprocess, length_drawKept_le .., rfl, map_snd_drawKept ..,
    haround.lower_le, haround.lt_next, haround.next_le⟩

theorem Drawable.renders_iff_of_ne_nil (h : Drawable handler block list)
    (hcount : list.itemCount ≠ 0) (hheight : 3 ≤ list.currentArea.height)
    (hwidth : 3 ≤ list.currentArea.width)
    (hne : linesOf handler (block.inner list.currentArea).width list.centerItemIndex ≠ []) :
    Renders handler search block list.currentArea list
      ↔ ¬ (list.itemCount = 1 ∧ (block.inner list.currentArea).height
        < (linesOf handler (block.inner list.currentArea).width 0).length) := by
  have hinner := block.height_eq list.currentArea
  have hinner' := block.width_eq list.currentArea
  have harea : ¬ (block.inner list.currentArea).isEmpty := by
    rw [Rect.isEmpty_iff]
    omega
  obtain ⟨lines, list', first, last, hprocess, hlines, hcount', hsnd, hfirst, hcenter, hlast⟩ :=
    h.processLines (ε := Empty) hcount harea hne search
  have hkept : list'.lines ≠ [] := by
    rintro hnil
    obtain ⟨line, hline⟩ := List.exists_mem_of_ne_nil _ hne
    have hmem : (line, list.centerItemIndex)
        ∈ blocks (linesOf handler (block.inner list.currentArea).width) first last :=
      mem_blocks.2 ⟨hfirst, hcenter, hline⟩
    rw [hnil, List.map_nil, eq_comm, List.map_eq_nil_iff] at hsnd
    exact List.ne_nil_of_mem hmem hsnd
  obtain ⟨lowestIndex, highestIndex, hlowest, hhighest, hlow, hhigh⟩ :=
    exists_ends (ε := Empty) hsnd hkept
  rw [renders_of_ends hprocess hlines hlowest hhighest hheight (by omega) (by omega) (by omega),
    hcount']
  refine not_congr (and_congr_right fun hone => ?_)
  obtain ⟨rfl, rfl⟩ : first = 0 ∧ last = 1 := by omega
  have hlength := congrArg List.length hsnd
  rw [List.length_map, blocks_succ, List.length_map, List.length_map] at hlength
  rw [hlength]

theorem renders_iff (h : Drawable handler block list) :
    Renders handler search block list.currentArea list
      ↔ 3 ≤ list.currentArea.height
        ∧ (3 ≤ list.currentArea.width → list.itemCount ≠ 0 →
          linesOf handler (list.currentArea.width - 2) list.centerItemIndex ≠ []
          ∧ (list.itemCount = 1 →
            (linesOf handler (list.currentArea.width - 2) 0).length
              ≤ list.currentArea.height - 2)) := by
  have hheight := block.height_eq list.currentArea
  have hwidth := block.width_eq list.currentArea
  rw [← hwidth, ← hheight]
  by_cases hempty : list.itemCount = 0 ∨ (block.inner list.currentArea).isEmpty
  · have hprocess : list.processLines (ε := Empty) handler search list.centerItemIndex
        (block.inner list.currentArea) = .ok ([], list) := if_pos hempty
    have hnil := h.lines_eq_nil hempty
    rw [Rect.isEmpty_iff] at hempty
    by_cases hroom : 3 ≤ list.currentArea.height
    · refine iff_of_true (renders_of_lt hprocess ?_ (Nat.zero_le _)) ⟨hroom, by omega⟩
      rw [hnil, hheight]
      exact Nat.sub_pos_of_lt hroom
    · exact iff_of_false (not_renders_of_nil hprocess (by omega) hnil) fun hiff => hroom hiff.1
  · obtain ⟨hcount, harea⟩ := not_or.1 hempty
    rw [Rect.isEmpty_iff] at harea
    have hroom : 3 ≤ list.currentArea.height := by omega
    have hroom' : 3 ≤ list.currentArea.width := by omega
    by_cases hnil : linesOf handler (block.inner list.currentArea).width list.centerItemIndex = []
    · obtain ⟨first, last, hcached⟩ := h.cached
      refine iff_of_false (not_renders_of_error .panic ?_)
        fun hiff => (hiff.2 hroom' hcount).1 hnil
      have hpanic := processLines_of_nil (ε := Empty) hcached h.isSome
        (fun hempty' => hempty (.inr hempty')) (centerItemIndex_lt h.selected_lt hcount) hnil search
      simp only [render, hpanic]
      rfl
    · rw [h.renders_iff_of_ne_nil hcount hroom hroom' hnil]
      constructor
      · exact fun hfits => ⟨hroom, fun _ _ => ⟨hnil, fun hone =>
          Nat.le_of_not_lt fun hlt => hfits ⟨hone, hlt⟩⟩⟩
      · exact fun hiff hfits => Nat.not_lt_of_le ((hiff.2 hroom' hcount).2 hfits.1) hfits.2

/-- A list of one item with nothing kept. -/
def single : LongList Unit := { new (.static []) 1 false false with currentArea := fourLines }

/-- A handler of items with five lines each. -/
def fiveLinesHandler : LongListHandler Unit :=
  { unitHandler with getItemLines := fun _ _ => some (List.replicate 5 ()) }

theorem drawable_single {handler : LongListHandler Unit}
    (hall : ∀ i < 1, (handler.getItemLines i 2).isSome) : Drawable handler .bordered single where
  selected_lt _ h := absurd h (Option.some_ne_none _).symm
  isSome := hall
  cached := ⟨0, 0, cached_nil hall⟩
  empty _ := rfl

theorem renders_iff_single :
    Renders unitHandler (.first _) .bordered fourLines single :=
  (renders_iff (drawable_single fun _ _ => rfl)).2
    ⟨by decide, fun _ _ => ⟨by decide, fun _ => by decide⟩⟩

/-- An item with more lines than there is room for is the only one. -/
theorem not_renders_single :
    Drawable fiveLinesHandler .bordered single
      ∧ ¬ Renders fiveLinesHandler (.first _) .bordered fourLines single :=
  ⟨drawable_single fun _ _ => rfl, not_renders_of_error .panic rfl⟩

end Render

end LongList

end DustDevil
