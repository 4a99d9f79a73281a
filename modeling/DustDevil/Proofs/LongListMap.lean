import DustDevil.Proofs.LongListCache
import DustDevil.Proofs.LongListWindow

/-!
# What a long list shows of its lines

A handler may leave a line other than it was when it takes back how it draws the selected item. Of
what it leaves alone, here a function of a line, the lines that a list keeps are as the handler
gives them, and a render draws the window of all lines that is around the center item
(`Legible.render_window`).
-/

namespace DustDevil

open Wire

variable {Line Text ε : Type}

def Drawn.map (f : Line → Text) : Drawn Line → Drawn Text
  | .block title area => .block title area
  | .line x y text width => .line x y (f text) width
  | .cell x y symbol => .cell x y symbol

namespace LongList

variable {f : Line → Text} {handler handler' : LongListHandler Line} {block : BlockInner}
  {search : KeySearch (Line × ℕ)} {list list' : LongList Line}

/-- What is drawn of a line as selected, or as unselected again, is the line for `f`. -/
structure Preserves (handler : LongListHandler Line) (f : Line → Text) : Prop where
  selected : ∀ i line number, f (handler.modifyLineToSelected i line number) = f line
  unselected : ∀ i line number, f (handler.modifyLineToUnselected i line number) = f line

def map (f : Line → Text) (list : LongList Line) : LongList Text where
  currentArea := list.currentArea
  title := list.title
  lines := list.lines.map (Prod.map f id)
  itemCount := list.itemCount
  selectedIndex := list.selectedIndex
  selectLastFirst := list.selectLastFirst
  deselectOnRemove := list.deselectOnRemove
  redrawNotified := list.redrawNotified

/-- The handler of what `f` gives of the lines, which are drawn as they are. -/
def texts (handler : LongListHandler Line) (f : Line → Text) : LongListHandler Text where
  getItemLines index width := (handler.getItemLines index width).map (List.map f)
  modifyLineToSelected _ line _ := line
  modifyLineToUnselected _ line _ := line
  onEnter := handler.onEnter

theorem restores_texts : Restores (texts handler f) := fun _ _ _ => rfl

theorem givesLines_texts {width itemCount : ℕ} :
    GivesLines (texts handler f) width itemCount ↔ GivesLines handler width itemCount := by
  refine forall₂_congr fun i _ => ?_
  simp [texts]

theorem linesOf_texts (width item : ℕ) :
    linesOf (texts handler f) width item = (linesOf handler width item).map f := by
  simp only [linesOf, texts]
  cases handler.getItemLines item width <;> rfl

/-! ### Calls -/

theorem rdropWhile_map (lines : List (Line × ℕ)) (itemCount : ℕ) :
    (lines.map (Prod.map f id)).rdropWhile (fun line => itemCount ≤ line.2)
      = (lines.rdropWhile fun line => itemCount ≤ line.2).map (Prod.map f id) := by
  simp only [List.rdropWhile, ← List.map_reverse, List.dropWhile_map]
  rfl

theorem map_setItemCount (itemCount : ℕ) :
    (list.setItemCount itemCount).map f = (list.map f).setItemCount itemCount := by
  unfold setItemCount
  split_ifs with h h' h'
  · rfl
  · exact absurd h h'
  · exact absurd h' h
  · simp only [map, redrawNotify, rdropWhile_map]

theorem indexInLines_map (index : ℕ) (lines : List (Line × ℕ)) :
    indexInLines index (lines.map (Prod.map f id)) = indexInLines index lines := by
  unfold indexInLines
  simp only [List.takeWhile_map, List.length_map, List.getElem?_map, Option.map_map]
  rfl

theorem removeLines_map (index : ℕ) (lines : List (Line × ℕ)) :
    removeLines index (lines.map (Prod.map f id))
      = (removeLines index lines).map (Prod.map f id) := by
  unfold removeLines
  simp only [indexInLines_map]
  cases indexInLines index lines with
  | some i =>
    simp only [← List.map_take, ← List.map_drop, List.dropWhile_map, List.map_append, List.map_map]
    rfl
  | none =>
    have hhead : ((lines.map (Prod.map f id)).head?.any fun line => index < line.2)
        = lines.head?.any fun line => index < line.2 := by
      cases lines <;> rfl
    simp only [hhead]
    split_ifs
    · simp only [List.map_map]
      rfl
    · rfl

theorem map_onItemRemoved (index : ℕ) :
    (list.onItemRemoved index).map f = (list.map f).onItemRemoved index := by
  simp only [map, onItemRemoved, redrawNotify, removeLines_map]
  rfl

theorem map_resize (area : Rect) : (list.resize area).map f = (list.map f).resize area := by
  unfold resize
  split_ifs with h h' h'
  · rfl
  · exact absurd h h'
  · exact absurd h' h
  · rfl

/-! ### Renders -/

theorem drawLines_map (hpreserves : Preserves handler f) (selectedIndex : Option ℕ) :
    ∀ (previous : Option ℕ) (number : UInt16) (lines : List (Line × ℕ)),
      drawLines (texts handler f) selectedIndex previous number (lines.map (Prod.map f id))
        = Prod.map (List.map f) (List.map (Prod.map f id))
          (drawLines handler selectedIndex previous number lines)
  | _, _, [] => rfl
  | previous, number, (line, item) :: lines => by
    simp only [List.map_cons, Prod.map_apply, id_eq, drawLines, drawLines_map hpreserves]
    split_ifs <;> simp [texts, hpreserves.selected, hpreserves.unselected]

theorem drawKept_map (hpreserves : Preserves handler f) (height : ℕ) (kept : List (Line × ℕ))
    (skipped : ℕ) :
    drawKept (texts handler f) height (kept.map (Prod.map f id)) skipped (list.map f)
      = Prod.map (List.map f) (map f) (drawKept handler height kept skipped list) := by
  simp only [drawKept, ← List.map_drop, ← List.map_take]
  simp only [drawLines_map hpreserves, Prod.map_fst, Prod.map_snd, Prod.map_apply, map,
    List.map_append]

/-- Lines that are for `f` those of some items are so many lines of each of these. -/
theorem exists_blocks_of_map {h : ℕ → List Text} {first last : ℕ} (hle : first ≤ last) :
    ∀ {lines : List (Line × ℕ)}, lines.map (Prod.map f id) = blocks h first last →
      ∃ g, lines = blocks g first last ∧ ∀ i, first ≤ i → i < last → (g i).map f = h i := by
  induction last, hle using Nat.le_induction with
  | base =>
    intro lines hlines
    rw [blocks_self, List.map_eq_nil_iff] at hlines
    exact ⟨fun _ => [], by rw [hlines, blocks_self], fun i hi hi' => by omega⟩
  | succ last hle ih =>
    intro lines hlines
    rw [blocks_snoc hle, List.map_eq_append_iff] at hlines
    obtain ⟨before, after, rfl, hbefore, hafter⟩ := hlines
    obtain ⟨g, rfl, hg⟩ := ih hbefore
    have hitem : (after.map Prod.fst).map (·, last) = after := by
      refine (List.map_map).trans ((List.map_congr_left fun line hline => ?_).trans after.map_id)
      have hmem : (f line.1, line.2) ∈ (h last).map (·, last) :=
        hafter ▸ List.mem_map_of_mem hline
      obtain ⟨_, -, heq⟩ := List.mem_map.1 hmem
      have hsnd : last = line.2 := congrArg Prod.snd heq
      exact Prod.ext rfl hsnd
    have htext : (after.map Prod.fst).map f = h last := by
      have hfst := congrArg (List.map Prod.fst) hafter
      simpa [Function.comp_def] using hfst
    refine ⟨fun i => if i < last then g i else after.map Prod.fst, ?_, fun i hi hi' => ?_⟩
    · rw [blocks_snoc hle, if_neg (lt_irrefl last), hitem]
      exact congrArg (· ++ after) (blocks_congr fun i _ hi => (if_pos hi).symm)
    · dsimp only
      split_ifs with hlt
      · exact hg i hi hlt
      · rw [show i = last by omega, htext]

/-- What a list and its handler have for `f` is coherent. -/
def Legible (f : Line → Text) (block : BlockInner) (list : LongList Line)
    (handler : LongListHandler Line) : Prop :=
  Coherent block (list.map f, texts handler f)

theorem valid_of_map (h : Valid (list.map f)) : Valid list where
  contiguous := (List.isChain_map _).1 h.contiguous
  lines_lt _ hline := h.lines_lt _ (List.mem_map_of_mem hline)
  selected_lt := h.selected_lt

theorem Legible.of_reselected (h : Legible f block list handler) (hlist : Reselected list list') :
    Legible f block list' handler :=
  Coherent.of_reselected h ⟨congrArg (List.map (Prod.map f id)) hlist.lines_eq,
    hlist.itemCount_eq, hlist.currentArea_eq, hlist.selected_lt⟩

/-- The lines that are kept, as `f` shows them. -/
theorem Legible.exists_cached (h : Legible f block list handler) :
    ∃ g first last, Cached handler (block.inner list.currentArea).width list.itemCount g first last
        list.lines
      ∧ ∀ i, (g i).map f = linesOf (texts handler f) (block.inner list.currentArea).width i := by
  obtain ⟨first, last, hcached⟩ := h.drawable.cached
  obtain ⟨g, hlines, hg⟩ := exists_blocks_of_map hcached.le hcached.lines_eq
  set width := (block.inner list.currentArea).width
  set g' : ℕ → List Line := fun i => if first ≤ i ∧ i < last then g i else linesOf handler width i
    with hg'
  have htext : ∀ i, (g' i).map f = linesOf (texts handler f) width i := by
    intro i
    simp only [hg']
    split_ifs with hi
    · exact hg i hi.1 hi.2
    · exact (linesOf_texts width i).symm
  have hall : ∀ i < list.itemCount, (handler.getItemLines i width).isSome := fun i hi => by
    simpa [texts, map] using h.drawable.isSome i hi
  refine ⟨g', first, last, ⟨hcached.le, hcached.last_le, ?_, fun i hi hi' hnil => ?_,
    fun i hi hout => ?_⟩, htext⟩
  · rw [hlines]
    exact blocks_congr fun i hi hi' => (if_pos ⟨hi, hi'⟩).symm
  · refine hcached.ne_nil i hi hi' ((htext i).symm.trans ?_)
    rw [hnil, List.map_nil]
  · rw [getItemLines_eq hall hi]
    exact congrArg some (if_neg (by omega)).symm

/-- The lines that are drawn, of those that are in view after it. -/
theorem Legible.processLines (h : Legible f block list handler) (hpreserves : Preserves handler f)
    (hcount : list.itemCount ≠ 0) (harea : ¬ (block.inner list.currentArea).isEmpty)
    (search : KeySearch (Line × ℕ)) :
    ∃ drawn list' e, list.processLines (ε := ε) handler search list.centerItemIndex
        (block.inner list.currentArea) = .ok (drawn, list')
      ∧ (list.map f).processLines (ε := ε) (texts handler f) (.first _) list.centerItemIndex
        (block.inner list.currentArea) = .ok (drawn.map f, list'.map f)
      ∧ Extent.Around (lineCount (texts handler f) (block.inner list.currentArea).width)
        list.itemCount list.centerItemIndex ((block.inner list.currentArea).height
          - lineCount (texts handler f) (block.inner list.currentArea).width list.centerItemIndex) e
      ∧ list'.map f = { list.map f with
        lines := blocks (linesOf (texts handler f) (block.inner list.currentArea).width)
          e.lower e.next } := by
  have hcenter := centerItemIndex_lt h.drawable.selected_lt hcount
  have hgives := h.serves.gives (block.inner list.currentArea).width
  obtain ⟨first', last', hcached'⟩ := h.drawable.cached
  obtain ⟨g, first, last, hcached, hg⟩ := h.exists_cached
  have hne : linesOf handler (block.inner list.currentArea).width list.centerItemIndex ≠ [] :=
    (givesLines_texts.1 hgives).linesOf_ne_nil _ hcenter
  obtain ⟨g₁, e, hg₁, -, hfill, hprocess⟩ := hcached.processLines (ε := ε)
    (givesLines_texts.1 hgives).isSome harea hcenter hne search
  obtain ⟨g₂, e', hg₂, -, hfill', hprocess'⟩ := hcached'.processLines (ε := ε) hgives.isSome harea
    hcenter (hgives.linesOf_ne_nil _ hcenter) (.first _)
  obtain rfl : g₂ = linesOf (texts handler f) (block.inner list.currentArea).width :=
    hg₂.elim id id
  have htext : ∀ i, (g₁ i).map f
      = linesOf (texts handler f) (block.inner list.currentArea).width i := by
    rcases hg₁ with rfl | rfl
    · exact hg
    · exact fun i => (linesOf_texts _ i).symm
  have hlength : ∀ i, (g₁ i).length
      = (linesOf (texts handler f) (block.inner list.currentArea).width i).length := fun i => by
    rw [← htext, List.length_map]
  simp only [hlength] at hfill
  obtain rfl : e = e' := Option.some.inj (hfill.symm.trans hfill')
  have hblocks : blocks (linesOf (texts handler f) (block.inner list.currentArea).width)
      e.lower e.next = (blocks g₁ e.lower e.next).map (Prod.map f id) := by
    rw [map_blocks]
    exact blocks_congr fun i _ _ => (htext i).symm
  rw [hblocks, drawKept_map hpreserves] at hprocess'
  refine ⟨_, _, e, hprocess, hprocess', (Extent.around_of_fill hcenter hfill).1, ?_⟩
  have hrestores : Restores (texts handler f) := restores_texts
  have hkept := drawKept_lines hrestores
    (block.inner list.currentArea).height ((blocks g₁ e.lower e.next).map (Prod.map f id)) e.skipped
    (list.map f)
  rw [drawKept_map hpreserves] at hkept
  rw [hblocks]
  exact hkept

theorem Legible.render {drawn : List (Drawn Line)} (h : Legible f block list handler)
    (hpreserves : Preserves handler f)
    (hrender : list.render (ε := ε) handler search block list.currentArea = .ok (drawn, list')) :
    Legible f block list' handler ∧ list'.itemCount = list.itemCount := by
  by_cases hempty : list.itemCount = 0 ∨ (block.inner list.currentArea).isEmpty
  · have hprocess : list.processLines (ε := ε) handler search list.centerItemIndex
        (block.inner list.currentArea) = .ok ([], list) := if_pos hempty
    rw [render_snd hprocess hrender]
    exact ⟨h, rfl⟩
  obtain ⟨hcount, harea⟩ := not_or.1 hempty
  obtain ⟨drawn', list'', e, hprocess, -, haround, hkept⟩ :=
    h.processLines (ε := ε) hpreserves hcount harea search
  have hcount' : list''.itemCount = list.itemCount := congrArg (fun l => l.itemCount) hkept
  rw [render_snd hprocess hrender, Legible, hkept]
  refine ⟨?_, hcount'⟩
  have hgives := h.serves.gives (block.inner list.currentArea).width
  have hne : ∀ i, e.lower ≤ i → i < e.next →
      linesOf (texts handler f) (block.inner list.currentArea).width i ≠ [] :=
    fun i _ hi => hgives.linesOf_ne_nil i (hi.trans_le haround.next_le)
  have hle := haround.lower_le.trans haround.lt_next.le
  refine ⟨⟨contiguous_blocks hne, fun line hline => ?_, h.valid.selected_lt⟩, h.serves,
    ⟨h.drawable.selected_lt, h.drawable.isSome, ⟨e.lower, e.next, ?_⟩,
      fun hempty' => absurd hempty' harea⟩⟩
  · exact (mem_blocks.1 hline).2.1.trans_le haround.next_le
  · exact .of_same hle haround.next_le rfl hne (fun _ _ _ => rfl) h.drawable.isSome

theorem renderScrollbar_cells {area : Rect} {lowestIndex highestIndex itemCount : ℕ}
    {drawn : List (Drawn Line)}
    (h : renderScrollbar (ε := ε) area lowestIndex highestIndex itemCount = .ok drawn) :
    ∀ d ∈ drawn, ∃ x y symbol, d = .cell x y symbol := by
  have hcolumn : ∀ {x y length : ℕ} {symbol : Char},
      ∀ d ∈ (column x y symbol length : List (Drawn Line)), ∃ x y symbol, d = .cell x y symbol := by
    intro x y length symbol d hd
    obtain ⟨i, -, rfl⟩ := List.mem_map.1 hd
    exact ⟨_, _, _, rfl⟩
  simp only [renderScrollbar, bind, Except.bind, pure, Except.pure] at h
  repeat' split at h
  all_goals try cases h
  intro d hd
  simp only [List.mem_append] at hd
  obtain (((hd | hd) | hd) | hd) | hd := hd <;> exact hcolumn d hd

/-- Besides the block and the lines there may be cells, of the scrollbar. -/
theorem render_drawn {area : Rect} {lines : List Line} {drawn : List (Drawn Line)}
    {list'' : LongList Line}
    (hprocess : list.processLines (ε := ε) handler search list.centerItemIndex (block.inner area)
      = .ok (lines, list'))
    (h : list.render (ε := ε) handler search block area = .ok (drawn, list'')) :
    ∃ scrollbar, drawn = drawnLines block area list.title lines ++ scrollbar
      ∧ ∀ d ∈ scrollbar, ∃ x y symbol, d = .cell x y symbol := by
  rw [render_eq block area hprocess] at h
  simp only [bind, Except.bind, pure, Except.pure] at h
  repeat' split at h
  all_goals try cases h
  · rename_i scrollbar hscrollbar
    exact ⟨_, rfl, renderScrollbar_cells hscrollbar⟩
  · exact ⟨[], (List.append_nil _).symm, by simp⟩
  · exact ⟨[], (List.append_nil _).symm, by simp⟩

theorem map_fst_blocks (g : ℕ → List Text) (count : ℕ) :
    (blocks g 0 count).map Prod.fst = (List.range count).flatMap g := by
  rw [blocks, Nat.sub_zero, ← List.range_eq_range', List.map_flatMap]
  exact List.flatMap_congr fun i _ => by simp [Function.comp_def]

/-- Of all lines a run is drawn that has the first line of the center item in it. -/
theorem Legible.render_window {drawn : List (Drawn Line)} (h : Legible f block list handler)
    (hpreserves : Preserves handler f) (hcount : list.itemCount ≠ 0)
    (harea : ¬ (block.inner list.currentArea).isEmpty)
    (hrender : list.render (ε := ε) handler search block list.currentArea = .ok (drawn, list')) :
    let area := block.inner list.currentArea
    let count := lineCount (texts handler f) area.width
    ∃ lines scrollbar start, drawn = drawnLines block list.currentArea list.title lines ++ scrollbar
      ∧ (∀ d ∈ scrollbar, ∃ x y symbol, d = .cell x y symbol)
      ∧ start ≤ Extent.total count 0 list.centerItemIndex
      ∧ Extent.total count 0 list.centerItemIndex < start + area.height
      ∧ lines.map f
        = (((List.range list.itemCount).flatMap (linesOf (texts handler f) area.width)).drop
          start).take area.height := by
  dsimp only
  have hcenter := centerItemIndex_lt h.drawable.selected_lt hcount
  obtain ⟨lines, list'', e, hprocess, htexts, -, -⟩ :=
    h.processLines (ε := ε) hpreserves hcount harea search
  obtain ⟨scrollbar, hdrawn, hscrollbar⟩ := render_drawn hprocess hrender
  have harea' := harea
  rw [Rect.isEmpty_iff, not_or] at harea'
  obtain ⟨start, hstart, hlt, -, hwindow⟩ := processLines_window (ε := ε)
    (h.serves.gives (block.inner list.currentArea).width) hcenter
    (Nat.one_le_iff_ne_zero.2 harea'.2) (Nat.one_le_iff_ne_zero.2 harea'.1)
  obtain ⟨first, last, hcached⟩ := h.drawable.cached
  obtain ⟨list₁, hwindow⟩ := hwindow (.first _) (list.map f) first last rfl hcached
  have hlines := congrArg Prod.fst (Except.ok.inj (htexts.symm.trans hwindow))
  refine ⟨lines, scrollbar, start, hdrawn, hscrollbar, hstart, hlt, hlines.trans ?_⟩
  have hshown : shown (texts handler f) list.selectedIndex = Prod.fst ∘ Prod.map Prod.fst id := by
    funext line
    unfold shown
    split_ifs <;> rfl
  have hall : (numberedLines (linesOf (texts handler f) (block.inner list.currentArea).width) 0
        list.itemCount).map (shown (texts handler f) list.selectedIndex)
      = (List.range list.itemCount).flatMap
        (linesOf (texts handler f) (block.inner list.currentArea).width) := by
    rw [hshown, ← List.map_map, map_numberedLines, map_fst_blocks]
  rw [← hall, ← List.map_drop, ← List.map_take]
  rfl

/-- Where a single item does not fit, or there is no room for lines at all, it panics. -/
theorem Legible.render_iff (h : Legible f block list handler) (hpreserves : Preserves handler f) :
    (∃ r, list.render (ε := Empty) handler search block list.currentArea = .ok r)
      ↔ 3 ≤ list.currentArea.height
        ∧ (3 ≤ list.currentArea.width → list.itemCount = 1 →
          (linesOf (texts handler f) (list.currentArea.width - 2) 0).length
            ≤ list.currentArea.height - 2) := by
  have hheight := block.height_eq list.currentArea
  have hwidth := block.width_eq list.currentArea
  rw [← hwidth, ← hheight]
  by_cases hempty : list.itemCount = 0 ∨ (block.inner list.currentArea).isEmpty
  · have hprocess : list.processLines (ε := Empty) handler search list.centerItemIndex
        (block.inner list.currentArea) = .ok ([], list) := if_pos hempty
    have hnil : list.lines = [] := List.map_eq_nil_iff.1 (h.drawable.lines_eq_nil hempty)
    rw [Rect.isEmpty_iff] at hempty
    by_cases hroom : 3 ≤ list.currentArea.height
    · have hrenders : Renders handler search block list.currentArea list := by
        refine renders_of_lt hprocess ?_ (Nat.zero_le _)
        rw [hnil, hheight]
        exact Nat.sub_pos_of_lt hroom
      obtain ⟨drawn, list', hrender, -⟩ := hrenders
      exact iff_of_true ⟨_, hrender⟩ ⟨hroom, by omega⟩
    · refine iff_of_false ?_ fun hiff => hroom hiff.1
      rintro ⟨r, hrender⟩
      rw [render_eq block _ hprocess, if_pos (by omega), hnil] at hrender
      cases hrender
  · obtain ⟨hcount, harea⟩ := not_or.1 hempty
    obtain ⟨lines, list', e, hprocess, htexts, haround, hkept⟩ :=
      h.processLines (ε := Empty) hpreserves hcount harea search
    rw [Rect.isEmpty_iff] at harea
    have hlower := haround.lower_le
    have hnext := haround.lt_next
    have hnext' := haround.next_le
    have hcount' : list'.itemCount = list.itemCount := congrArg (fun l => l.itemCount) hkept
    have hlines : list'.lines.map (Prod.map f id)
        = (blocks (linesOf handler (block.inner list.currentArea).width) e.lower e.next).map
          (Prod.map f id) := by
      rw [map_blocks]
      exact (congrArg LongList.lines hkept).trans
        (blocks_congr fun i _ _ => linesOf_texts _ i)
    have hsnd := congrArg (List.map Prod.snd) hlines
    rw [List.map_map, List.map_map] at hsnd
    have hgives := h.serves.gives (block.inner list.currentArea).width
    have hne : linesOf handler (block.inner list.currentArea).width list.centerItemIndex ≠ [] :=
      (givesLines_texts.1 hgives).linesOf_ne_nil _
        (centerItemIndex_lt h.drawable.selected_lt hcount)
    have hkept' : list'.lines ≠ [] := by
      rintro hnil
      obtain ⟨line, hline⟩ := List.exists_mem_of_ne_nil _ hne
      have hmem : (line, list.centerItemIndex)
          ∈ blocks (linesOf handler (block.inner list.currentArea).width) e.lower e.next :=
        mem_blocks.2 ⟨hlower, hnext, hline⟩
      rw [hnil, List.map_nil, eq_comm, List.map_eq_nil_iff] at hsnd
      exact List.ne_nil_of_mem hmem hsnd
    obtain ⟨lowestIndex, highestIndex, hlowest, hhighest, hlow, hhigh⟩ :=
      exists_ends (ε := Empty) hsnd hkept'
    have hlength : list.itemCount = 1 → list'.lines.length
        = (linesOf (texts handler f) (block.inner list.currentArea).width 0).length := by
      intro hone
      have hlength := congrArg List.length hlines
      rw [show e.lower = 0 by omega, show e.next = 0 + 1 by omega, blocks_succ, List.length_map,
        List.length_map, List.length_map] at hlength
      rw [hlength, linesOf_texts, List.length_map]
    have hshort : lines.length ≤ (block.inner list.currentArea).height := by
      obtain ⟨lines', list'', -, -, hprocess', hle, -⟩ := h.drawable.processLines (ε := Empty)
        hcount (not_or.1 hempty).2 (hgives.linesOf_ne_nil _ (centerItemIndex_lt
          h.drawable.selected_lt hcount)) (.first _)
      obtain ⟨rfl, -⟩ := Prod.ext_iff.1 (Except.ok.inj (htexts.symm.trans hprocess'))
      rw [List.length_map] at hle
      exact hle
    constructor
    · rintro ⟨r, hrender⟩
      refine ⟨by omega, fun _ hone => Nat.le_of_not_lt fun hlt => ?_⟩
      rw [← hlength hone] at hlt
      rw [render_eq block _ hprocess, if_pos hlt.le, hlowest, hhighest] at hrender
      simp only [bind, Except.bind] at hrender
      rw [if_pos (.inr (.inr hlt)), hcount', hone, renderScrollbar_panics] at hrender
      cases hrender
    · rintro ⟨hroom, hfits⟩
      have hrenders := (renders_of_ends hprocess hshort hlowest hhighest hroom (by omega) (by omega)
        (by omega)).2 fun ⟨hone, hlt⟩ => absurd (hfits (by omega) (hcount' ▸ hone))
          (Nat.not_le_of_lt (hlength (hcount' ▸ hone) ▸ hlt))
      obtain ⟨drawn, list'', hrender, -⟩ := hrenders
      exact ⟨_, hrender⟩

end LongList

end DustDevil
