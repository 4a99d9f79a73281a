import Mathlib.Data.List.Pairwise
import DustDevil.Lib.Steps
import DustDevil.Proofs.Viewport

/-!
# Long lists over whole runs

Whatever is done to a long list, the lines that it keeps are of consecutive items and they and the
selected item exist (`valid_of_runSteps`).

Where the selected item is removed, another one than documented is selected if there are items on
both sides of it (`onItemRemoved_selects_iff`).
-/

namespace DustDevil

open Wire

namespace LongList

variable {Line ε : Type}

/-! ### What is selected once an item is removed -/

section Removed

/-- The index of the selected item once the one at `index` is removed, or if that is the selected
one, of the item after it or the last one that is left. -/
def selectionAfterRemoval (deselectOnRemove : Bool) (itemCount selectedIndex index : ℕ) :
    Option ℕ :=
  if selectedIndex = index then
    if deselectOnRemove ∨ itemCount = 1 then none else some (min selectedIndex (itemCount - 2))
  else if index < selectedIndex then some (selectedIndex - 1)
  else some selectedIndex

/-- What it selects of any items. -/
theorem getElem?_selectionAfterRemoval {α : Type} (items : List α) {selectedIndex index i : ℕ}
    {deselectOnRemove : Bool} (hselected : selectedIndex < items.length)
    (h : selectionAfterRemoval deselectOnRemove items.length selectedIndex index = some i) :
    (items.eraseIdx index)[i]?
      = if selectedIndex = index then
          if index + 1 < items.length then items[index + 1]? else items[items.length - 2]?
        else items[selectedIndex]? := by
  unfold selectionAfterRemoval at h
  rw [List.getElem?_eraseIdx]
  split_ifs at h ⊢ <;> simp only [Option.some.injEq] at h <;> congr 1 <;> omega

variable {list : LongList Line} {selectedIndex index : ℕ}

theorem onItemRemoved_selectedIndex (hselected : list.selectedIndex = some selectedIndex) :
    (list.onItemRemoved index).selectedIndex
      = if (list.deselectOnRemove ∧ selectedIndex = index) ∨ list.itemCount - 1 = 0 then none
        else if index ≤ selectedIndex then some (selectedIndex - 1) else some selectedIndex := by
  simp only [onItemRemoved, redrawNotify, hselected]

theorem onItemRemoved_selects_iff (hselected : list.selectedIndex = some selectedIndex)
    (hlt : selectedIndex < list.itemCount) (hindex : index < list.itemCount) :
    (list.onItemRemoved index).selectedIndex
        = selectionAfterRemoval list.deselectOnRemove list.itemCount selectedIndex index
      ↔ ¬ (selectedIndex = index ∧ ¬ list.deselectOnRemove ∧ 0 < index
        ∧ index + 1 < list.itemCount) := by
  rw [onItemRemoved_selectedIndex hselected, selectionAfterRemoval]
  obtain heq | hne := eq_or_ne selectedIndex index
  · cases hdeselect : list.deselectOnRemove with
    | true => simp [heq]
    | false =>
      simp only [heq, Bool.false_eq_true, false_and, false_or, le_refl, if_true, not_false_eq_true,
        true_and]
      split_ifs with hlast hone hone
      · exact iff_of_true rfl (by omega)
      · omega
      · omega
      · rw [Option.some.injEq]
        omega
  · have hcount : ¬ ((list.deselectOnRemove ∧ selectedIndex = index) ∨ list.itemCount - 1 = 0) := by
      omega
    refine iff_of_true ?_ fun h => hne h.1
    rw [if_neg hcount, if_neg hne]
    split_ifs <;> first | rfl | omega

/-- Three items of which the one in the middle is selected. -/
def middleSelected : LongList Unit :=
  { new (.static []) 3 false false with selectedIndex := some 1 }

theorem onItemRemoved_selects_first :
    (middleSelected.onItemRemoved 0).selectedIndex = selectionAfterRemoval false 3 1 0 :=
  (onItemRemoved_selects_iff (show middleSelected.selectedIndex = some 1 from rfl) (by decide)
    (by decide)).2 (by decide)

/-- The item before it is selected, and not the one after it. -/
theorem not_onItemRemoved_selects_middle :
    (middleSelected.onItemRemoved 1).selectedIndex ≠ selectionAfterRemoval false 3 1 1 := by
  decide

end Removed

/-! ### Removing the lines of an item -/

section RemoveLines

variable {g : ℕ → List Line} {first last index : ℕ}

/-- The lines of the items without the one at `index`. -/
def without (g : ℕ → List Line) (index i : ℕ) : List Line := if i < index then g i else g (i + 1)

theorem blocks_without_before (hle : last ≤ index) :
    blocks (without g index) first last = blocks g first last :=
  blocks_congr fun _ _ hi => if_pos (by omega)

theorem blocks_without_after (hle : index ≤ first) :
    blocks (without g index) first last = blocks (fun i => g (i + 1)) first last :=
  blocks_congr fun _ hi _ => if_neg (by omega)

theorem takeWhile_lt_blocks (hfirst : first ≤ index) (hlast : index ≤ last) :
    (blocks g first last).takeWhile (fun line => line.2 < index) = blocks g first index := by
  rw [← blocks_append hfirst hlast]
  refine takeWhile_append (fun y hy => ?_) fun z hz => ?_
  · simpa using (mem_blocks.1 hy).2.1
  · simpa using (mem_blocks.1 hz).1

theorem getElem?_length_blocks (hfirst : first ≤ index) (hlast : index < last)
    (hne : g index ≠ []) :
    ∃ line, (blocks g first last)[(blocks g first index).length]? = some (line, index) := by
  obtain ⟨line, lines, hg⟩ := List.exists_cons_of_ne_nil hne
  refine ⟨line, ?_⟩
  rw [blocks_split hfirst hlast, List.getElem?_append_right le_rfl, Nat.sub_self, hg]
  rfl

theorem map_decrease_blocks (hfirst : index ≤ first) (g : ℕ → List Line) (last : ℕ) :
    (blocks g (first + 1) (last + 1)).map (fun line => (line.1, line.2 - 1))
      = blocks (without g index) first last := by
  rw [blocks_without_after hfirst]
  exact map_pred_blocks g first last

theorem removeLines_of_mem (hfirst : first ≤ index) (hlast : index < last) (hne : g index ≠ []) :
    removeLines index (blocks g first last) = blocks (without g index) first (last - 1) := by
  obtain ⟨last, rfl⟩ : ∃ n, last = n + 1 := ⟨last - 1, by omega⟩
  obtain ⟨line, hline⟩ := getElem?_length_blocks hfirst hlast hne
  have hindex : indexInLines index (blocks g first (last + 1))
      = some (blocks g first index).length := by
    simp [indexInLines, takeWhile_lt_blocks hfirst hlast.le, hline]
  have hself : (blocks g (index + 1) (last + 1)).dropWhile (fun line => line.2 = index)
      = blocks g (index + 1) (last + 1) :=
    List.dropWhile_eq_self_iff.2 fun hpos => by
      simpa using ne_of_mem_blocks_after _ (List.getElem_mem hpos)
  have hdrop : ((blocks g first (last + 1)).drop (blocks g first index).length).dropWhile
      (fun line => line.2 = index) = blocks g (index + 1) (last + 1) := by
    rw [blocks_split hfirst hlast, List.drop_left, List.dropWhile_append_of_pos
      fun y hy => by simpa using ne_of_mem_map y hy, hself]
  have htake : (blocks g first (last + 1)).take (blocks g first index).length
      = blocks (without g index) first index := by
    rw [← blocks_append hfirst hlast.le, List.take_left, blocks_without_before le_rfl]
  simp only [removeLines, hindex, hdrop, htake, map_decrease_blocks le_rfl]
  exact blocks_append hfirst (Nat.le_of_lt_succ hlast)

theorem indexInLines_of_ne {lines : List (Line × ℕ)} (h : ∀ line ∈ lines, line.2 ≠ index) :
    indexInLines index lines = none := by
  refine if_neg fun heq => ?_
  obtain ⟨line, hline, hindex⟩ := Option.map_eq_some_iff.1 heq
  exact h line (List.mem_of_getElem? hline) hindex

theorem removeLines_of_lt (hindex : index < first) (hfirst : first < last) (hne : g first ≠ []) :
    removeLines index (blocks g first last)
      = blocks (without g index) (first - 1) (last - 1) := by
  obtain ⟨first, rfl⟩ : ∃ n, first = n + 1 := ⟨first - 1, by omega⟩
  obtain ⟨last, rfl⟩ : ∃ n, last = n + 1 := ⟨last - 1, by omega⟩
  have hnone : indexInLines index (blocks g (first + 1) (last + 1)) = none :=
    indexInLines_of_ne fun line hline => by
      have hle := (mem_blocks.1 hline).1
      omega
  have hhead : (blocks g (first + 1) (last + 1)).head?.any fun line => index < line.2 := by
    obtain ⟨line, lines, hg⟩ := List.exists_cons_of_ne_nil hne
    rw [blocks_cons hfirst, hg]
    simpa using hindex
  simp only [removeLines, hnone, if_pos hhead]
  exact map_decrease_blocks (Nat.le_of_lt_succ hindex) g last

theorem removeLines_of_le (hle : last ≤ index) :
    removeLines index (blocks g first last) = blocks (without g index) first last := by
  have hlt (line : Line × ℕ) (hline : line ∈ blocks g first last) : line.2 < index :=
    (mem_blocks.1 hline).2.1.trans_le hle
  have hnone : indexInLines index (blocks g first last) = none :=
    indexInLines_of_ne fun line hline => (hlt line hline).ne
  have hhead : ¬ (blocks g first last).head?.any fun line => index < line.2 := by
    intro hany
    rw [Option.any_eq_true] at hany
    obtain ⟨line, hline, hgt⟩ := hany
    have hlt := hlt line (List.mem_of_mem_head? hline)
    simp only [decide_eq_true_eq] at hgt
    omega
  simp only [removeLines, hnone, if_neg hhead]
  exact (blocks_without_before hle).symm

/-- The lines that are left are those of the items that are left. -/
theorem removeLines_blocks (hle : first ≤ last) (hne : ∀ i, first ≤ i → i < last → g i ≠ [])
    (index : ℕ) :
    ∃ first' last', first' ≤ last' ∧ (last' = last ∧ last ≤ index ∨ last' = last - 1)
      ∧ (∀ i, first' ≤ i → i < last' → without g index i ≠ [])
      ∧ removeLines index (blocks g first last) = blocks (without g index) first' last' := by
  obtain hlast | hlast := le_or_gt last index
  · refine ⟨first, last, hle, .inl ⟨rfl, hlast⟩, fun i hi hi' => ?_, removeLines_of_le hlast⟩
    rw [without, if_pos (by omega)]
    exact hne i hi hi'
  · obtain rfl | hlt := Nat.eq_or_lt_of_le hle
    · refine ⟨first - 1, first - 1, le_rfl, .inr rfl, fun i hi hi' => by omega, ?_⟩
      simp only [blocks_self]
      rfl
    obtain hfirst | hfirst := Nat.lt_or_ge index first
    · refine ⟨first - 1, last - 1, by omega, .inr rfl, fun i hi hi' => ?_,
        removeLines_of_lt hfirst hlt (hne first le_rfl hlt)⟩
      rw [without, if_neg (by omega)]
      exact hne (i + 1) (by omega) (by omega)
    · refine ⟨first, last - 1, by omega, .inr rfl, fun i hi hi' => ?_,
        removeLines_of_mem hfirst hlast (hne index hfirst hlast)⟩
      unfold without
      split_ifs
      · exact hne i hi (by omega)
      · exact hne (i + 1) (by omega) (by omega)

end RemoveLines

/-! ### What is done to a list -/

/-- A call of the list or of its controller. -/
inductive Call (Line : Type) where
  | setSelectedIndex (selectedIndex : Option ℕ)
  | resetItemsNoRedraw (itemCount : ℕ) (tryKeepSelected : Bool)
  | setItemCount (itemCount : ℕ)
  | onItemRemoved (index : ℕ)
  | resize (area : Rect)
  | handleEvent (handler : LongListHandler Line) (event : TuiEvent) (isFocused : Bool)
  | receiveFocus
  | focusLost
  | render (handler : LongListHandler Line) (search : KeySearch (Line × ℕ)) (block : BlockInner)
    (area : Rect)

/-- The list after a call that does not panic. -/
def step (list : LongList Line) : Call Line → Option (LongList Line)
  | .setSelectedIndex selectedIndex =>
    (list.setSelectedIndex (ε := Empty) selectedIndex).toOption
  | .resetItemsNoRedraw itemCount tryKeepSelected =>
    some (list.resetItemsNoRedraw itemCount tryKeepSelected)
  | .setItemCount itemCount => some (list.setItemCount itemCount)
  | .onItemRemoved index => some (list.onItemRemoved index)
  | .resize area => some (list.resize area)
  | .handleEvent handler event isFocused => some (list.handleEvent handler event isFocused).2
  | .receiveFocus => some list.receiveFocus.2
  | .focusLost => some list.focusLost
  | .render handler search block area =>
    (list.render (ε := Empty) handler search block area).toOption.map Prod.snd

/-- The handler gives at least one line of each item. -/
def GivesLines (handler : LongListHandler Line) (width itemCount : ℕ) : Prop :=
  ∀ i < itemCount, ∃ lines, handler.getItemLines i width = some lines ∧ lines ≠ []

/-- What is asked of a call: only items that exist are removed, and those that do have lines. -/
def Permitted (list : LongList Line) : Call Line → Prop
  | .onItemRemoved index => index < list.itemCount
  | .render handler _ block area => GivesLines handler (block.inner area).width list.itemCount
  | _ => True

/-- The lines are of consecutive items, and they and the selected item exist. -/
structure Valid (list : LongList Line) : Prop where
  contiguous : Contiguous list.lines
  lines_lt : ∀ line ∈ list.lines, line.2 < list.itemCount
  selected_lt : ∀ index, list.selectedIndex = some index → index < list.itemCount

/-- Only the selection and what is asked for have changed, and the selected item exists. -/
structure Reselected (list list' : LongList Line) : Prop where
  lines_eq : list'.lines = list.lines
  itemCount_eq : list'.itemCount = list.itemCount
  currentArea_eq : list'.currentArea = list.currentArea
  selected_lt : ∀ index, list'.selectedIndex = some index → index < list.itemCount

section Valid

variable {list list' : LongList Line}

theorem Valid.of_reselected (h : Valid list) (hlist : Reselected list list') : Valid list' where
  contiguous := hlist.lines_eq ▸ h.contiguous
  lines_lt := by
    rw [hlist.lines_eq, hlist.itemCount_eq]
    exact h.lines_lt
  selected_lt := by
    rw [hlist.itemCount_eq]
    exact hlist.selected_lt

theorem Valid.reselected (h : Valid list) : Reselected list list := ⟨rfl, rfl, rfl, h.selected_lt⟩

theorem valid_new (title : StaticString) (itemCount : ℕ) (selectLastFirst deselectOnRemove : Bool) :
    Valid (new title itemCount selectLastFirst deselectOnRemove : LongList Line) where
  contiguous := .nil
  lines_lt _ h := absurd h List.not_mem_nil
  selected_lt _ h := absurd h (Option.some_ne_none _).symm

theorem selectionStartIndex_lt {selectLastFirst : Bool} {itemCount index : ℕ}
    (h : selectionStartIndex selectLastFirst itemCount = some index) : index < itemCount := by
  unfold selectionStartIndex at h
  split_ifs at h <;> simp only [Option.some.injEq] at h <;> omega

theorem indexOfFirst_lt {itemCount index : ℕ} (h : indexOfFirst itemCount = some index) :
    index < itemCount := by
  unfold indexOfFirst at h
  split_ifs at h
  simp only [Option.some.injEq] at h
  omega

theorem indexOfLast_eq {itemCount index : ℕ} (h : indexOfLast itemCount = some index) :
    index + 1 = itemCount := by
  unfold indexOfLast at h
  split_ifs at h
  simp only [Option.some.injEq] at h
  omega

theorem Valid.select {selectedIndex : Option ℕ} (h : Valid list)
    (hselected : ∀ index, selectedIndex = some index → index < list.itemCount) :
    Reselected list (list.select selectedIndex) := by
  unfold LongList.select
  split_ifs
  · exact ⟨rfl, rfl, rfl, hselected⟩
  · exact h.reselected

theorem Valid.resetItemsNoRedraw (list : LongList Line) (itemCount : ℕ) (tryKeepSelected : Bool) :
    Valid (list.resetItemsNoRedraw itemCount tryKeepSelected) where
  contiguous := .nil
  lines_lt _ h := absurd h List.not_mem_nil
  selected_lt index hindex := by
    simp only [LongList.resetItemsNoRedraw, Option.filter_eq_some_iff, Bool.and_eq_true,
      decide_eq_true_eq] at hindex
    exact hindex.2.2

theorem contiguous_rdropWhile {lines : List (Line × ℕ)} (h : Contiguous lines)
    (p : Line × ℕ → Bool) : Contiguous (lines.rdropWhile p) :=
  List.IsChain.prefix h (List.rdropWhile_prefix p lines)

/-- Of lines in order, only those of items that are left remain. -/
theorem lt_of_mem_rdropWhile {lines : List (Line × ℕ)} (h : Contiguous lines) {itemCount : ℕ}
    {line : Line × ℕ} (hline : line ∈ lines.rdropWhile fun line => itemCount ≤ line.2) :
    line.2 < itemCount := by
  have hlast := List.rdropWhile_last_not _ _ (List.ne_nil_of_mem hline)
  have hle := (contiguous_rdropWhile h _).pairwise.rel_getLast_of_rel_getLast_getLast hline le_rfl
  simp only [decide_eq_true_eq] at hlast
  omega

theorem Valid.setItemCount (h : Valid list) (itemCount : ℕ) :
    Valid (list.setItemCount itemCount) := by
  unfold LongList.setItemCount
  split_ifs
  · exact h
  · refine ⟨contiguous_rdropWhile h.contiguous _,
      fun _ hline => lt_of_mem_rdropWhile h.contiguous hline, fun index hindex => ?_⟩
    simp only [redrawNotify] at hindex ⊢
    split at hindex
    · rename_i il hil
      have hlast := indexOfLast_eq hil
      simp only [Option.some.injEq] at hindex
      omega
    · simp at hindex

theorem Valid.exists_blocks (h : Valid list) :
    ∃ g first last, first ≤ last ∧ last ≤ list.itemCount
      ∧ (∀ i, first ≤ i → i < last → g i ≠ []) ∧ list.lines = blocks g first last := by
  obtain ⟨g, first, last, hle, hne, hlines⟩ := h.contiguous.exists_blocks
  obtain hlt | rfl := Nat.lt_or_eq_of_le hle
  · obtain ⟨line, lines, hg⟩ := List.exists_cons_of_ne_nil (hne (last - 1) (by omega) (by omega))
    have hmem : (line, last - 1) ∈ list.lines := by
      rw [hlines, mem_blocks, hg]
      exact ⟨by simp only; omega, by simp only; omega, List.mem_cons_self⟩
    have hlt := h.lines_lt _ hmem
    exact ⟨g, first, last, hle, by simp only at hlt; omega, hne, hlines⟩
  · rw [blocks_self] at hlines
    exact ⟨g, 0, 0, le_rfl, Nat.zero_le _, fun i _ hi => absurd hi (Nat.not_lt_zero i),
      hlines.trans blocks_self.symm⟩

theorem Valid.onItemRemoved (h : Valid list) {index : ℕ} (hindex : index < list.itemCount) :
    Valid (list.onItemRemoved index) := by
  obtain ⟨g, first, last, hle, hlast, hne, hlines⟩ := h.exists_blocks
  obtain ⟨first', last', hle', hlast', hne', hremoved⟩ := removeLines_blocks hle hne index
  have hlines' : (list.onItemRemoved index).lines = blocks (without g index) first' last' := by
    rw [← hremoved, ← hlines]
    rfl
  have hcount : (list.onItemRemoved index).itemCount = list.itemCount - 1 := rfl
  refine ⟨?_, fun line hline => ?_, fun i hi => ?_⟩
  · rw [hlines']
    exact contiguous_blocks hne'
  · rw [hlines', mem_blocks] at hline
    rw [hcount]
    omega
  · rw [hcount]
    cases hselected : list.selectedIndex with
    | none => simp [LongList.onItemRemoved, redrawNotify, hselected] at hi
    | some selectedIndex =>
      have hlt := h.selected_lt _ hselected
      rw [onItemRemoved_selectedIndex hselected] at hi
      split_ifs at hi <;> simp only [Option.some.injEq] at hi <;> omega

theorem Valid.resize (h : Valid list) (area : Rect) : Valid (list.resize area) := by
  unfold LongList.resize
  split_ifs
  · exact ⟨.nil, fun _ hline => absurd hline List.not_mem_nil, h.selected_lt⟩
  · exact ⟨h.contiguous, h.lines_lt, h.selected_lt⟩

/-- Moving the selected item, or selecting the one to start with. -/
theorem Valid.select_moved (h : Valid list) {move : ℕ → ℕ}
    (hmove : ∀ i < list.itemCount, move i < list.itemCount) :
    Reselected list (list.select
      (match list.selectedIndex with
      | some selectedIndex => some (move selectedIndex)
      | none => selectionStartIndex list.selectLastFirst list.itemCount)) := by
  refine h.select fun index hindex => ?_
  cases hselected : list.selectedIndex with
  | some selectedIndex =>
    simp only [hselected, Option.some.injEq] at hindex
    exact hindex ▸ hmove selectedIndex (h.selected_lt _ hselected)
  | none =>
    simp only [hselected] at hindex
    exact selectionStartIndex_lt hindex

theorem Valid.handleMouseEvent (h : Valid list) (mouseEvent : MouseEvent) (isFocused : Bool) :
    Reselected list (list.handleMouseEvent mouseEvent isFocused).2 := by
  unfold LongList.handleMouseEvent
  simp only
  split_ifs
  · exact h.reselected
  · cases mouseEvent.kind with
    | scrollUp => exact h.select_moved fun i hi => by omega
    | scrollDown => exact h.select_moved fun i hi => by omega
    | other => exact h.reselected

theorem Valid.stepSelection_lt (h : Valid list) {limit : Option ℕ} {move : ℕ → ℕ → ℕ}
    (hmove : ∀ index l, index < list.itemCount → limit = some l → move index l < list.itemCount)
    {index : ℕ} (hindex : (list.stepSelection limit move).1 = some index) :
    index < list.itemCount := by
  unfold stepSelection at hindex
  split at hindex
  · exact selectionStartIndex_lt hindex
  · rename_i selectedIndex l hselected
    have hlt := h.selected_lt _ hselected
    split_ifs at hindex with heq <;> obtain rfl := Option.some.inj hindex
    · exact hlt
    · exact hmove _ _ hlt rfl
  · rename_i selectedIndex hselected
    obtain rfl := Option.some.inj hindex
    exact h.selected_lt _ hselected

theorem Valid.handleKeyEvent (h : Valid list) (handler : LongListHandler Line) (keyEvent : KeyEvent)
    (isFocused : Bool) : Reselected list (list.handleKeyEvent handler keyEvent isFocused).2 := by
  unfold LongList.handleKeyEvent
  simp only
  split
  · exact h.reselected
  split
  · exact h.reselected
  split
  · exact h.reselected
  cases keyEvent.code with
  | up =>
    refine h.select fun index hindex => h.stepSelection_lt (fun i first hi hfirst => ?_) hindex
    have hlt := indexOfFirst_lt hfirst
    omega
  | down =>
    refine h.select fun index hindex => h.stepSelection_lt (fun i last hi hlast => ?_) hindex
    have heq := indexOfLast_eq hlast
    omega
  | pageUp => exact h.select_moved fun i hi => by omega
  | pageDown =>
    refine h.select fun index hindex => ?_
    split at hindex
    · rename_i selectedIndex last hselected hlast
      have heq := indexOfLast_eq hlast
      simp only [Option.some.injEq] at hindex
      omega
    · rename_i selectedIndex hselected hnone
      obtain rfl := Option.some.inj hindex
      exact h.selected_lt _ hselected
    · exact selectionStartIndex_lt hindex
  | home => exact h.select fun _ => indexOfFirst_lt
  | endKey =>
    refine h.select fun index hindex => ?_
    have heq := indexOfLast_eq hindex
    omega
  | enter =>
    simp only
    split <;> exact h.reselected
  | left => exact h.reselected
  | right => exact h.reselected
  | tab => exact h.reselected
  | esc => exact h.reselected
  | other => exact h.reselected

theorem Valid.handleEvent (h : Valid list) (handler : LongListHandler Line) (event : TuiEvent)
    (isFocused : Bool) : Reselected list (list.handleEvent handler event isFocused).2 := by
  cases event with
  | mouse mouseEvent => exact h.handleMouseEvent mouseEvent isFocused
  | key keyEvent => exact h.handleKeyEvent handler keyEvent isFocused
  | other => exact h.reselected

theorem Valid.receiveFocus (h : Valid list) : Reselected list list.receiveFocus.2 := by
  unfold LongList.receiveFocus
  split
  · rename_i index hindex
    refine ⟨rfl, rfl, rfl, fun i hi => ?_⟩
    obtain rfl := Option.some.inj hi
    exact selectionStartIndex_lt hindex
  · exact h.reselected

theorem Valid.focusLost (h : Valid list) : Reselected list list.focusLost := by
  unfold LongList.focusLost
  split_ifs
  · exact ⟨rfl, rfl, rfl, fun _ hi => absurd hi (Option.some_ne_none _).symm⟩
  · exact h.reselected

theorem setSelectedIndex_reselected {selectedIndex : Option ℕ}
    (hset : list.setSelectedIndex (ε := ε) selectedIndex = .ok list') : Reselected list list' := by
  unfold LongList.setSelectedIndex at hset
  split_ifs at hset with hany
  obtain rfl := Except.ok.inj hset
  refine ⟨rfl, rfl, rfl, fun index hindex => ?_⟩
  obtain rfl : selectedIndex = some index := hindex
  simpa using hany

theorem centerItemIndex_lt
    (hselected : ∀ index, list.selectedIndex = some index → index < list.itemCount)
    (hpos : list.itemCount ≠ 0) : list.centerItemIndex < list.itemCount := by
  unfold centerItemIndex
  cases hindex : list.selectedIndex with
  | some index => exact hselected index hindex
  | none =>
    cases hstart : selectionStartIndex list.selectLastFirst list.itemCount with
    | some index => exact selectionStartIndex_lt hstart
    | none => exact Nat.pos_of_ne_zero hpos

/-! ### Renders -/

variable {handler : LongListHandler Line} {search : KeySearch (Line × ℕ)}

theorem GivesLines.isSome {width itemCount : ℕ} (h : GivesLines handler width itemCount) :
    ∀ i < itemCount, (handler.getItemLines i width).isSome := by
  intro i hi
  obtain ⟨lines, hlines, -⟩ := h i hi
  rw [hlines]
  rfl

theorem GivesLines.linesOf_ne_nil {width itemCount : ℕ} (h : GivesLines handler width itemCount) :
    ∀ i < itemCount, linesOf handler width i ≠ [] := by
  intro i hi
  obtain ⟨lines, hlines, hne⟩ := h i hi
  rwa [linesOf, hlines]

/-- The lines that are kept, and the handler's for the items of which there are none. -/
theorem Valid.exists_cached {width : ℕ} (h : Valid list)
    (hgives : GivesLines handler width list.itemCount) :
    ∃ g first last, Cached handler width list.itemCount g first last list.lines
      ∧ ∀ i < list.itemCount, g i ≠ [] := by
  obtain ⟨g, first, last, hle, hlast, hne, hlines⟩ := h.exists_blocks
  let g' (i : ℕ) : List Line := if first ≤ i ∧ i < last then g i else linesOf handler width i
  have hin {i : ℕ} (hi : first ≤ i ∧ i < last) : g' i = g i := if_pos hi
  have hout {i : ℕ} (hi : ¬ (first ≤ i ∧ i < last)) : g' i = linesOf handler width i := if_neg hi
  refine ⟨g', first, last, ⟨hle, hlast, ?_, fun i hi hi' => ?_, fun i hi hor => ?_⟩,
    fun i hi => ?_⟩
  · rw [hlines]
    exact blocks_congr fun i hi hi' => (hin ⟨hi, hi'⟩).symm
  · rw [hin ⟨hi, hi'⟩]
    exact hne i hi hi'
  · rw [hout (by omega)]
    exact getItemLines_eq hgives.isSome hi
  · by_cases hi' : first ≤ i ∧ i < last
    · rw [hin hi']
      exact hne i hi'.1 hi'.2
    · rw [hout hi']
      exact hgives.linesOf_ne_nil i hi

/-- The handler is never asked for an item that does not exist, as then it would panic. -/
theorem Valid.processLines {area : Rect} (h : Valid list)
    (hgives : GivesLines handler area.width list.itemCount) (search : KeySearch (Line × ℕ)) :
    ∃ drawn list', list.processLines (ε := ε) handler search list.centerItemIndex area
        = .ok (drawn, list') ∧ Valid list' := by
  by_cases hempty : list.itemCount = 0 ∨ area.isEmpty
  · exact ⟨[], list, if_pos hempty, h⟩
  obtain ⟨hcount, harea⟩ := not_or.1 hempty
  have hcenter := centerItemIndex_lt h.selected_lt hcount
  obtain ⟨g, first, last, hcached, hne⟩ := h.exists_cached hgives
  obtain ⟨g', e, hg', -, hfill, hprocess⟩ := hcached.processLines (ε := ε)
    hgives.isSome harea hcenter (hgives.linesOf_ne_nil _ hcenter) search
  obtain ⟨haround, -⟩ := Extent.around_of_fill hcenter hfill
  have hne' : ∀ i < list.itemCount, g' i ≠ [] := by
    obtain rfl | rfl := hg'
    · exact hne
    · exact hgives.linesOf_ne_nil
  have hsnd := map_snd_drawKept handler area.height (blocks g' e.lower e.next)
    e.skipped list
  refine ⟨_, (drawKept handler area.height (blocks g' e.lower e.next) e.skipped list).2,
    hprocess,
    .of_map_snd (contiguous_blocks fun i _ hi => hne' i (hi.trans_le haround.next_le)) hsnd,
    fun line hline => ?_, h.selected_lt⟩
  change line.2 < list.itemCount
  have hmem := List.mem_map_of_mem (f := Prod.snd) hline
  rw [hsnd, List.mem_map] at hmem
  obtain ⟨line', hline', heq⟩ := hmem
  rw [← heq]
  exact (mem_blocks.1 hline').2.1.trans_le haround.next_le

theorem render_snd {block : BlockInner} {area : Rect} {drawn : List Line}
    {drawn' : List (Drawn Line)} {list'' : LongList Line}
    (hprocess : list.processLines (ε := ε) handler search list.centerItemIndex (block.inner area)
      = .ok (drawn, list'))
    (h : list.render (ε := ε) handler search block area = .ok (drawn', list'')) :
    list'' = list' := by
  simp only [render, hprocess, bind, Except.bind, pure, Except.pure] at h
  repeat' split at h
  all_goals
    first
    | cases h; rfl
    | cases h

theorem Valid.render {block : BlockInner} {area : Rect} {drawn : List (Drawn Line)}
    (h : Valid list)
    (hgives : GivesLines handler (block.inner area).width list.itemCount)
    (hrender : list.render (ε := ε) handler search block area = .ok (drawn, list')) :
    Valid list' := by
  obtain ⟨lines, list'', hprocess, hvalid⟩ :=
    h.processLines (ε := ε) hgives search
  rwa [render_snd hprocess hrender]

theorem eq_ok_of_toOption {α : Type} {x : Except ε α} {a : α} (h : x.toOption = some a) :
    x = .ok a := by
  cases x with
  | ok b => exact congrArg _ (Option.some.inj h)
  | error e => cases h

theorem Valid.step {call : Call Line} (h : Valid list)
    (hpermitted : Permitted list call) (hstep : list.step call = some list') : Valid list' := by
  cases call with
  | setSelectedIndex selectedIndex =>
    exact h.of_reselected (setSelectedIndex_reselected (eq_ok_of_toOption hstep))
  | resetItemsNoRedraw itemCount tryKeepSelected =>
    obtain rfl := Option.some.inj hstep
    exact .resetItemsNoRedraw list itemCount tryKeepSelected
  | setItemCount itemCount =>
    obtain rfl := Option.some.inj hstep
    exact h.setItemCount itemCount
  | onItemRemoved index =>
    obtain rfl := Option.some.inj hstep
    exact h.onItemRemoved hpermitted
  | resize area =>
    obtain rfl := Option.some.inj hstep
    exact h.resize area
  | handleEvent handler event isFocused =>
    obtain rfl := Option.some.inj hstep
    exact h.of_reselected (h.handleEvent handler event isFocused)
  | receiveFocus =>
    obtain rfl := Option.some.inj hstep
    exact h.of_reselected h.receiveFocus
  | focusLost =>
    obtain rfl := Option.some.inj hstep
    exact h.of_reselected h.focusLost
  | render handler search block area =>
    obtain ⟨r, hrender, rfl⟩ := Option.map_eq_some_iff.1 hstep
    exact h.render hpermitted (eq_ok_of_toOption hrender)

/-- After any calls the lines are of consecutive items, they and the selected item exist, and the
handler is not asked for any other. -/
theorem valid_of_runSteps {title : StaticString} {itemCount : ℕ}
    {selectLastFirst deselectOnRemove : Bool} {calls : List (Call Line)}
    (hpermitted : AlongRun LongList.step Permitted
      (new title itemCount selectLastFirst deselectOnRemove) calls)
    (hrun : runSteps LongList.step (new title itemCount selectLastFirst deselectOnRemove) calls
      = some list) :
    Valid list ∧ ∀ (handler : LongListHandler Line) search area,
      GivesLines handler area.width list.itemCount →
        ∃ r, list.processLines (ε := Empty) handler search list.centerItemIndex area = .ok r := by
  have hvalid := runSteps_keeps_along (fun _ _ _ h hpermitted hstep => h.step hpermitted hstep)
    (valid_new title itemCount selectLastFirst deselectOnRemove) hpermitted hrun
  refine ⟨hvalid, fun handler search area hgives => ?_⟩
  obtain ⟨drawn, list', hprocess, -⟩ := hvalid.processLines (ε := Empty) hgives search
  exact ⟨(drawn, list'), hprocess⟩

end Valid

/-- A handler of items with one line each. -/
def unitHandler : LongListHandler Unit where
  getItemLines _ _ := some [()]
  modifyLineToSelected _ line _ := line
  modifyLineToUnselected _ line _ := line
  onEnter _ := .handled

theorem givesLines_unitHandler (width itemCount : ℕ) : GivesLines unitHandler width itemCount :=
  fun _ _ => ⟨[()], rfl, by simp⟩

/-- An area with room for four lines. -/
def fourLines : Rect := ⟨0, 0, 4, 6, by decide, by decide⟩

def scroll : MouseEvent := ⟨.scrollDown, ⟨true, false⟩⟩

theorem valid_of_runSteps_scrolled :
    Valid (⟨fourLines, .static [], [((), 0), ((), 1), ((), 2)], 8, some 0, false, false, true⟩ :
      LongList Unit)
      ∧ ∀ (handler : LongListHandler Unit) search area, GivesLines handler area.width 8 →
        ∃ r, LongList.processLines (ε := Empty) handler search 0 area
          ⟨fourLines, .static [], [((), 0), ((), 1), ((), 2)], 8, some 0, false, false, true⟩
            = .ok r := by
  have hrun : runSteps LongList.step (new (.static []) 9 false false)
      [.resize fourLines, .render unitHandler (.first _) .bordered fourLines,
        .handleEvent unitHandler (.mouse scroll) true, .onItemRemoved 1]
      = some ⟨fourLines, .static [], [((), 0), ((), 1), ((), 2)], 8, some 0, false, false, true⟩ :=
    rfl
  refine valid_of_runSteps ?_ hrun
  exact .cons trivial rfl (.cons (givesLines_unitHandler 2 9) rfl
    (.cons trivial rfl (.cons (show 1 < 9 by decide) rfl trivial)))

end LongList

end DustDevil
