import DustDevil.Client.LongList
import DustDevil.Lib.Blocks
import DustDevil.Lib.Extent

/-!
# What is in view of a long list

The lines of a list are those of consecutive items, and while `process_lines` fills the view they
stay so: the part that is in view is a window around the center item, and each round of the loop is
a round of that window (`Shows.fill`). The items that are kept between renders do not matter to it,
since it is only how many lines an item has that decides.
-/

namespace DustDevil

open Wire

namespace LongList

variable {Line ε : Type}

/-! ### Runs of lines of one item -/

section Runs

variable {xs ys zs : List (Line × ℕ)} {item m : ℕ}

theorem rtakeWhile_append {p : Line × ℕ → Bool} (hxs : ∀ x ∈ xs, ¬ p x) (hys : ∀ y ∈ ys, p y) :
    (xs ++ ys).rtakeWhile p = ys := by
  have hnil : xs.reverse.takeWhile p = [] := by
    refine List.takeWhile_eq_nil_iff.2 fun hlt hp => ?_
    exact hxs _ (List.mem_reverse.1 (List.getElem_mem hlt)) hp
  rw [List.rtakeWhile, List.reverse_append,
    List.takeWhile_append_of_pos fun y hy => hys y (List.mem_reverse.1 hy), hnil, List.append_nil,
    List.reverse_reverse]

theorem rdropWhile_append {p : Line × ℕ → Bool} (hxs : ∀ x ∈ xs, ¬ p x) (hys : ∀ y ∈ ys, p y) :
    (xs ++ ys).rdropWhile p = xs := by
  have h := List.rdropWhile_append_rtakeWhile (p := p) (l := xs ++ ys)
  rw [rtakeWhile_append hxs hys] at h
  exact List.append_cancel_right h

theorem takeWhile_append {p : Line × ℕ → Bool} (hys : ∀ y ∈ ys, p y) (hzs : ∀ z ∈ zs, ¬ p z) :
    (ys ++ zs).takeWhile p = ys := by
  have hnil : zs.takeWhile p = [] :=
    List.takeWhile_eq_nil_iff.2 fun hlt hp => hzs _ (List.getElem_mem hlt) hp
  rw [List.takeWhile_append_of_pos hys, hnil, List.append_nil]

theorem countBefore_append (hxs : ∀ x ∈ xs, x.2 ≠ item) (hys : ∀ y ∈ ys, y.2 = item)
    (hm : m ≤ ys.length) : countBefore (xs ++ (ys ++ zs)) (xs.length + m) item = m := by
  have htake : (xs ++ (ys ++ zs)).take (xs.length + m) = xs ++ ys.take m := by
    rw [List.take_length_add_append, List.take_append_of_le_length hm]
  rw [countBefore, htake, rtakeWhile_append (by simpa using hxs)
    fun y hy => by simpa using hys y (List.mem_of_mem_take hy), List.length_take_of_le hm]

theorem countFrom_append (hys : ∀ y ∈ ys, y.2 = item) (hzs : ∀ z ∈ zs, z.2 ≠ item)
    (hm : m ≤ ys.length) :
    countFrom (xs ++ (ys ++ zs)) (xs.length + m) item = ys.length - m := by
  have hdrop : (xs ++ (ys ++ zs)).drop (xs.length + m) = ys.drop m ++ zs := by
    rw [List.drop_length_add_append, List.drop_append_of_le_length hm]
  rw [countFrom, hdrop, takeWhile_append
    (fun y hy => by simpa using hys y (List.mem_of_mem_drop hy)) (by simpa using hzs),
    List.length_drop]

theorem itemAt_append (hys : ∀ y ∈ ys, y.2 = item) (hm : m < ys.length) :
    itemAt (ε := ε) (xs ++ (ys ++ zs)) (xs.length + m) = .ok item := by
  have hget : (xs ++ (ys ++ zs))[xs.length + m]? = some ys[m] := by
    rw [List.getElem?_append_right (Nat.le_add_right ..), Nat.add_sub_cancel_left,
      List.getElem?_append_left hm, List.getElem?_eq_getElem hm]
  simp only [itemAt, hget, hys _ (List.getElem_mem hm)]

theorem index_append {i : ℕ} {x : Line × ℕ} (hxs : ∀ x ∈ xs, x.2 ≠ item)
    (hzs : ∀ z ∈ zs, z.2 ≠ item) (h : (xs ++ (ys ++ zs))[i]? = some x) (hx : x.2 = item) :
    ∃ m < ys.length, i = xs.length + m := by
  obtain hlt | hle := Nat.lt_or_ge i xs.length
  · rw [List.getElem?_append_left hlt] at h
    exact absurd hx (hxs x (List.mem_of_getElem? h))
  · rw [List.getElem?_append_right hle] at h
    refine ⟨i - xs.length, Nat.lt_of_not_le fun hge => ?_, by omega⟩
    rw [List.getElem?_append_right hge] at h
    exact hzs x (List.mem_of_getElem? h) hx

end Runs

/-! ### The loop -/

/-- The window that is in view. -/
def Viewport.extent (view : Viewport Line) : Extent where
  lower := view.lowerItemsCurrentIndex
  next := view.higherItemsNextIndex
  low := view.remainingLowerLinesCount
  high := view.remainingHigherLinesCount

/-- The lines of an item, none if it does not exist. -/
def linesOf (handler : LongListHandler Line) (width item : ℕ) : List Line :=
  (handler.getItemLines item width).getD []

/-- The lines of the view are those of the items from `first` until `last`, where `g` are the lines
of each item, and the handler gives those of the items that are not among them. -/
structure Shows (handler : LongListHandler Line) (width count : ℕ) (g : ℕ → List Line)
    (first last : ℕ) (view : Viewport Line) : Prop where
  first_le : first ≤ view.lowerItemsCurrentIndex
  lower_lt : view.lowerItemsCurrentIndex < view.higherItemsNextIndex
  next_le : view.higherItemsNextIndex ≤ last
  last_le : last ≤ count
  lines_eq : view.lines = blocks g first last
  lowerI_eq : view.linesLowerItemCurrentI = (blocks g first view.lowerItemsCurrentIndex).length
  higherI_eq : view.linesHigherItemNextI = (blocks g first view.higherItemsNextIndex).length
  below_ne : ∀ i, first ≤ i → i < view.lowerItemsCurrentIndex → g i ≠ []
  above_ne : ∀ i, view.higherItemsNextIndex ≤ i → i < last → g i ≠ []
  given : ∀ i < count, i < first ∨ last ≤ i → handler.getItemLines i width = some (g i)

section Fill

variable {handler : LongListHandler Line} {width count first last : ℕ} {g : ℕ → List Line}
  {view : Viewport Line}

theorem itemLines_ok {item : ℕ} (h : handler.getItemLines item width = some (g item)) :
    itemLines (ε := ε) handler width item = .ok ((g item).map (·, item)) := by
  rw [itemLines, h]

theorem ne_of_mem_map {ls : List Line} {item : ℕ} : ∀ y ∈ ls.map (·, item), y.2 = item := by
  intro y hy
  obtain ⟨_, -, rfl⟩ := List.mem_map.1 hy
  rfl

theorem ne_of_mem_blocks_before {item : ℕ} : ∀ x ∈ blocks g first item, x.2 ≠ item :=
  fun _ hx => (mem_blocks.1 hx).2.1.ne

theorem ne_of_mem_blocks_after {item : ℕ} : ∀ x ∈ blocks g (item + 1) last, x.2 ≠ item :=
  fun _ hx => (Nat.lt_of_succ_le (mem_blocks.1 hx).1).ne'

theorem addLower_new {item : ℕ} (hlower : view.lowerItemsCurrentIndex = item + 1)
    (hI : view.linesLowerItemCurrentI = 0)
    (hitem : handler.getItemLines item width = some (g item)) :
    view.addLower (ε := ε) handler width = .ok { view with
      lines := (g item).map (·, item) ++ view.lines
      remainingLowerLinesCount := view.remainingLowerLinesCount - (g item).length
      lowerItemsCurrentIndex := item
      linesHigherItemNextI := view.linesHigherItemNextI + (g item).length } := by
  simp only [Viewport.addLower, hlower, hI, Nat.succ_ne_zero, if_false, if_true,
    Nat.add_sub_cancel, itemLines_ok hitem]
  simp only [bind, Except.bind, pure, Except.pure, List.length_map]

theorem addLower_kept {item : ℕ} (hlower : view.lowerItemsCurrentIndex = item + 1)
    (hI : view.linesLowerItemCurrentI ≠ 0)
    (hitem : itemAt (ε := ε) view.lines (view.linesLowerItemCurrentI - 1) = .ok item) {count : ℕ}
    (hcount : countBefore view.lines (view.linesLowerItemCurrentI - 1) item = count) :
    view.addLower (ε := ε) handler width = .ok { view with
      remainingLowerLinesCount := view.remainingLowerLinesCount - 1 - count
      lowerItemsCurrentIndex := item
      linesLowerItemCurrentI := view.linesLowerItemCurrentI - 1 - count } := by
  subst hcount
  simp only [Viewport.addLower, hlower, hI, Nat.succ_ne_zero, if_false, Nat.add_sub_cancel, hitem]
  rfl

theorem round_lower_succ {item : ℕ} (hlower : view.lowerItemsCurrentIndex = item + 1)
    (hlt : view.remainingHigherLinesCount < view.remainingLowerLinesCount) :
    view.extent.round (fun i => (g i).length) count
      = ⟨item, view.higherItemsNextIndex, view.remainingLowerLinesCount - (g item).length,
        view.remainingHigherLinesCount⟩ := by
  simp [Viewport.extent, Extent.round, hlt, hlower]

theorem Shows.addLower (h : Shows handler width count g first last view)
    (hlt : view.remainingHigherLinesCount < view.remainingLowerLinesCount) :
    ∃ view', view.addLower (ε := ε) handler width = .ok view'
      ∧ view'.extent = view.extent.round (fun i => (g i).length) count
      ∧ ∃ first last, Shows handler width count g first last view' := by
  obtain ⟨hfirst, hlower, hnext, hlast, hlines, hlowerI, hnextI, hbelow, habove, hgiven⟩ := h
  cases hindex : view.lowerItemsCurrentIndex with
  | zero =>
    refine ⟨_, if_pos hindex, ?_, first, last, hfirst, hlower, hnext, hlast, hlines, hlowerI,
      hnextI, hbelow, habove, hgiven⟩
    simp [Viewport.extent, Extent.round, hlt, hindex]
  | succ item =>
    rw [hindex] at hfirst hlower hlowerI hbelow
    rw [round_lower_succ hindex hlt]
    obtain rfl | hitem := Nat.eq_or_lt_of_le hfirst
    · -- The item is not among the lines.
      rw [blocks_self, List.length_nil] at hlowerI
      have hitem := hgiven item (by omega) (.inl (Nat.lt_succ_self item))
      refine ⟨_, addLower_new hindex hlowerI hitem, rfl, item, last, le_rfl,
        Nat.lt_of_succ_lt hlower, hnext, hlast, ?_, ?_, ?_, fun i hi hi' => ?_, habove,
        fun i hi hor => hgiven i hi (by omega)⟩
      · rw [hlines, ← blocks_cons (by omega)]
      · rw [hlowerI, blocks_self, List.length_nil]
      · change view.linesHigherItemNextI + _ = (blocks g item view.higherItemsNextIndex).length
        rw [hnextI, blocks_cons (a := item) (Nat.lt_of_succ_lt hlower), List.length_append,
          List.length_map, Nat.add_comm]
      · exact absurd hi' (Nat.not_lt_of_le hi)
    · -- The lines of the item are passed over.
      have hle : first ≤ item := Nat.le_of_lt_succ hitem
      have hpos := List.length_pos_iff.2 (hbelow item hle (Nat.lt_succ_self item))
      rw [blocks_snoc hle, List.length_append, List.length_map] at hlowerI
      have hsplit := hlines.trans (blocks_split hle (by omega))
      have hI : view.linesLowerItemCurrentI - 1
          = (blocks g first item).length + ((g item).length - 1) := by omega
      have hlength : ((g item).map (·, item)).length = (g item).length := List.length_map ..
      have hitemAt : itemAt (ε := ε) view.lines (view.linesLowerItemCurrentI - 1) = .ok item := by
        rw [hsplit, hI]
        exact itemAt_append ne_of_mem_map (by omega)
      have hcount : countBefore view.lines (view.linesLowerItemCurrentI - 1) item
          = (g item).length - 1 := by
        rw [hsplit, hI]
        exact countBefore_append ne_of_mem_blocks_before ne_of_mem_map (by omega)
      refine ⟨_, addLower_kept hindex (by omega) hitemAt hcount, ?_, first, last, hle,
        Nat.lt_of_succ_lt hlower, hnext, hlast, hlines, by simp only; omega, hnextI,
        fun i hi hi' => hbelow i hi (Nat.lt_succ_of_lt hi'), habove, hgiven⟩
      simp only [Viewport.extent, Extent.mk.injEq, true_and, and_true]
      omega

theorem addHigher_new {item : ℕ} (hnext : view.higherItemsNextIndex = item) (hcount : item ≠ count)
    (hI : view.linesHigherItemNextI = view.lines.length)
    (hitem : handler.getItemLines item width = some (g item)) :
    view.addHigher (ε := ε) handler width count = .ok { view with
      lines := view.lines ++ (g item).map (·, item)
      remainingHigherLinesCount := view.remainingHigherLinesCount - (g item).length
      higherItemsNextIndex := item + 1
      linesHigherItemNextI := view.lines.length + (g item).length } := by
  simp only [Viewport.addHigher, hnext, hcount, hI, if_false, if_true, itemLines_ok hitem]
  simp only [bind, Except.bind, pure, Except.pure, List.length_map]

theorem addHigher_kept {item : ℕ} (hnext : view.higherItemsNextIndex = item) (hcount : item ≠ count)
    (hI : view.linesHigherItemNextI ≠ view.lines.length)
    (hitem : itemAt (ε := ε) view.lines view.linesHigherItemNextI = .ok item) {n : ℕ}
    (hn : countFrom view.lines (view.linesHigherItemNextI + 1) item = n) :
    view.addHigher (ε := ε) handler width count = .ok { view with
      remainingHigherLinesCount := view.remainingHigherLinesCount - 1 - n
      higherItemsNextIndex := item + 1
      linesHigherItemNextI := view.linesHigherItemNextI + 1 + n } := by
  subst hn
  simp only [Viewport.addHigher, hnext, hcount, hI, if_false, hitem]
  rfl

theorem round_higher_succ {item : ℕ} (hnext : view.higherItemsNextIndex = item)
    (hcount : item ≠ count)
    (hle : ¬ view.remainingHigherLinesCount < view.remainingLowerLinesCount) :
    view.extent.round (fun i => (g i).length) count
      = ⟨view.lowerItemsCurrentIndex, item + 1, view.remainingLowerLinesCount,
        view.remainingHigherLinesCount - (g item).length⟩ := by
  simp [Viewport.extent, Extent.round, hle, hnext, hcount]

theorem Shows.addHigher (h : Shows handler width count g first last view)
    (hle : ¬ view.remainingHigherLinesCount < view.remainingLowerLinesCount) :
    ∃ view', view.addHigher (ε := ε) handler width count = .ok view'
      ∧ view'.extent = view.extent.round (fun i => (g i).length) count
      ∧ ∃ first last, Shows handler width count g first last view' := by
  obtain ⟨hfirst, hlower, hnext, hlast, hlines, hlowerI, hnextI, hbelow, habove, hgiven⟩ := h
  obtain hcount | hcount := eq_or_ne view.higherItemsNextIndex count
  · refine ⟨_, if_pos hcount, ?_, first, last, hfirst, hlower, hnext, hlast, hlines, hlowerI,
      hnextI, hbelow, habove, hgiven⟩
    simp [Viewport.extent, Extent.round, hle, hcount]
  · obtain ⟨item, hitem⟩ : ∃ item, view.higherItemsNextIndex = item := ⟨_, rfl⟩
    rw [hitem] at hlower hnext hnextI habove hcount
    rw [round_higher_succ hitem hcount hle]
    have hle' : first ≤ item := by omega
    obtain rfl | hlt := Nat.eq_or_lt_of_le hnext
    · -- The item is not among the lines.
      have hgiven' := hgiven item (by omega) (.inr le_rfl)
      have hI : view.linesHigherItemNextI = view.lines.length := by rw [hnextI, hlines]
      refine ⟨_, addHigher_new hitem hcount hI hgiven', rfl, first, item + 1, hfirst,
        Nat.lt_succ_of_lt hlower, le_rfl, by omega, ?_, hlowerI, ?_, hbelow,
        fun i hi hi' => absurd hi' (Nat.not_lt_of_le hi), fun i hi hor => hgiven i hi (by omega)⟩
      · rw [hlines, ← blocks_snoc hle']
      · change view.lines.length + _ = (blocks g first (item + 1)).length
        rw [hlines, blocks_snoc hle', List.length_append, List.length_map]
    · -- The lines of the item are passed over.
      have hpos := List.length_pos_iff.2 (habove item le_rfl hlt)
      have hsplit := hlines.trans (blocks_split hle' hlt)
      have hlength : ((g item).map (·, item)).length = (g item).length := List.length_map ..
      have hI : view.linesHigherItemNextI ≠ view.lines.length := by
        rw [hnextI, hsplit, List.length_append, List.length_append]
        omega
      have hitemAt : itemAt (ε := ε) view.lines view.linesHigherItemNextI = .ok item := by
        rw [hsplit, hnextI]
        exact itemAt_append (m := 0) ne_of_mem_map (by omega)
      have hn : countFrom view.lines (view.linesHigherItemNextI + 1) item
          = (g item).length - 1 := by
        rw [hsplit, hnextI, countFrom_append ne_of_mem_map ne_of_mem_blocks_after (by omega),
          hlength]
      refine ⟨_, addHigher_kept hitem hcount hI hitemAt hn, ?_, first, last, hfirst,
        Nat.lt_succ_of_lt hlower, hlt, hlast, hlines, hlowerI, ?_, hbelow,
        fun i hi hi' => habove i (Nat.le_of_succ_le hi) hi', hgiven⟩
      · simp only [Viewport.extent, Extent.mk.injEq, true_and]
        omega
      · rw [blocks_snoc hle', List.length_append]
        simp only
        omega

theorem fill_succ (fuel : ℕ) (view : Viewport Line) :
    view.fill (ε := ε) handler width count (fuel + 1)
      = if view.extent.Lacking count then
          (if view.remainingHigherLinesCount < view.remainingLowerLinesCount then
            view.addLower handler width
          else view.addHigher handler width count) >>= Viewport.fill handler width count fuel
        else .ok view := by
  rw [Viewport.fill]
  by_cases hlt : view.remainingHigherLinesCount < view.remainingLowerLinesCount
  · simp only [if_pos hlt]
    rfl
  · simp only [if_neg hlt]
    rfl

/-- A round of the loop is a round of the window. -/
theorem Shows.fill {e : Extent} : ∀ {fuel : ℕ} {view : Viewport Line} {first last : ℕ},
    Shows handler width count g first last view →
      view.extent.fill (fun i => (g i).length) count fuel = some e →
      ∃ view', view.fill (ε := ε) handler width count fuel = .ok view' ∧ view'.extent = e
        ∧ ∃ first last, Shows handler width count g first last view'
  | fuel + 1, view, first, last, h, hfill => by
    unfold Extent.fill at hfill
    rw [fill_succ]
    split_ifs at hfill ⊢ with hlacking hlt
    · obtain ⟨view', hadd, hround, first', last', h'⟩ := h.addLower (ε := ε) hlt
      rw [← hround] at hfill
      rw [hadd]
      exact Shows.fill h' hfill
    · obtain ⟨view', hadd, hround, first', last', h'⟩ := h.addHigher (ε := ε) hlt
      rw [← hround] at hfill
      rw [hadd]
      exact Shows.fill h' hfill
    · exact ⟨view, rfl, Option.some.inj hfill, first, last, h⟩

end Fill

/-! ### The start -/

/-- The lines that are kept are those of the items from `first` until `last`, each with at least one
line, and the handler gives the lines of the other items. -/
structure Cached (handler : LongListHandler Line) (width count : ℕ) (g : ℕ → List Line)
    (first last : ℕ) (lines : List (Line × ℕ)) : Prop where
  le : first ≤ last
  last_le : last ≤ count
  lines_eq : lines = blocks g first last
  ne_nil : ∀ i, first ≤ i → i < last → g i ≠ []
  given : ∀ i < count, i < first ∨ last ≤ i → handler.getItemLines i width = some (g i)

section Center

variable {handler : LongListHandler Line} {search : KeySearch (Line × ℕ)}
  {width height count first last item : ℕ} {g : ℕ → List Line} {lines : List (Line × ℕ)}

theorem getItemLines_eq (hall : ∀ i < count, (handler.getItemLines i width).isSome)
    (hitem : item < count) :
    handler.getItemLines item width = some (linesOf handler width item) := by
  obtain ⟨ls, hls⟩ := Option.isSome_iff_exists.1 (hall item hitem)
  rw [linesOf, hls, Option.getD_some]

/-- Nothing needs to be kept. -/
theorem cached_nil (hall : ∀ i < count, (handler.getItemLines i width).isSome) :
    Cached handler width count (linesOf handler width) 0 0 [] where
  le := le_rfl
  last_le := Nat.zero_le count
  lines_eq := blocks_self.symm
  ne_nil i _ hi := absurd hi (Nat.not_lt_zero i)
  given _ hi _ := getItemLines_eq hall hi

theorem center_of_ok {index : ℕ} (hsearch : search.search Prod.snd item lines = .ok index)
    {start n : ℕ} (hstart : index - countBefore lines index item = start)
    (hn : countFrom lines (start + 1) item = n) (hlt : start < lines.length) :
    Viewport.center (ε := ε) handler search item width height lines = .ok {
      lines := lines
      remainingLowerLinesCount := ((height - (1 + n)) / 2 : ℕ)
      lowerItemsCurrentIndex := item
      linesLowerItemCurrentI := start
      remainingHigherLinesCount := ((height - (1 + n) + 1) / 2 : ℕ)
      higherItemsNextIndex := item + 1
      linesHigherItemNextI := start + 1 + n } := by
  subst hstart hn
  simp only [Viewport.center, hsearch]
  exact if_neg (Nat.not_lt_of_le (Nat.succ_le_of_lt hlt))

theorem center_of_error {index : ℕ} (hsearch : search.search Prod.snd item lines = .error index)
    {ls : List Line} (hls : handler.getItemLines item width = some ls) :
    Viewport.center (ε := ε) handler search item width height lines
      = if ls.length < 1 then .error .panic
        else .ok {
          lines := ls.map (·, item)
          remainingLowerLinesCount := ((height - ls.length) / 2 : ℕ)
          lowerItemsCurrentIndex := item
          linesLowerItemCurrentI := 0
          remainingHigherLinesCount := ((height - ls.length + 1) / 2 : ℕ)
          higherItemsNextIndex := item + 1
          linesHigherItemNextI := 0 + 1 + countFrom (ls.map (·, item)) (0 + 1) item } := by
  have hitemLines : itemLines (ε := ε) handler width item = .ok (ls.map (·, item)) := by
    rw [itemLines, hls]
  simp only [Viewport.center, hsearch, hitemLines]
  simp only [bind, Except.bind, pure, Except.pure, List.length_map]

/-- Where the center item is, if its lines are kept. -/
theorem Cached.exists_index (h : Cached handler width count g first last lines) {index : ℕ}
    (hsearch : search.search Prod.snd item lines = .ok index) :
    first ≤ item ∧ item < last ∧ ∃ m < (g item).length,
      index = (blocks g first item).length + m := by
  have hsorted : lines.Pairwise fun x y => x.2 ≤ y.2 := by
    rw [h.lines_eq]
    exact (contiguous_blocks h.ne_nil).pairwise
  obtain ⟨x, hx, hitem⟩ := search.ok _ _ _ _ hsorted hsearch
  have hmem := List.mem_of_getElem? hx
  rw [h.lines_eq, mem_blocks, hitem] at hmem
  obtain ⟨hfirst, hlast, -⟩ := hmem
  rw [h.lines_eq, blocks_split hfirst hlast] at hx
  obtain ⟨m, hm, hindex⟩ :=
    index_append ne_of_mem_blocks_before ne_of_mem_blocks_after hx hitem
  rw [List.length_map] at hm
  exact ⟨hfirst, hlast, m, hm, hindex⟩

theorem Cached.center (h : Cached handler width count g first last lines)
    (hall : ∀ i < count, (handler.getItemLines i width).isSome) (hitem : item < count)
    (hne : linesOf handler width item ≠ []) (search : KeySearch (Line × ℕ)) (height : ℕ) :
    ∃ view g' first last, Viewport.center (ε := ε) handler search item width height lines = .ok view
      ∧ (g' = g ∨ g' = linesOf handler width) ∧ g' item ≠ []
      ∧ view.extent = Extent.center item (height - (g' item).length)
      ∧ Shows handler width count g' first last view := by
  cases hsearch : search.search Prod.snd item lines with
  | ok index =>
    obtain ⟨hfirst, hlast, m, hm, hindex⟩ := h.exists_index hsearch
    have hsplit := h.lines_eq.trans (blocks_split hfirst hlast)
    have hlength : ((g item).map (·, item)).length = (g item).length := List.length_map ..
    have hstart : index - countBefore lines index item = (blocks g first item).length := by
      rw [hsplit, hindex, countBefore_append ne_of_mem_blocks_before ne_of_mem_map (by omega)]
      omega
    have hn : countFrom lines ((blocks g first item).length + 1) item = (g item).length - 1 := by
      rw [hsplit, countFrom_append ne_of_mem_map ne_of_mem_blocks_after (by omega), hlength]
    have hlt : (blocks g first item).length < lines.length := by
      rw [hsplit, List.length_append, List.length_append]
      omega
    refine ⟨_, g, first, last, center_of_ok hsearch hstart hn hlt, .inl rfl,
      h.ne_nil item hfirst hlast, ?_, hfirst, Nat.lt_succ_self item, hlast, h.last_le, h.lines_eq,
      rfl, ?_, fun i hi hi' => h.ne_nil i hi (lt_trans hi' hlast),
      fun i hi hi' => h.ne_nil i (by simp only at hi; omega) hi', h.given⟩
    · have hcount : 1 + ((g item).length - 1) = (g item).length := by omega
      rw [Viewport.extent, Extent.center, hcount]
    · rw [blocks_snoc hfirst, List.length_append, hlength]
      simp only
      omega
  | error index =>
    have hls := getItemLines_eq hall hitem
    have hpos := List.length_pos_iff.2 hne
    have hn : countFrom ((linesOf handler width item).map (·, item)) (0 + 1) item
        = (linesOf handler width item).length - 1 := by
      rw [countFrom, List.takeWhile_eq_self_iff.2 fun y hy => by
        simpa using ne_of_mem_map y (List.mem_of_mem_drop hy), List.length_drop, List.length_map]
    refine ⟨_, linesOf handler width, item, item + 1,
      (center_of_error hsearch hls).trans (if_neg (by omega)), .inr rfl, hne, rfl, le_rfl,
      Nat.lt_succ_self item, le_rfl, hitem, (blocks_succ ..).symm, ?_, ?_, ?_, ?_, ?_⟩
    · rw [blocks_self, List.length_nil]
    · rw [hn, blocks_succ, List.length_map]
      simp only
      omega
    · exact fun i hi hi' => absurd hi' (Nat.not_lt_of_le hi)
    · exact fun i hi hi' => absurd hi' (Nat.not_lt_of_le hi)
    · exact fun i hi _ => getItemLines_eq hall hi

end Center

/-! ### Drawing -/

section Draw

variable {handler : LongListHandler Line} {search : KeySearch (Line × ℕ)}

/-- The lines that are drawn of those in view, and the list after it. -/
def drawKept (handler : LongListHandler Line) (height : ℕ) (kept : List (Line × ℕ)) (skipped : ℕ)
    (list : LongList Line) : List Line × LongList Line :=
  let (drawn, lines) := drawLines handler list.selectedIndex none (UInt16.ofNat skipped)
    ((kept.drop skipped).take height)
  (drawn, { list with
    lines := kept.take skipped ++ lines ++ (kept.drop skipped).drop height })

theorem map_snd_drawLines (selectedIndex : Option ℕ) :
    ∀ (previous : Option ℕ) (number : UInt16) (lines : List (Line × ℕ)),
      (drawLines handler selectedIndex previous number lines).2.map Prod.snd
        = lines.map Prod.snd
  | _, _, [] => rfl
  | previous, number, (line, item) :: lines => by
    unfold drawLines
    simp only
    split_ifs <;> simp only [List.map_cons, map_snd_drawLines]

theorem length_drawLines (selectedIndex : Option ℕ) :
    ∀ (previous : Option ℕ) (number : UInt16) (lines : List (Line × ℕ)),
      (drawLines handler selectedIndex previous number lines).1.length = lines.length
  | _, _, [] => rfl
  | previous, number, (line, item) :: lines => by
    unfold drawLines
    simp only
    split_ifs <;> simp only [List.length_cons, length_drawLines]

/-- The lines after it are of the same items as those that are kept. -/
theorem map_snd_drawKept (handler : LongListHandler Line) (height : ℕ) (kept : List (Line × ℕ))
    (skipped : ℕ) (list : LongList Line) :
    (drawKept handler height kept skipped list).2.lines.map Prod.snd = kept.map Prod.snd := by
  simp only [drawKept, List.map_append, map_snd_drawLines]
  rw [← List.map_append, ← List.map_append, List.append_assoc, List.take_append_drop,
    List.take_append_drop]

variable {width count first last item : ℕ} {g : ℕ → List Line}

theorem Shows.kept_eq {view : Viewport Line}
    (h : Shows handler width count g first last view) :
    view.kept = blocks g view.lowerItemsCurrentIndex view.higherItemsNextIndex := by
  have hle := le_of_lt h.lower_lt
  rw [Viewport.kept, h.lines_eq, h.higherI_eq, h.lowerI_eq,
    ← blocks_append (h.first_le.trans hle) h.next_le, List.take_left,
    ← blocks_append h.first_le hle, List.drop_left]

theorem processLines_eq {area : Rect} {list : LongList Line} {view view' : Viewport Line}
    (hcount : ¬ (list.itemCount = 0 ∨ area.isEmpty))
    (hcenter : Viewport.center (ε := ε) handler search item area.width area.height list.lines
      = .ok view)
    (hfill : view.fill (ε := ε) handler area.width list.itemCount (2 * list.itemCount + 1)
      = .ok view') :
    list.processLines (ε := ε) handler search item area
      = .ok (drawKept handler area.height view'.kept (-view'.remainingLowerLinesCount).toNat
        list) := by
  simp only [processLines, if_neg hcount, hcenter]
  simp only [bind, Except.bind, hfill]
  rfl

/-- What is drawn is determined by the window around the center item. -/
theorem Cached.processLines {area : Rect} {list : LongList Line}
    (h : Cached handler area.width list.itemCount g first last list.lines)
    (hall : ∀ i < list.itemCount, (handler.getItemLines i area.width).isSome)
    (harea : ¬ area.isEmpty) (hitem : item < list.itemCount)
    (hne : linesOf handler area.width item ≠ []) (search : KeySearch (Line × ℕ)) :
    ∃ g' e, (g' = g ∨ g' = linesOf handler area.width) ∧ g' item ≠ []
      ∧ (Extent.center item (area.height - (g' item).length)).fill (fun i => (g' i).length)
        list.itemCount (2 * list.itemCount + 1) = some e
      ∧ list.processLines (ε := ε) handler search item area
        = .ok (drawKept handler area.height (blocks g' e.lower e.next) e.skipped list) := by
  obtain ⟨view, g', first', last', hcenter, hg', hne', hextent, hshows⟩ :=
    h.center (ε := ε) hall hitem hne search area.height
  obtain ⟨e, hfill⟩ := Extent.exists_fill_center (n := fun i => (g' i).length)
    (area.height - (g' item).length) hitem
  rw [← hextent] at hfill
  obtain ⟨view', hview', rfl, _, _, hshows'⟩ := hshows.fill (ε := ε) hfill
  refine ⟨g', view'.extent, hg', hne', hextent ▸ hfill, ?_⟩
  have hcount : ¬ (list.itemCount = 0 ∨ area.isEmpty) := by
    rintro (hzero | hempty)
    · omega
    · exact harea hempty
  rw [processLines_eq hcount hcenter hview', hshows'.kept_eq]
  rfl

end Draw

end LongList

end DustDevil
