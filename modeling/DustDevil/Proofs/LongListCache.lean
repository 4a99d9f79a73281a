import DustDevil.Proofs.LongListRender

/-!
# What a long list keeps stays right

As long as a list is told of each change of its items, and is rendered in the area that it was last
resized to, the lines that it keeps are what the handler gives (`drawable_of_runSteps`).
-/

namespace DustDevil

open Wire

namespace LongList

variable {Line ε : Type} {handler handler' : LongListHandler Line} {block : BlockInner}
  {list list' : LongList Line}

/-- What is drawn as selected can be drawn as it was before. -/
def Restores (handler : LongListHandler Line) : Prop :=
  ∀ i line number, handler.modifyLineToUnselected i (handler.modifyLineToSelected i line number)
    number = line

theorem Drawable.of_reselected (h : Drawable handler block list)
    (hlist : Reselected list list') : Drawable handler block list' where
  selected_lt := by
    rw [hlist.itemCount_eq]
    exact hlist.selected_lt
  isSome := by
    rw [hlist.itemCount_eq, hlist.currentArea_eq]
    exact h.isSome
  cached := by
    rw [hlist.itemCount_eq, hlist.currentArea_eq, hlist.lines_eq]
    exact h.cached
  empty := by
    rw [hlist.currentArea_eq, hlist.lines_eq]
    exact h.empty

/-! ### Other areas and other items -/

theorem Cached.of_same {width count' first last : ℕ} {lines : List (Line × ℕ)}
    {g : ℕ → List Line} (hle : first ≤ last) (hlast : last ≤ count')
    (hlines : lines = blocks g first last) (hne : ∀ i, first ≤ i → i < last → g i ≠ [])
    (hsame : ∀ i, first ≤ i → i < last → linesOf handler width i = g i)
    (hall : ∀ i < count', (handler.getItemLines i width).isSome) :
    Cached handler width count' (linesOf handler width) first last lines where
  le := hle
  last_le := hlast
  lines_eq := hlines.trans (blocks_congr fun i hi hi' => (hsame i hi hi').symm)
  ne_nil i hi hi' := by
    rw [hsame i hi hi']
    exact hne i hi hi'
  given _ hi _ := getItemLines_eq hall hi

theorem Drawable.resize (h : Drawable handler block list)
    (hgives : ∀ width, GivesLines handler width list.itemCount) (area : Rect) :
    Drawable handler block (list.resize area) := by
  unfold LongList.resize
  split_ifs with hsize
  · exact ⟨h.selected_lt, (hgives _).isSome, ⟨0, 0, cached_nil (hgives _).isSome⟩, fun _ => rfl⟩
  · obtain ⟨hwidth, hheight⟩ := not_or.1 hsize
    have hwidth' : (block.inner area).width = (block.inner list.currentArea).width := by
      rw [block.width_eq, block.width_eq, not_not.1 hwidth]
    have hheight' : (block.inner area).height = (block.inner list.currentArea).height := by
      rw [block.height_eq, block.height_eq, not_not.1 hheight]
    refine ⟨h.selected_lt, (hgives _).isSome, ?_, fun hempty => h.empty ?_⟩
    · rw [hwidth']
      exact h.cached
    · rwa [Rect.isEmpty_iff, hwidth', hheight', ← Rect.isEmpty_iff] at hempty

/-- A reset forgets what is kept, so the items may be any others after it. -/
theorem drawable_resetItemsNoRedraw {itemCount : ℕ}
    (hgives : ∀ width, GivesLines handler width itemCount) (tryKeepSelected : Bool)
    (list : LongList Line) :
    Drawable handler block (list.resetItemsNoRedraw itemCount tryKeepSelected) where
  selected_lt := (Valid.resetItemsNoRedraw list itemCount tryKeepSelected).selected_lt
  isSome := (hgives _).isSome
  cached := ⟨0, 0, cached_nil (hgives _).isSome⟩
  empty _ := rfl

/-- The lines of the items that are left. -/
theorem rdropWhile_blocks {g : ℕ → List Line} {first last : ℕ} (hle : first ≤ last)
    (itemCount : ℕ) :
    ∃ first' last', first' ≤ last' ∧ last' ≤ itemCount
      ∧ (∀ i, first' ≤ i → i < last' → first ≤ i ∧ i < last)
      ∧ (blocks g first last).rdropWhile (fun line => itemCount ≤ line.2)
        = blocks g first' last' := by
  obtain hfirst | hfirst := Nat.lt_or_ge itemCount first
  · refine ⟨0, 0, le_rfl, Nat.zero_le _, fun i _ hi => absurd hi (Nat.not_lt_zero i), ?_⟩
    rw [blocks_self, List.rdropWhile_eq_nil_iff]
    intro line hline
    have hle := (mem_blocks.1 hline).1
    simp only [decide_eq_true_eq]
    omega
  · refine ⟨first, min last itemCount, by omega, by omega, fun i hi hi' => by omega, ?_⟩
    rw [← blocks_append (b := min last itemCount) (by omega) (by omega)]
    refine rdropWhile_append (fun line hline => ?_) fun line hline => ?_
    · have hlt := (mem_blocks.1 hline).2.1
      simp only [decide_eq_true_eq]
      omega
    · obtain ⟨hge, hlt, -⟩ := mem_blocks.1 hline
      simp only [decide_eq_true_eq]
      omega

theorem linesOf_eq {width i j : ℕ}
    (h : handler'.getItemLines i width = handler.getItemLines j width) :
    linesOf handler' width i = linesOf handler width j := by
  rw [linesOf, h, linesOf]

theorem setItemCount_same (hvalid : Valid list) (itemCount : ℕ) :
    (list.setItemCount itemCount).itemCount = itemCount
      ∧ (list.setItemCount itemCount).currentArea = list.currentArea
      ∧ (list.setItemCount itemCount).lines
        = list.lines.rdropWhile fun line => itemCount ≤ line.2 := by
  unfold setItemCount
  split_ifs with heq
  · refine ⟨heq, rfl, (List.rdropWhile_eq_self_iff.2 fun hne => ?_).symm⟩
    have hlt := hvalid.lines_lt _ (List.getLast_mem hne)
    simp only [decide_eq_true_eq]
    omega
  · exact ⟨rfl, rfl, rfl⟩

/-- The items that remain are as they were. -/
theorem Drawable.setItemCount {itemCount : ℕ} (h : Drawable handler block list)
    (hvalid : Valid list) (hgives : ∀ width, GivesLines handler' width itemCount)
    (hsame : ∀ i < min list.itemCount itemCount, ∀ width,
      handler'.getItemLines i width = handler.getItemLines i width) :
    Drawable handler' block (list.setItemCount itemCount) := by
  obtain ⟨first, last, hcached⟩ := h.cached
  obtain ⟨first', last', hle, hlast, hin, hdrop⟩ := rdropWhile_blocks
    (g := linesOf handler (block.inner list.currentArea).width) hcached.le itemCount
  obtain ⟨hcount, harea, hlines⟩ := setItemCount_same hvalid itemCount
  have hlines' : (list.setItemCount itemCount).lines
      = blocks (linesOf handler (block.inner list.currentArea).width) first' last' := by
    rw [hlines, hcached.lines_eq, hdrop]
  refine ⟨(hvalid.setItemCount itemCount).selected_lt, ?_, ⟨first', last', ?_⟩, fun hempty => ?_⟩
  · rw [hcount]
    exact (hgives _).isSome
  · rw [hcount, harea]
    refine .of_same hle hlast hlines' (fun i hi hi' => ?_) (fun i hi hi' => ?_) (hgives _).isSome
    · exact hcached.ne_nil i (hin i hi hi').1 (hin i hi hi').2
    · have hlt := (hin i hi hi').2
      have hlast := hcached.last_le
      exact linesOf_eq (hsame i (by omega) _)
  · rw [harea] at hempty
    rw [hlines, h.empty hempty, List.rdropWhile_nil]

/-- The items after the removed one are one place further ahead. -/
theorem Drawable.onItemRemoved {index : ℕ} (h : Drawable handler block list)
    (hvalid : Valid list) (hindex : index < list.itemCount)
    (hgives : ∀ width, GivesLines handler' width (list.itemCount - 1))
    (hsame : ∀ i < list.itemCount - 1, ∀ width,
      handler'.getItemLines i width = handler.getItemLines (if i < index then i else i + 1) width) :
    Drawable handler' block (list.onItemRemoved index) := by
  obtain ⟨first, last, hcached⟩ := h.cached
  obtain ⟨first', last', hle, hlast, hne, hremoved⟩ :=
    removeLines_blocks hcached.le hcached.ne_nil index
  have hlast' : last' ≤ list.itemCount - 1 := by
    have hle := hcached.last_le
    omega
  refine ⟨(hvalid.onItemRemoved hindex).selected_lt, (hgives _).isSome, ⟨first', last', ?_⟩,
    fun hempty => ?_⟩
  · refine .of_same hle hlast' ?_ hne (fun i hi hi' => ?_) (hgives _).isSome
    · rw [← hremoved, ← hcached.lines_eq]
      rfl
    · rw [linesOf_eq (hsame i (hi'.trans_le hlast') _), without]
      split_ifs <;> rfl
  · have hnil : removeLines index list.lines = [] := by
      rw [h.empty hempty]
      rfl
    exact hnil

/-! ### Renders -/

theorem drawLines_snd (hrestores : Restores handler) (selectedIndex : Option ℕ) :
    ∀ (previous : Option ℕ) (number : UInt16) (lines : List (Line × ℕ)),
      (drawLines handler selectedIndex previous number lines).2 = lines
  | _, _, [] => rfl
  | previous, number, (line, item) :: lines => by
    unfold drawLines
    simp only
    split_ifs <;> simp only [drawLines_snd hrestores, hrestores item line]

theorem drawKept_lines (hrestores : Restores handler) (height : ℕ) (kept : List (Line × ℕ))
    (skipped : ℕ) (list : LongList Line) :
    (drawKept handler height kept skipped list).2 = { list with lines := kept } := by
  simp only [drawKept, drawLines_snd hrestores]
  rw [List.append_assoc, List.take_append_drop, List.take_append_drop]

/-- The lines in view are kept for the next time. -/
theorem Drawable.render {search : KeySearch (Line × ℕ)} {drawn : List (Drawn Line)}
    (h : Drawable handler block list)
    (hgives : ∀ width, GivesLines handler width list.itemCount) (hrestores : Restores handler)
    (hrender : list.render (ε := ε) handler search block list.currentArea = .ok (drawn, list')) :
    Drawable handler block list' ∧ list'.itemCount = list.itemCount := by
  by_cases hempty : list.itemCount = 0 ∨ (block.inner list.currentArea).isEmpty
  · have hprocess : list.processLines (ε := ε) handler search list.centerItemIndex
        (block.inner list.currentArea) = .ok ([], list) := if_pos hempty
    rw [render_snd hprocess hrender]
    exact ⟨h, rfl⟩
  obtain ⟨hcount, harea⟩ := not_or.1 hempty
  have hcenter := centerItemIndex_lt h.selected_lt hcount
  obtain ⟨first, last, hcached⟩ := h.cached
  obtain ⟨g, e, hg, -, hfill, hprocess⟩ := hcached.processLines (ε := ε) h.isSome harea hcenter
    ((hgives _).linesOf_ne_nil _ hcenter) search
  obtain rfl : g = linesOf handler (block.inner list.currentArea).width := hg.elim id id
  obtain ⟨haround, -⟩ := Extent.around_of_fill hcenter hfill
  rw [(render_snd hprocess hrender).trans (drawKept_lines hrestores ..)]
  have hle := haround.lower_le.trans haround.lt_next.le
  refine ⟨⟨h.selected_lt, h.isSome, ⟨e.lower, e.next, ?_⟩, fun hempty' => absurd hempty' harea⟩,
    rfl⟩
  exact .of_same hle haround.next_le rfl
    (fun i _ hi => (hgives _).linesOf_ne_nil i (hi.trans_le haround.next_le)) (fun _ _ _ => rfl)
    h.isSome

/-! ### Runs -/

/-- The handler has lines of each item, and takes back how it draws the selected one. -/
structure Serves (handler : LongListHandler Line) (itemCount : ℕ) : Prop where
  gives : ∀ width, GivesLines handler width itemCount
  restores : Restores handler

/-- What a call says of the items is so after it, and a render is of these items and in the area of
the list. -/
def ItemsAfter (block : BlockInner) (list : LongList Line)
    (handler handler' : LongListHandler Line) : Call Line → Prop
  | .resetItemsNoRedraw itemCount _ => Serves handler' itemCount
  | .setItemCount itemCount => Serves handler' itemCount
    ∧ ∀ i < min list.itemCount itemCount, ∀ width,
      handler'.getItemLines i width = handler.getItemLines i width
  | .onItemRemoved index => index < list.itemCount ∧ Serves handler' (list.itemCount - 1)
    ∧ ∀ i < list.itemCount - 1, ∀ width,
      handler'.getItemLines i width = handler.getItemLines (if i < index then i else i + 1) width
  | .render asked _ block' area =>
    handler' = handler ∧ asked = handler ∧ block' = block ∧ area = list.currentArea
  | _ => handler' = handler

/-- A call, with the handler as it is after it. -/
def stepItems (s : LongList Line × LongListHandler Line)
    (a : Call Line × LongListHandler Line) : Option (LongList Line × LongListHandler Line) :=
  (s.1.step a.1).map (·, a.2)

/-- What is kept is right. -/
structure Coherent (block : BlockInner) (s : LongList Line × LongListHandler Line) : Prop where
  valid : Valid s.1
  serves : Serves s.2 s.1.itemCount
  drawable : Drawable s.2 block s.1

theorem permitted_of_itemsAfter {call : Call Line} (hserves : Serves handler list.itemCount)
    (h : ItemsAfter block list handler handler' call) : Permitted list call := by
  cases call with
  | onItemRemoved index => exact h.1
  | render asked search block' area =>
    obtain ⟨-, rfl, -, -⟩ := h
    exact hserves.gives _
  | _ => trivial

theorem Coherent.of_reselected (h : Coherent block (list, handler))
    (hlist : Reselected list list') : Coherent block (list', handler) where
  valid := h.valid.of_reselected hlist
  serves := hlist.itemCount_eq ▸ h.serves
  drawable := h.drawable.of_reselected hlist

theorem Coherent.step {call : Call Line} (h : Coherent block (list, handler))
    (hitems : ItemsAfter block list handler handler' call)
    (hstep : list.step call = some list') : Coherent block (list', handler') := by
  have hvalid := h.valid.step (permitted_of_itemsAfter h.serves hitems) hstep
  cases call with
  | setSelectedIndex selectedIndex =>
    obtain rfl : handler' = handler := hitems
    exact h.of_reselected (setSelectedIndex_reselected (eq_ok_of_toOption hstep))
  | resetItemsNoRedraw itemCount tryKeepSelected =>
    obtain rfl := Option.some.inj hstep
    exact ⟨hvalid, hitems, drawable_resetItemsNoRedraw hitems.gives tryKeepSelected list⟩
  | setItemCount itemCount =>
    obtain ⟨hserves, hsame⟩ := hitems
    obtain rfl := Option.some.inj hstep
    refine ⟨hvalid, ?_, h.drawable.setItemCount h.valid hserves.gives hsame⟩
    rwa [(setItemCount_same h.valid itemCount).1]
  | onItemRemoved index =>
    obtain ⟨hindex, hserves, hsame⟩ := hitems
    obtain rfl := Option.some.inj hstep
    exact ⟨hvalid, hserves, h.drawable.onItemRemoved h.valid hindex hserves.gives hsame⟩
  | resize area =>
    obtain rfl : handler' = handler := hitems
    obtain rfl := Option.some.inj hstep
    refine ⟨hvalid, ?_, h.drawable.resize h.serves.gives area⟩
    have hcount : (list.resize area).itemCount = list.itemCount := by
      unfold LongList.resize
      split_ifs <;> rfl
    rw [hcount]
    exact h.serves
  | handleEvent asked event isFocused =>
    obtain rfl : handler' = handler := hitems
    obtain rfl := Option.some.inj hstep
    exact h.of_reselected (h.valid.handleEvent asked event isFocused)
  | receiveFocus =>
    obtain rfl : handler' = handler := hitems
    obtain rfl := Option.some.inj hstep
    exact h.of_reselected h.valid.receiveFocus
  | focusLost =>
    obtain rfl : handler' = handler := hitems
    obtain rfl := Option.some.inj hstep
    exact h.of_reselected h.valid.focusLost
  | render asked search block' area =>
    obtain ⟨rfl, rfl, rfl, rfl⟩ := hitems
    obtain ⟨⟨drawn, list''⟩, hrender, rfl⟩ := Option.map_eq_some_iff.1 hstep
    obtain ⟨hdrawable, hcount⟩ :=
      h.drawable.render h.serves.gives h.serves.restores (eq_ok_of_toOption hrender)
    exact ⟨hvalid, hcount ▸ h.serves, hdrawable⟩

theorem coherent_new {title : StaticString} {itemCount : ℕ}
    {selectLastFirst deselectOnRemove : Bool} (hserves : Serves handler itemCount) :
    Coherent block (new title itemCount selectLastFirst deselectOnRemove, handler) where
  valid := valid_new title itemCount selectLastFirst deselectOnRemove
  serves := hserves
  drawable := ⟨nofun, (hserves.gives _).isSome, ⟨0, 0, cached_nil (hserves.gives _).isSome⟩,
    fun _ => rfl⟩

/-- After any calls that tell a list what happens to its items, its lines are as the handler gives
them. -/
theorem drawable_of_runSteps {title : StaticString} {itemCount : ℕ}
    {selectLastFirst deselectOnRemove : Bool}
    {calls : List (Call Line × LongListHandler Line)} (hserves : Serves handler itemCount)
    (hcalls : AlongRun stepItems (fun s a => ItemsAfter block s.1 s.2 a.2 a.1)
      (new title itemCount selectLastFirst deselectOnRemove, handler) calls)
    (hrun : runSteps stepItems (new title itemCount selectLastFirst deselectOnRemove, handler) calls
      = some (list, handler')) :
    Drawable handler' block list := by
  refine (runSteps_keeps_along (I := Coherent block) (fun s a s' h hitems hstep => ?_)
    (coherent_new hserves) hcalls hrun).drawable
  obtain ⟨list', hstep', rfl⟩ := Option.map_eq_some_iff.1 hstep
  exact h.step hitems hstep'

end LongList

end DustDevil
