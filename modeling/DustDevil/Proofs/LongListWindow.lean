import DustDevil.Proofs.LongList

/-!
# Which lines of a long list are drawn

`process_lines` draws a run of the lines of all items, which has the first line of the center item
in it and does not depend on the lines that were kept before (`processLines_window`). There are as
many as there is room for, or all of them, unless the view is cut short: where lines at the start
are left out, their room is not given to the other side any more (`drawsWindow_iff`).
-/

namespace DustDevil

open Wire

namespace LongList

variable {Line ε : Type}

/-! ### The numbers of lines within their items -/

/-- The lines of the items from `first` until `last`, each with its number within the item and the
item's index. -/
def numberedLines (g : ℕ → List Line) (first last : ℕ) : List ((Line × ℕ) × ℕ) :=
  blocks (fun i => (g i).zipIdx) first last

/-- The next number if it is a line of the same item, and zero if not. -/
def Numbered (lines : List ((Line × ℕ) × ℕ)) : Prop :=
  lines.IsChain fun x y => (y.2 = x.2 ∧ y.1.2 = x.1.2 + 1) ∨ (y.2 ≠ x.2 ∧ y.1.2 = 0)

section Numbers

variable {handler : LongListHandler Line} {g : ℕ → List Line} {first last : ℕ}

theorem map_numberedLines (g : ℕ → List Line) (first last : ℕ) :
    (numberedLines g first last).map (Prod.map Prod.fst id) = blocks g first last := by
  rw [numberedLines, map_blocks]
  simp only [List.zipIdx_map_fst]

theorem length_numberedLines (g : ℕ → List Line) (first last : ℕ) :
    (numberedLines g first last).length = (blocks g first last).length := by
  rw [← map_numberedLines, List.length_map]

theorem numbered_item (item : ℕ) :
    ∀ (lines : List Line) (k : ℕ), Numbered ((lines.zipIdx k).map (·, item))
  | [], _ => .nil
  | line :: lines, k => by
    refine List.isChain_cons.2 ⟨fun y hy => ?_, numbered_item item lines (k + 1)⟩
    rw [List.head?_map, Option.mem_def, Option.map_eq_some_iff] at hy
    obtain ⟨z, hz, rfl⟩ := hy
    cases lines with
    | nil => cases hz
    | cons line' lines =>
      obtain rfl := Option.some.inj hz
      exact .inl ⟨rfl, rfl⟩

theorem numbered_numberedLines (hle : first ≤ last) : Numbered (numberedLines g first last) := by
  induction last, hle using Nat.le_induction with
  | base =>
    rw [numberedLines, blocks_self]
    exact .nil
  | succ last hle ih =>
    rw [numberedLines, blocks_snoc hle]
    refine List.IsChain.append ih (numbered_item last (g last) 0) fun x hx y hy => .inr ?_
    have hlt := (mem_blocks.1 (List.mem_of_getLast? hx)).2.1
    rw [List.head?_map, Option.mem_def, Option.map_eq_some_iff] at hy
    obtain ⟨z, hz, rfl⟩ := hy
    refine ⟨hlt.ne', ?_⟩
    cases hg : g last with
    | nil => simp [hg] at hz
    | cons line lines =>
      rw [hg] at hz
      obtain rfl := Option.some.inj hz
      rfl

/-- How a line is drawn. -/
def shown (handler : LongListHandler Line) (selectedIndex : Option ℕ)
    (line : (Line × ℕ) × ℕ) : Line :=
  if selectedIndex = some line.2 then
    handler.modifyLineToSelected line.2 line.1.1 (UInt16.ofNat line.1.2)
  else line.1.1

theorem drawLines_cons (selectedIndex previous : Option ℕ) {number number' : UInt16} {item : ℕ}
    (hnumber : number' = if previous.any (· ≠ item) then 0 else number) (line : Line)
    (lines : List (Line × ℕ)) :
    (drawLines handler selectedIndex previous number ((line, item) :: lines)).1
      = (if selectedIndex = some item then handler.modifyLineToSelected item line number' else line)
        :: (drawLines handler selectedIndex (some item) (number' + 1) lines).1 := by
  subst hnumber
  rw [drawLines]
  split_ifs <;> rfl

theorem drawLines_numbered (selectedIndex : Option ℕ) :
    ∀ {previous : Option ℕ} {number : UInt16} {lines : List ((Line × ℕ) × ℕ)}, Numbered lines →
      (∀ x ∈ lines.head?,
        UInt16.ofNat x.1.2 = if previous.any (· ≠ x.2) then 0 else number) →
      (drawLines handler selectedIndex previous number
        (lines.map (Prod.map Prod.fst id))).1 = lines.map (shown handler selectedIndex)
  | _, _, [], _, _ => rfl
  | previous, number, x :: lines, hnumbered, hhead => by
    obtain ⟨hnext, hlines⟩ := List.isChain_cons.1 hnumbered
    have hnumber := hhead x rfl
    have hrest : (drawLines handler selectedIndex (some x.2) (UInt16.ofNat x.1.2 + 1)
        (lines.map (Prod.map Prod.fst id))).1 = lines.map (shown handler selectedIndex) := by
      refine drawLines_numbered selectedIndex hlines fun y hy => ?_
      obtain ⟨hsame, hsucc⟩ | ⟨hne, hzero⟩ := hnext y hy
      · simp [hsame, hsucc]
      · simp [hne.symm, hzero]
    rw [List.map_cons, List.map_cons, ← hrest]
    exact drawLines_cons selectedIndex previous hnumber x.1.1 _

end Numbers

/-! ### The window -/

section Window

variable {handler : LongListHandler Line} {search : KeySearch (Line × ℕ)} {g : ℕ → List Line}
  {item itemCount : ℕ} {area : Rect}

/-- How many lines each item has. -/
def lineCount (handler : LongListHandler Line) (width item : ℕ) : ℕ :=
  (linesOf handler width item).length

theorem length_blocks_eq (g : ℕ → List Line) {first last : ℕ} (hle : first ≤ last) :
    (blocks g first last).length = Extent.total (fun i => (g i).length) first last :=
  length_blocks g hle

/-- What is taken of the part that is in view is what is taken of all lines there. -/
theorem take_drop_numberedLines {lower next skipped height : ℕ} (hlower : lower ≤ next)
    (hnext : next ≤ itemCount) (hskipped : skipped ≤ (blocks g lower next).length)
    (hheight : next = itemCount ∨ skipped + height ≤ (blocks g lower next).length) :
    ((numberedLines g 0 itemCount).drop ((blocks g 0 lower).length + skipped)).take height
      = ((numberedLines g lower next).drop skipped).take height := by
  have hsplit : numberedLines g 0 itemCount
      = numberedLines g 0 lower
        ++ (numberedLines g lower next ++ numberedLines g next itemCount) := by
    unfold numberedLines
    rw [blocks_append hlower hnext, blocks_append (Nat.zero_le lower) (hlower.trans hnext)]
  rw [← length_numberedLines] at hskipped
  rw [hsplit, ← length_numberedLines, List.drop_length_add_append,
    List.drop_append_of_le_length hskipped]
  obtain rfl | hle := hheight
  · rw [numberedLines, numberedLines, blocks_self, List.append_nil]
  · rw [← length_numberedLines] at hle
    exact List.take_append_of_le_length (by rw [List.length_drop]; omega)

/-- The lines that are drawn of those in view. -/
theorem drawKept_fst {lower next skipped : ℕ} (hle : lower < next)
    (hskipped : skipped < (g lower).length) (height : ℕ) (list : LongList Line) :
    (drawKept handler height (blocks g lower next) skipped list).1
      = (((numberedLines g lower next).drop skipped).take height).map
        (shown handler list.selectedIndex) := by
  have hmap : ((blocks g lower next).drop skipped).take height
      = (((numberedLines g lower next).drop skipped).take height).map (Prod.map Prod.fst id) := by
    rw [List.map_take, List.map_drop, map_numberedLines]
  have hnumbered : Numbered (((numberedLines g lower next).drop skipped).take height) :=
    (List.IsChain.drop (numbered_numberedLines hle.le) skipped).take height
  rw [drawKept, hmap]
  refine drawLines_numbered list.selectedIndex hnumbered fun x hx => ?_
  -- The first of them is of the first item that is in view, and so many are left out of it.
  have hget : ((numberedLines g lower next).drop skipped).head? = some x := by
    rw [List.head?_take] at hx
    split_ifs at hx
    · cases hx
    · exact hx
  rw [List.head?_drop, numberedLines, blocks_cons hle, List.getElem?_append_left (by simpa using
    hskipped), List.getElem?_map, Option.map_eq_some_iff] at hget
  obtain ⟨y, hy, rfl⟩ := hget
  rw [List.getElem?_zipIdx, Option.map_eq_some_iff] at hy
  obtain ⟨line, -, rfl⟩ := hy
  simp

/-- Whatever lines are kept, the same run of all lines is drawn, from before the first line of the
center item until after it. -/
theorem processLines_window (hgives : GivesLines handler area.width itemCount)
    (hitem : item < itemCount) (hheight : 1 ≤ area.height) (hwidth : 1 ≤ area.width) :
    ∃ start, start ≤ Extent.total (lineCount handler area.width) 0 item
      ∧ Extent.total (lineCount handler area.width) 0 item < start + area.height
      ∧ (start + min area.height (Extent.total (lineCount handler area.width) 0 itemCount)
          ≤ Extent.total (lineCount handler area.width) 0 itemCount
        ↔ ¬ Extent.CutShort (lineCount handler area.width) itemCount item
          (area.height - lineCount handler area.width item))
      ∧ ∀ (search : KeySearch (Line × ℕ)) (list : LongList Line) (first last : ℕ),
        list.itemCount = itemCount →
        Cached handler area.width itemCount (linesOf handler area.width) first last list.lines →
          ∃ list', list.processLines (ε := ε) handler search item area
            = .ok ((((numberedLines (linesOf handler area.width) 0 itemCount).drop start).take
              area.height).map (shown handler list.selectedIndex), list') := by
  obtain ⟨e, hfill⟩ := Extent.exists_fill_center (n := lineCount handler area.width)
    (area.height - lineCount handler area.width item) hitem
  obtain ⟨haround, hlacking⟩ := Extent.around_of_fill hitem hfill
  have hpos (i : ℕ) (hi : i < itemCount) : 0 < lineCount handler area.width i :=
    List.length_pos_iff.2 (hgives.linesOf_ne_nil i hi)
  have hposItem := hpos item hitem
  refine ⟨_, haround.start_le, haround.lt_end (by omega), ?_, ?_⟩
  · rw [haround.window_le_iff hlacking, Extent.fill_short_iff hitem hfill]
  · rintro search list first last rfl hcached
    have harea : ¬ area.isEmpty := by
      rw [Rect.isEmpty_iff]
      omega
    obtain ⟨g', e', hg', -, hfill', hprocess⟩ := hcached.processLines (ε := ε)
      hgives.isSome harea hitem (hgives.linesOf_ne_nil item hitem) search
    obtain rfl : g' = linesOf handler area.width := hg'.elim id id
    obtain rfl : e = e' := Option.some.inj (hfill.symm.trans hfill')
    have hlt := haround.lower_le.trans_lt haround.lt_next
    have hlength : (blocks (linesOf handler area.width) e.lower e.next).length
        = Extent.total (lineCount handler area.width) e.lower e.next := length_blocks_eq _ hlt.le
    have hskipped := haround.skipped_lt (hpos e.lower (hlt.trans_le haround.next_le))
    refine ⟨_, hprocess.trans (congrArg Except.ok (Prod.ext ?_ rfl))⟩
    rw [drawKept_fst hlt hskipped, ← take_drop_numberedLines hlt.le haround.next_le,
      length_blocks_eq _ (Nat.zero_le _)]
    · rfl
    · have htotal := haround.total_eq
      have hle := haround.skipped_le
      rw [hlength]
      omega
    · rw [hlength]
      exact haround.filled hlacking

/-- Whatever lines are kept, as many of all lines are drawn as there is room for, the first one of
the center item among them. -/
def DrawsWindow (handler : LongListHandler Line) (item itemCount : ℕ) (area : Rect) : Prop :=
  let count := lineCount handler area.width
  let length := min area.height (Extent.total count 0 itemCount)
  ∃ start, start + length ≤ Extent.total count 0 itemCount
    ∧ start ≤ Extent.total count 0 item ∧ Extent.total count 0 item < start + length
    ∧ ∀ (search : KeySearch (Line × ℕ)) (list : LongList Line) (first last : ℕ),
      list.itemCount = itemCount →
      Cached handler area.width itemCount (linesOf handler area.width) first last list.lines →
        ∃ list', list.processLines (ε := Empty) handler search item area
          = .ok ((((numberedLines (linesOf handler area.width) 0 itemCount).drop start).take
            length).map (shown handler list.selectedIndex), list')

theorem length_numberedLines_eq (handler : LongListHandler Line) (width itemCount : ℕ) :
    (numberedLines (linesOf handler width) 0 itemCount).length
      = Extent.total (lineCount handler width) 0 itemCount :=
  (length_numberedLines ..).trans (length_blocks_eq _ (Nat.zero_le _))

theorem GivesLines.total_lt {width : ℕ} (hgives : GivesLines handler width itemCount)
    (hitem : item < itemCount) :
    Extent.total (lineCount handler width) 0 item
      < Extent.total (lineCount handler width) 0 itemCount := by
  have hpos : 0 < lineCount handler width item :=
    List.length_pos_iff.2 (hgives.linesOf_ne_nil item hitem)
  have happend := Extent.total_append (n := lineCount handler width) (Nat.zero_le item) hitem.le
  have hcons := Extent.total_cons (n := lineCount handler width) hitem
  omega

theorem drawsWindow_iff (hgives : GivesLines handler area.width itemCount)
    (hitem : item < itemCount) (hheight : 1 ≤ area.height) (hwidth : 1 ≤ area.width) :
    DrawsWindow handler item itemCount area
      ↔ ¬ Extent.CutShort (lineCount handler area.width) itemCount item
        (area.height - lineCount handler area.width item) := by
  obtain ⟨start, hle, hlt, hiff, hdraws⟩ := processLines_window (ε := Empty) hgives hitem hheight
    hwidth
  have hlength := length_numberedLines_eq handler area.width itemCount
  have hbefore := hgives.total_lt hitem
  simp only [DrawsWindow]
  constructor
  · rintro ⟨start', hstart', -, -, hdraws'⟩
    let list : LongList Line := new (.static []) itemCount false false
    obtain ⟨list', hprocess⟩ := hdraws (.first _) list 0 0 rfl (cached_nil hgives.isSome)
    obtain ⟨list'', hprocess'⟩ := hdraws' (.first _) list 0 0 rfl (cached_nil hgives.isSome)
    have hdrawn := congrArg (fun r => r.1.length)
      (Except.ok.inj (hprocess.symm.trans hprocess'))
    simp only [List.length_map, List.length_take, List.length_drop, hlength] at hdrawn
    exact hiff.1 (by omega)
  · intro hcut
    have hfits := hiff.2 hcut
    refine ⟨start, hfits, hle, by omega, fun search list first last hcount hcached => ?_⟩
    obtain ⟨list', hprocess⟩ := hdraws search list first last hcount hcached
    refine ⟨list', hprocess.trans ?_⟩
    have htake : ((numberedLines (linesOf handler area.width) 0 itemCount).drop start).take
          area.height
        = ((numberedLines (linesOf handler area.width) 0 itemCount).drop start).take
          (min area.height (Extent.total (lineCount handler area.width) 0 itemCount)) := by
      rw [List.take_eq_take_iff, List.length_drop, hlength]
      omega
    rw [htake]

/-- Three items, of which the first one has five lines. -/
def tallFirst : LongListHandler Unit where
  getItemLines i _ :=
    if i = 0 then some (List.replicate 5 ()) else if i < 3 then some [()] else none
  modifyLineToSelected _ line _ := line
  modifyLineToUnselected _ line _ := line
  onEnter _ := .handled

def sevenLines : Rect := ⟨0, 0, 1, 7, by decide, by decide⟩

theorem drawsWindow_iff_first : DrawsWindow tallFirst 0 3 sevenLines :=
  (drawsWindow_iff (fun i hi => by
    obtain rfl | rfl | rfl : i = 0 ∨ i = 1 ∨ i = 2 := by omega
    · exact ⟨_, rfl, by simp⟩
    · exact ⟨_, rfl, by simp⟩
    · exact ⟨_, rfl, by simp⟩) (by decide) (by decide) (by decide)).2 (by decide)

/-- Around the second item, two lines are left out of the first one and five of all seven drawn. -/
theorem not_drawsWindow_second : ¬ DrawsWindow tallFirst 1 3 sevenLines := by
  rintro ⟨start, hle, -, -, hdraws⟩
  have hstart : start + 7 ≤ 7 := hle
  obtain rfl : start = 0 := by omega
  have hcached : Cached tallFirst 1 3 (linesOf tallFirst 1) 0 0 [] := by
    refine cached_nil fun i hi => ?_
    obtain rfl | rfl | rfl : i = 0 ∨ i = 1 ∨ i = 2 := by omega
    all_goals rfl
  obtain ⟨list', hprocess⟩ := hdraws (.first _) (new (.static []) 3 false false) 0 0 rfl hcached
  have hfive : (LongList.processLines (ε := Empty) tallFirst (.first _) 1 sevenLines
      (new (.static []) 3 false false)).toOption.map (fun r => r.1.length) = some 5 := rfl
  rw [hprocess] at hfive
  have hseven : 7 = 5 := Option.some.inj hfive
  exact absurd hseven (by decide)

end Window

end LongList

end DustDevil
