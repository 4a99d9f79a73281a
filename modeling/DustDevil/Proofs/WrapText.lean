import DustDevil.Client.TextWrapper

/-!
# The pieces of a text

`WrapTextIter` cuts the text without its surrounding white space into pieces that leave out white
space only, but what takes the pieces takes them from the text as it was. So they are the right ones
exactly where it begins with none, and at a width of one where no two characters go into one piece
(`wrapTextIter_fits_iff`).
-/

namespace DustDevil

open Wire

variable {ε : Type}

/-- The number of bytes of a string. -/
abbrev numBytes (s : Str) : ℕ := (utf8 s).length

theorem numBytes_cons (c : Char) (s : Str) : numBytes (c :: s) = c.utf8Size + numBytes s := by
  rw [numBytes, utf8_cons, List.length_append, String.length_utf8EncodeChar]

theorem numBytes_append (s t : Str) : numBytes (s ++ t) = numBytes s + numBytes t := by
  rw [numBytes, utf8_append, List.length_append]

theorem numBytes_pos {s : Str} (hs : s ≠ []) : 0 < numBytes s := by
  obtain ⟨c, s, rfl⟩ := List.exists_cons_of_ne_nil hs
  have hpos := c.utf8Size_pos
  rw [numBytes_cons]
  omega

/-- A character of two strings together is of the second or of the first. -/
theorem append_eq_around {s t before after : Str} {c : Char} (h : s ++ t = before ++ c :: after) :
    (∃ mid, before = s ++ mid ∧ t = mid ++ c :: after)
      ∨ ∃ mid, s = before ++ c :: mid ∧ after = mid ++ t := by
  rcases List.append_eq_append_iff.1 h with ⟨mid, rfl, ht⟩ | ⟨mid, rfl, hc⟩
  · exact .inl ⟨mid, rfl, ht⟩
  · cases mid with
    | nil => exact .inl ⟨[], by simp, hc.symm⟩
    | cons d mid =>
      obtain ⟨rfl, rfl⟩ := List.cons.inj hc
      exact .inr ⟨mid, rfl, rfl⟩

/-! ## What the pieces are -/

section Pieces

/-- The items are a text's pieces, from some offset on, between which there is white space only. -/
inductive PiecesOf : ℕ → Str → List WrapTextIterItem → Prop
  | nil (offset : ℕ) : PiecesOf offset [] []
  | cons {offset : ℕ} {piece gap rest : Str} {items : List WrapTextIterItem} (hpiece : piece ≠ [])
      (hgap : ∀ c ∈ gap, isWhitespace c)
      (h : PiecesOf (offset + numBytes (piece ++ gap)) rest items) :
      PiecesOf offset (piece ++ gap ++ rest) (⟨offset, numBytes piece, piece.length⟩ :: items)

/-- Whether an item has the character of so many bytes at an offset. -/
def WrapTextIterItem.covers (offset size : ℕ) (item : WrapTextIterItem) : Bool :=
  item.indexStart ≤ offset ∧ offset + size ≤ item.indexStart + item.lenBytes

variable {offset : ℕ} {s : Str} {items : List WrapTextIterItem}

/-- Each item is a part of the text that it says the characters of. -/
theorem PiecesOf.exists_piece (h : PiecesOf offset s items) :
    ∀ item ∈ items, ∃ before piece after, s = before ++ piece ++ after
      ∧ item = ⟨offset + numBytes before, numBytes piece, piece.length⟩ := by
  induction h with
  | nil => simp
  | @cons offset piece gap rest items hpiece hgap h ih =>
    refine List.forall_mem_cons.2 ⟨⟨[], piece, gap ++ rest, by simp, rfl⟩, fun item hitem => ?_⟩
    obtain ⟨before, piece', after, rfl, rfl⟩ := ih item hitem
    refine ⟨piece ++ gap ++ before, piece', after, by simp, ?_⟩
    rw [numBytes_append _ before, Nat.add_assoc]

theorem PiecesOf.eq_nil (h : PiecesOf offset s items) (hs : s = []) : items = [] := by
  cases h with
  | nil => rfl
  | cons hpiece => exact absurd hs (by simp [hpiece])

theorem PiecesOf.le_start (h : PiecesOf offset s items) :
    ∀ item ∈ items, offset ≤ item.indexStart := by
  intro item hitem
  obtain ⟨before, piece, after, -, rfl⟩ := h.exists_piece item hitem
  exact Nat.le_add_right _ _

theorem PiecesOf.end_le (h : PiecesOf offset s items) :
    ∀ item ∈ items, item.indexStart + item.lenBytes ≤ offset + numBytes s := by
  intro item hitem
  obtain ⟨before, piece, after, rfl, rfl⟩ := h.exists_piece item hitem
  simp only [numBytes_append]
  omega

theorem PiecesOf.pairwise (h : PiecesOf offset s items) :
    items.Pairwise fun x y => x.indexStart < y.indexStart
      ∧ x.indexStart + x.lenBytes ≤ y.indexStart := by
  induction h with
  | nil => exact .nil
  | @cons offset piece gap rest items hpiece hgap h ih =>
    refine List.pairwise_cons.2 ⟨fun y hy => ?_, ih⟩
    have hstart := h.le_start y hy
    have hpos := numBytes_pos hpiece
    rw [numBytes_append] at hstart
    constructor <;> simp only <;> omega

/-- A character that is no white space is in one piece. -/
theorem PiecesOf.countP_covers (h : PiecesOf offset s items) :
    ∀ {before after : Str} {c : Char}, s = before ++ c :: after → isWhitespace c = false →
      items.countP (·.covers (offset + numBytes before) c.utf8Size) = 1 := by
  induction h with
  | nil => simp
  | @cons offset piece gap rest items hpiece hgap h ih =>
    intro before after c hs hc
    have hpos := c.utf8Size_pos
    have hnot : c ∉ gap := fun hmem => by simp [hgap c hmem] at hc
    have hend := numBytes_append piece gap
    rw [List.countP_cons]
    rw [List.append_assoc] at hs
    obtain ⟨mid, rfl, hmid⟩ | ⟨mid, rfl, -⟩ := append_eq_around hs
    · obtain ⟨mid, rfl, rfl⟩ | ⟨mid, rfl, -⟩ := append_eq_around hmid
      · have hrest := ih rfl hc
        have hbefore : numBytes (piece ++ (gap ++ mid))
            = numBytes (piece ++ gap) + numBytes mid := by
          rw [← List.append_assoc, numBytes_append]
        rw [hbefore, ← Nat.add_assoc, hrest, if_neg]
        simp only [WrapTextIterItem.covers, decide_eq_true_eq]
        omega
      · exact absurd (by simp) hnot
    · have hrest : items.countP (·.covers (offset + numBytes before) c.utf8Size) = 0 := by
        refine List.countP_eq_zero.2 fun item hitem => ?_
        have hstart := h.le_start item hitem
        simp only [numBytes_append, numBytes_cons] at hstart
        simp only [WrapTextIterItem.covers, decide_eq_true_eq]
        omega
      rw [hrest, if_pos]
      simp only [WrapTextIterItem.covers, decide_eq_true_eq, numBytes_append, numBytes_cons]
      omega

end Pieces

/-! ## What the iterator gives -/

namespace WrapTextIter

variable {wrapWidth : ℕ}

/-- The loop splits where it has been last with white space, or where it is. -/
theorem findSplit_spec (wrapWidth : ℕ) :
    ∀ (chars done : Str) (splitAtIndex charCount : ℕ), done ≠ [] →
    (splitAtIndex ≠ 0 → ∃ piece rest, done = piece ++ rest ∧ splitAtIndex = numBytes piece
      ∧ charCount = piece.length) →
    ∃ piece rest, done ++ chars = piece ++ rest ∧ piece ≠ []
      ∧ findSplit wrapWidth chars (numBytes done) done.length splitAtIndex charCount
        = (numBytes piece, piece.length)
      ∧ (done.length < wrapWidth → piece.length ≤ wrapWidth)
  | [], done, _, _, hdone, _ => ⟨done, [], rfl, hdone, rfl, le_of_lt⟩
  | c :: chars, done, splitAtIndex, charCount, hdone, hsplit => by
    have hsize : numBytes done + c.utf8Size = numBytes (done ++ [c]) := by
      rw [numBytes_append, numBytes_cons]
      rfl
    have hlen : done.length + 1 = (done ++ [c]).length := by simp
    rw [findSplit]
    generalize hpair : (if isWhitespace c then (numBytes done, done.length)
      else (splitAtIndex, charCount)) = pair
    obtain ⟨splitAtIndex', charCount'⟩ := pair
    have hsplit' : splitAtIndex' ≠ 0 → ∃ piece rest, done = piece ++ rest
        ∧ splitAtIndex' = numBytes piece ∧ charCount' = piece.length := by
      intro hne
      split_ifs at hpair
      · obtain ⟨rfl, rfl⟩ := Prod.mk.inj hpair
        exact ⟨done, [], (List.append_nil _).symm, rfl, rfl⟩
      · obtain ⟨rfl, rfl⟩ := Prod.mk.inj hpair
        exact hsplit hne
    simp only [hsize, hlen]
    split_ifs with hwidth hhere
    · refine ⟨done ++ [c], chars, by simp, by simp, rfl, fun hlt => by rw [← hlen]; omega⟩
    · obtain ⟨piece, rest, rfl, rfl, rfl⟩ := hsplit' fun h0 => hhere (.inl h0)
      refine ⟨piece, rest ++ c :: chars, by simp, ?_, rfl, fun hlt => ?_⟩
      · rintro rfl
        exact hhere (.inl rfl)
      · rw [List.length_append] at hlt
        omega
    · obtain ⟨piece, rest, heq, hpiece, hfind, hle⟩ :=
        findSplit_spec wrapWidth chars (done ++ [c]) splitAtIndex' charCount' (by simp) (by
          intro hne
          obtain ⟨piece, rest, rfl, h⟩ := hsplit' hne
          exact ⟨piece, rest ++ [c], by simp, h⟩)
      refine ⟨piece, rest, by simpa using heq, hpiece, hfind, fun hlt => hle ?_⟩
      rw [← hlen]
      omega

/-- A round takes a piece, and drops the white space after it. -/
theorem advance_cons (wrapWidth offset : ℕ) (c : Char) (chars : Str) :
    ∃ piece rest, c :: chars = piece ++ rest ∧ piece ≠ []
      ∧ advance (ε := ε) ⟨c :: chars, offset, wrapWidth⟩
        = .ok (some (⟨offset, numBytes piece, piece.length⟩,
          ⟨Str.trimStart rest, offset + numBytes (piece ++ rest.takeWhile isWhitespace),
            wrapWidth⟩))
      ∧ piece.length = (findSplit wrapWidth chars c.utf8Size 1 0 0).2
      ∧ (2 ≤ wrapWidth → piece.length ≤ wrapWidth) := by
  have hsize : numBytes [c] = c.utf8Size := numBytes_cons c []
  obtain ⟨piece, rest, heq, hpiece, hfind, hle⟩ :=
    findSplit_spec wrapWidth chars [c] 0 0 (by simp) (fun h0 => absurd rfl h0)
  rw [List.singleton_append] at heq
  rw [hsize, List.length_singleton] at hfind
  refine ⟨piece, rest, heq, hpiece, ?_, by rw [hfind], hle⟩
  have hslice : sliceFrom (c :: chars) (numBytes piece) = some rest := by
    rw [heq, sliceFrom_append]
  have hlen : numBytes (c :: chars) - numBytes (Str.trimStart rest)
      = numBytes (piece ++ rest.takeWhile isWhitespace) := by
    have hsplit := congrArg numBytes (takeWhile_append_trimStart rest)
    rw [heq]
    simp only [numBytes_append] at hsplit ⊢
    omega
  simp only [advance, hfind, hslice, sliceOrPanic, bind, Except.bind, pure, Except.pure, hlen]

/-- It comes to its end, with the pieces of its text. -/
theorem collect_pieces (wrapWidth : ℕ) : ∀ (fuel : ℕ) (s : Str) (offset : ℕ), s.length < fuel →
    ∃ items, collect (ε := ε) fuel ⟨s, offset, wrapWidth⟩ = .ok items ∧ PiecesOf offset s items
      ∧ (2 ≤ wrapWidth → ∀ item ∈ items, item.lenChars ≤ wrapWidth)
  | 0, _, _, hfuel => absurd hfuel (Nat.not_lt_zero _)
  | fuel + 1, [], offset, _ => ⟨[], rfl, .nil offset, by simp⟩
  | fuel + 1, c :: chars, offset, hfuel => by
    obtain ⟨piece, rest, heq, hpiece, hadv, -, hle⟩ :=
      advance_cons (ε := ε) wrapWidth offset c chars
    have hpos := List.length_pos_iff.2 hpiece
    have hdrop : (Str.trimStart rest).length ≤ rest.length :=
      (List.dropWhile_suffix isWhitespace).length_le
    have hlen := congrArg List.length heq
    rw [List.length_append] at hlen
    obtain ⟨items, hitems, hpieces, hwide⟩ :=
      collect_pieces wrapWidth fuel (Str.trimStart rest)
        (offset + numBytes (piece ++ rest.takeWhile isWhitespace)) (by omega)
    refine ⟨⟨offset, numBytes piece, piece.length⟩ :: items, ?_, ?_, ?_⟩
    · simp only [collect, hadv, hitems, bind, Except.bind, pure, Except.pure]
    · have hcons := PiecesOf.cons hpiece (fun d => List.mem_takeWhile_imp) hpieces
      rwa [List.append_assoc, takeWhile_append_trimStart, ← heq] at hcons
    · exact fun hwidth => List.forall_mem_cons.2 ⟨hle hwidth, hwide hwidth⟩

/-- At a width of one the character after the first is of its piece, unless it is white space
before something else. -/
theorem findSplit_one (c d : Char) (chars : Str) :
    (findSplit 1 (d :: chars) c.utf8Size 1 0 0).2
      = if isWhitespace d ∧ chars.head?.any (fun e => !isWhitespace e) then 1 else 2 := by
  have hpos := c.utf8Size_pos
  rw [findSplit]
  cases isWhitespace d <;> cases chars.head?.any fun e => !isWhitespace e <;> simp [hpos.ne']

/-- So no two characters go into one piece just if every other character is white space. -/
theorem collect_one : ∀ (fuel : ℕ) (s : Str) (offset : ℕ) (items : List WrapTextIterItem),
    collect (ε := ε) fuel ⟨s, offset, 1⟩ = .ok items →
    (∀ c ∈ s.head?, isWhitespace c = false) → (∀ c ∈ s.getLast?, isWhitespace c = false) →
      ((∀ item ∈ items, item.lenChars ≤ 1)
        ↔ s.IsChain fun c d => isWhitespace c ≠ isWhitespace d)
  | 0, _, _, _, hitems, _, _ => nomatch hitems
  | fuel + 1, [], _, items, hitems, _, _ => by
    obtain rfl : [] = items := Except.ok.inj hitems
    simp
  | fuel + 1, c :: chars, offset, items, hitems, hhead, hlast => by
    obtain ⟨piece, rest, heq, hpiece, hadv, hlen, -⟩ := advance_cons (ε := ε) 1 offset c chars
    simp only [collect, hadv, bind, Except.bind] at hitems
    rcases hrest : collect (ε := ε) fuel ⟨Str.trimStart rest,
      offset + numBytes (piece ++ rest.takeWhile isWhitespace), 1⟩ with e | items'
    · rw [hrest] at hitems
      nomatch hitems
    rw [hrest] at hitems
    obtain rfl : _ :: items' = items := Except.ok.inj hitems
    rw [List.forall_mem_cons]
    cases chars with
    | nil =>
      obtain rfl : rest = [] := by
        have := congrArg List.length heq
        rw [List.length_append, List.length_singleton] at this
        exact List.eq_nil_of_length_eq_zero (by have := List.length_pos_iff.2 hpiece; omega)
      have ih := collect_one fuel [] _ items' hrest (by simp) (by simp)
      exact iff_of_true ⟨hlen.le, ih.2 .nil⟩ (.singleton c)
    | cons d chars =>
      have hc : isWhitespace c = false := hhead c rfl
      rw [findSplit_one] at hlen
      split_ifs at hlen with hd
      · obtain ⟨c', rfl⟩ := List.length_eq_one_iff.1 hlen
        obtain ⟨rfl, rfl⟩ := List.cons.inj heq
        cases chars with
        | nil => simp at hd
        | cons e chars =>
          have he : isWhitespace e = false := by simpa using hd.2
          have htrim : Str.trimStart (d :: e :: chars) = e :: chars := by
            simp [Str.trimStart, hd.1, he]
          rw [htrim] at hrest
          have ih := collect_one fuel _ _ items' hrest (by simpa using he) (by simpa using hlast)
          simp [ih, hc, hd.1, he]
      · refine iff_of_false (fun h => ?_) (fun hchain => hd ?_)
        · have : piece.length ≤ 1 := h.1
          omega
        · rw [List.isChain_cons_cons, hc] at hchain
          have hwhite : isWhitespace d = true := by simpa using hchain.1
          refine ⟨hwhite, ?_⟩
          cases chars with
          | nil => simp [hwhite] at hlast
          | cons e chars => simpa [hwhite] using (List.isChain_cons_cons.1 hchain.2).1

end WrapTextIter

/-! ## What takes the pieces -/

/-- What the items are to be for a text of which they are taken. -/
structure PiecesFit (text : Str) (width : ℕ) (items : List WrapTextIterItem) : Prop where
  within : ∀ item ∈ items, ∃ piece, item.getSubstr text = some piece
    ∧ piece.length = item.lenChars ∧ item.lenChars ≤ width
  increasing : items.Pairwise fun x y => x.indexStart < y.indexStart
    ∧ x.indexStart + x.lenBytes ≤ y.indexStart
  covered : ∀ before c after, text = before ++ c :: after → isWhitespace c = false →
    items.countP (·.covers (numBytes before) c.utf8Size) = 1

theorem getSubstr_append (before piece after : Str) :
    (⟨numBytes before, numBytes piece, piece.length⟩ : WrapTextIterItem).getSubstr
      (before ++ piece ++ after) = some piece := by
  simp only [WrapTextIterItem.getSubstr, Str.slice]
  rw [← numBytes_append, sliceTo_append, Option.bind_some, sliceFrom_append]

/-- The white space at its ends and what is left without it. -/
theorem exists_trim (text : Str) : ∃ before after, text = before ++ trim text ++ after
    ∧ (∀ c ∈ before, isWhitespace c) ∧ (∀ c ∈ after, isWhitespace c)
    ∧ (before = [] ↔ Str.trimStart text = text) := by
  refine ⟨text.takeWhile isWhitespace, (Str.trimStart text).rtakeWhile isWhitespace, ?_,
    fun c => List.mem_takeWhile_imp, fun c => List.mem_rtakeWhile_imp, ?_⟩
  · have h := trimEnd_append_rtakeWhile (Str.trimStart text)
    rw [List.append_assoc, trim, ← Str.trimStart, ← Str.trimEnd, h, takeWhile_append_trimStart]
  · have h := takeWhile_append_trimStart text
    constructor
    · intro hnil
      rwa [hnil, List.nil_append] at h
    · intro htrim
      rw [htrim] at h
      exact List.append_left_eq_self.1 h

theorem head?_trim (text : Str) : ∀ c ∈ (trim text).head?, isWhitespace c = false := by
  intro c hc
  obtain ⟨rest, hrest⟩ := List.head?_eq_some_iff.1 hc
  obtain ⟨after, hafter⟩ := List.rdropWhile_prefix isWhitespace (Str.trimStart text)
  have hstart : text.dropWhile isWhitespace = c :: (rest ++ after) := by
    rw [← List.cons_append, ← hrest]
    exact hafter.symm
  have hhead := List.head?_dropWhile_not isWhitespace text
  rwa [hstart] at hhead

theorem getLast?_trim (text : Str) : ∀ c ∈ (trim text).getLast?, isWhitespace c = false := by
  intro c hc
  obtain ⟨hne, rfl⟩ := List.mem_getLast?_eq_getLast hc
  exact Bool.eq_false_iff.2 (List.rdropWhile_last_not isWhitespace (Str.trimStart text) hne)

/-- Without white space before the text, the pieces are the right ones if they have the room. -/
theorem piecesFit_iff_of_append (width : ℕ) {text after : Str} {items : List WrapTextIterItem}
    (hpieces : PiecesOf 0 text items) (hafter : ∀ c ∈ after, isWhitespace c) :
    PiecesFit (text ++ after) width items ↔ ∀ item ∈ items, item.lenChars ≤ width := by
  constructor
  · intro hfit item hitem
    obtain ⟨piece, -, -, hle⟩ := hfit.within item hitem
    exact hle
  · intro hwide
    refine ⟨fun item hitem => ?_, hpieces.pairwise, fun before c rest htext hc => ?_⟩
    · obtain ⟨before, piece, after', rfl, rfl⟩ := hpieces.exists_piece item hitem
      refine ⟨piece, ?_, rfl, hwide _ hitem⟩
      rw [Nat.zero_add, List.append_assoc, getSubstr_append]
    · obtain ⟨mid, rfl, hmid⟩ | ⟨mid, rfl, -⟩ := append_eq_around htext
      · have := hafter c (by simp [hmid])
        rw [hc] at this
        nomatch this
      · simpa using hpieces.countP_covers rfl hc

/-- With white space before it, the last character is in none of them. -/
theorem not_piecesFit_of_before (width : ℕ) (after : Str) {before text : Str}
    {items : List WrapTextIterItem}
    (hpieces : PiecesOf 0 text items) (hbefore : before ≠ []) (hne : text ≠ [])
    (hlast : ∀ c ∈ text.getLast?, isWhitespace c = false) :
    ¬ PiecesFit (before ++ text ++ after) width items := by
  intro hfit
  obtain ⟨init, c, rfl⟩ := List.eq_nil_or_concat' text |>.resolve_left hne
  have hcount := hfit.covered (before ++ init) c after (by simp) (hlast c (by simp))
  have hzero : items.countP (·.covers (numBytes (before ++ init)) c.utf8Size) = 0 := by
    refine List.countP_eq_zero.2 fun item hitem => ?_
    have hend := hpieces.end_le item hitem
    have hpos := numBytes_pos hbefore
    have hlen : numBytes (init ++ [c]) = numBytes init + c.utf8Size := by
      rw [numBytes_append, numBytes_cons]
      rfl
    simp only [WrapTextIterItem.covers, decide_eq_true_eq, numBytes_append]
    omega
  omega

/-- The iterator always comes to its end. What it gives is right for a text of white space, and else
where there is none before the text, so that no offsets are those of a text trimmed there, and at a
width of one no two characters go into one piece. -/
theorem wrapTextIter_fits_iff {width : ℕ} (hwidth : 1 ≤ width) (text : Str) {fuel : ℕ}
    (hfuel : text.length < fuel) :
    ∃ items, (WrapTextIter.new text width).collect (ε := ε) fuel = .ok items
      ∧ (PiecesFit text width items ↔ trim text = [] ∨ Str.trimStart text = text
        ∧ (2 ≤ width ∨ (trim text).IsChain fun c d => isWhitespace c ≠ isWhitespace d)) := by
  obtain ⟨before, after, htext, hbefore, hafter, hstart⟩ := exists_trim text
  have hlen := congrArg List.length htext
  simp only [List.length_append] at hlen
  obtain ⟨items, hitems, hpieces, hwide⟩ :=
    WrapTextIter.collect_pieces (ε := ε) width fuel (trim text) 0 (by omega)
  refine ⟨items, hitems, ?_⟩
  rw [← hstart]
  by_cases hempty : trim text = []
  · obtain rfl := hpieces.eq_nil hempty
    refine iff_of_true ⟨by simp, .nil, fun before' c rest htext' hc => ?_⟩ (.inl hempty)
    have hmem : c ∈ before ++ after := by
      rw [hempty, List.append_nil] at htext
      simp [← htext, htext']
    rcases List.mem_append.1 hmem with hmem | hmem
    · simp [hbefore c hmem] at hc
    · simp [hafter c hmem] at hc
  · by_cases hlead : before = []
    · subst hlead
      have hfit : PiecesFit text width items ↔ ∀ item ∈ items, item.lenChars ≤ width := by
        have := piecesFit_iff_of_append width hpieces hafter
        rwa [← List.nil_append (trim text ++ after), ← List.append_assoc, ← htext] at this
      rw [hfit]
      rcases Nat.lt_or_ge 1 width with hwide' | hwide'
      · exact iff_of_true (hwide hwide') (.inr ⟨rfl, .inl hwide'⟩)
      · obtain rfl : width = 1 := by omega
        rw [WrapTextIter.collect_one (ε := ε) fuel _ 0 items hitems (head?_trim text)
          (getLast?_trim text)]
        simp [hempty]
    · have hnot := not_piecesFit_of_before width after hpieces hlead hempty (getLast?_trim text)
      rw [← htext] at hnot
      simp [hnot, hempty, hlead]

theorem wrapTextIter_fits_iff_words :
    ∃ items, (WrapTextIter.new ['a', ' ', 'b'] 1).collect (ε := Empty) 4 = .ok items
      ∧ (PiecesFit ['a', ' ', 'b'] 1 items ↔ trim ['a', ' ', 'b'] = []
        ∨ Str.trimStart ['a', ' ', 'b'] = ['a', ' ', 'b']
          ∧ (2 ≤ 1 ∨ (trim ['a', ' ', 'b']).IsChain fun c d => isWhitespace c ≠ isWhitespace d)) :=
  wrapTextIter_fits_iff le_rfl ['a', ' ', 'b'] (by decide)

/-- Of a text that begins with a blank the last character is not drawn. -/
theorem not_fit_indented :
    ¬ ∃ items, (WrapTextIter.new [' ', 'a', 'b'] 10).collect (ε := Empty) 4 = .ok items
      ∧ PiecesFit [' ', 'a', 'b'] 10 items := by
  rintro ⟨items, hitems, hfit⟩
  obtain rfl : [⟨0, 2, 2⟩] = items :=
    Except.ok.inj ((show _ = Except.ok [⟨0, 2, 2⟩] by decide).symm.trans hitems)
  have hcount := hfit.covered [' ', 'a'] 'b' [] rfl (by decide)
  revert hcount
  decide

end DustDevil
