import DustDevil.Client.TextWrapper

/-!
# What wrapping keeps

The lines of `wrap_lines_by_chars` are the text broken at some places, at each of which it loses
white space of one span and nothing else (`wrapLinesByChars_breaks`).
-/

namespace DustDevil

open Wire

variable {ε Style : Type}

/-! ## Splitting a string -/

namespace StaticString

theorem ofBytes_utf8 (s : Str) : ofBytes (ε := ε) (utf8 s) = .ok (.owned s) := by
  rw [ofBytes, fromUtf8_utf8]

/-- The bytes moved over in a `String` are its text without the white space before it. -/
theorem trimStartingWhitespace_ok (text : StaticString) :
    ∃ text' : StaticString, text.trimStartingWhitespace (ε := ε) = .ok text'
      ∧ text'.toStr = Str.trimStart text.toStr := by
  cases text with
  | static s => exact ⟨_, rfl, rfl⟩
  | owned s =>
    have hs : utf8 s = utf8 (s.takeWhile isWhitespace) ++ utf8 (Str.trimStart s) := by
      rw [← utf8_append, takeWhile_append_trimStart]
    have hlen := congrArg List.length hs
    rw [List.length_append] at hlen
    by_cases h : (utf8 s).length - (utf8 (Str.trimStart s)).length ≠ 0
    · refine ⟨.owned (Str.trimStart s), ?_, rfl⟩
      simp only [trimStartingWhitespace, if_pos h]
      rw [hlen, Nat.add_sub_cancel, hs, List.drop_left, List.take_length, ofBytes_utf8]
    · refine ⟨.owned s, by simp only [trimStartingWhitespace, if_neg h], ?_⟩
      have hnil : utf8 (s.takeWhile isWhitespace) = [] := List.eq_nil_of_length_eq_zero (by omega)
      have hok := fromUtf8_utf8 s
      rw [hs, hnil, List.nil_append, fromUtf8_utf8] at hok
      exact (Except.ok.inj hok).symm

theorem trimTrailingWhitespace_ok (text : StaticString) :
    ∃ text' : StaticString, text.trimTrailingWhitespace (ε := ε) = .ok text'
      ∧ text'.toStr = Str.trimEnd text.toStr := by
  cases text with
  | static s => exact ⟨_, rfl, rfl⟩
  | owned s =>
    refine ⟨.owned (Str.trimEnd s), ?_, rfl⟩
    obtain ⟨after, hafter⟩ := s.rdropWhile_prefix isWhitespace
    have hs : utf8 s = utf8 (Str.trimEnd s) ++ utf8 after := by
      rw [← utf8_append, Str.trimEnd, hafter]
    simp only [trimTrailingWhitespace]
    rw [hs, List.take_left, ofBytes_utf8]

/-- At a character's boundary a string splits, in what is before and what is after it. -/
theorem splitAt_ok {text : StaticString} {before after : Str} (h : text.toStr = before ++ after) :
    ∃ left right : StaticString, text.splitAt (ε := ε) (utf8 before).length true = .ok (left, right)
      ∧ left.toStr = Str.trimEnd before ∧ right.toStr = Str.trimStart after := by
  cases text with
  | static s =>
    obtain rfl : s = before ++ after := h
    obtain ⟨left, hleft, hl⟩ := trimTrailingWhitespace_ok (ε := ε) (.static before)
    obtain ⟨right, hright, hr⟩ := trimStartingWhitespace_ok (ε := ε) (.static after)
    refine ⟨left, right, ?_, hl, hr⟩
    simp [splitAt, Str.slice, sliceTo_append, sliceFrom_append, sliceOrPanic, sliceFrom, hleft,
      hright, bind, Except.bind, pure, Except.pure]
  | owned s =>
    obtain rfl : s = before ++ after := h
    obtain ⟨left, hleft, hl⟩ := trimTrailingWhitespace_ok (ε := ε) (.owned before)
    obtain ⟨right, hright, hr⟩ := trimStartingWhitespace_ok (ε := ε) (.owned after)
    refine ⟨left, right, ?_, hl, hr⟩
    simp [splitAt, sliceTo_append, sliceFrom_append, sliceOrPanic, hleft, hright, bind,
      Except.bind, pure, Except.pure]

end StaticString

/-! ## Breaking lines -/

section Lines

/-- The characters of some spans, each with its style. -/
def styledChars (spans : List (StaticString × Style)) : List (Char × Style) :=
  spans.flatMap fun span => span.1.toStr.map (·, span.2)

/-- What a break takes away: white space, of one span. -/
def IsGap (gap : List (Char × Style)) : Prop :=
  (∀ x ∈ gap, isWhitespace x.1) ∧ ∀ x ∈ gap, ∀ y ∈ gap, x.2 = y.2

/-- The lines are the text, broken between each two of them. -/
inductive BrokenBy : List (List (Char × Style)) → List (Char × Style) → Prop
  | none : BrokenBy [] []
  | last (line : List (Char × Style)) : BrokenBy [line] line
  | cons (line : List (Char × Style)) {gap text : List (Char × Style)}
      {lines : List (List (Char × Style))} (h : BrokenBy lines text) (hgap : IsGap gap)
      (hlines : lines ≠ []) : BrokenBy (line :: lines) (line ++ gap ++ text)

theorem BrokenBy.filter_eq {lines : List (List (Char × Style))} {text : List (Char × Style)}
    (h : BrokenBy lines text) :
    lines.flatten.filter (fun x => !isWhitespace x.1)
      = text.filter fun x => !isWhitespace x.1 := by
  induction h with
  | none => rfl
  | last line => simp
  | @cons line gap text lines h hgap hlines ih =>
    have hgap : gap.filter (fun x => !isWhitespace x.1) = [] := by simpa using hgap.1
    simp [ih, hgap]

/-- A line that is full, before what the lines after it hold. -/
theorem BrokenBy.cons_full (line : List (Char × Style)) {text : List (Char × Style)}
    {lines : List (List (Char × Style))} (h : BrokenBy lines text) :
    BrokenBy (line :: lines) (line ++ text) := by
  rcases eq_or_ne lines [] with rfl | hlines
  · cases h
    rw [List.append_nil]
    exact .last line
  · have hgap : IsGap ([] : List (Char × Style)) := ⟨by simp, by simp⟩
    simpa using h.cons line hgap hlines

/-- Where the scan of a span finds no more room, the line is full with what is before. -/
theorem scanChars_inl {wrapWidth : ℕ} : ∀ {chars : Str} {length index i : ℕ},
    length ≤ wrapWidth → scanChars wrapWidth length index chars = .inl i →
      ∃ before after, chars = before ++ after ∧ i = index + (utf8 before).length
        ∧ length + before.length = wrapWidth
  | [], _, _, _, _, h => nomatch h
  | c :: chars, length, index, i, hlength, h => by
    rw [scanChars] at h
    split_ifs at h with hroom
    · obtain rfl := Sum.inl.inj h
      exact ⟨[], c :: chars, rfl, rfl, by rw [List.length_nil]; omega⟩
    · obtain ⟨before, after, rfl, rfl, hfull⟩ := scanChars_inl (by omega) h
      refine ⟨c :: before, after, rfl, ?_, by rw [List.length_cons]; omega⟩
      rw [utf8_cons, List.length_append, String.length_utf8EncodeChar]
      omega

theorem scanChars_inr {wrapWidth : ℕ} : ∀ {chars : Str} {length index length' : ℕ},
    length ≤ wrapWidth → scanChars wrapWidth length index chars = .inr length' →
      length' = length + chars.length ∧ length' ≤ wrapWidth
  | [], _, _, _, hlength, h => by
    obtain rfl := Sum.inr.inj h
    exact ⟨rfl, hlength⟩
  | c :: chars, length, index, length', hlength, h => by
    rw [scanChars] at h
    split_ifs at h with hroom
    obtain ⟨rfl, hle⟩ := scanChars_inr (by omega) h
    exact ⟨by rw [List.length_cons]; omega, hle⟩

/-- What an iterator has yet to give. -/
def SetNextIter.items {O : Type} (iter : SetNextIter O) : List O := iter.next.toList ++ iter.inner

theorem SetNextIter.advance_eq {O : Type} (iter : SetNextIter O) :
    (iter.advance = .none ∧ iter.items = [])
      ∨ ∃ o iter', iter.advance = some (o, iter') ∧ iter.items = o :: iter'.items
        ∧ iter'.next = none := by
  obtain ⟨inner, next⟩ := iter
  cases next with
  | some o => exact .inr ⟨o, ⟨inner, none⟩, rfl, rfl, rfl⟩
  | none =>
    cases inner with
    | nil => exact .inl ⟨rfl, rfl⟩
    | cons o inner => exact .inr ⟨o, ⟨inner, none⟩, rfl, rfl, rfl⟩

@[simp] theorem styledChars_append (xs ys : List (StaticString × Style)) :
    styledChars (xs ++ ys) = styledChars xs ++ styledChars ys := List.flatMap_append

@[simp] theorem styledChars_cons (text : StaticString) (style : Style)
    (spans : List (StaticString × Style)) :
    styledChars ((text, style) :: spans) = text.toStr.map (·, style) ++ styledChars spans :=
  List.flatMap_cons

@[simp] theorem styledChars_nil : styledChars ([] : List (StaticString × Style)) = [] := rfl

/-- Where a span is split, what is trimmed of its two pieces is a gap. -/
theorem exists_gap (before after : Str) (style : Style) :
    ∃ gap, IsGap gap
      ∧ (before ++ after).map (·, style)
        = (Str.trimEnd before).map (·, style) ++ gap ++ (Str.trimStart after).map (·, style) := by
  refine ⟨(before.rtakeWhile isWhitespace ++ after.takeWhile isWhitespace).map (·, style),
    ⟨?_, ?_⟩, ?_⟩
  · intro x hx
    obtain ⟨c, hc, rfl⟩ := List.mem_map.1 hx
    rcases List.mem_append.1 hc with hc | hc
    · exact List.mem_rtakeWhile_imp hc
    · exact List.mem_takeWhile_imp hc
  · intro x hx y hy
    obtain ⟨c, -, rfl⟩ := List.mem_map.1 hx
    obtain ⟨d, -, rfl⟩ := List.mem_map.1 hy
    rfl
  · conv_lhs => rw [← trimEnd_append_rtakeWhile before, ← takeWhile_append_trimStart after]
    simp only [List.map_append, List.append_assoc]

variable {wrapWidth : ℕ}

/-- The loop with a line begun: as long as that has room, each round takes a character off what is
left, or a span. -/
theorem wrapLoop_breaks (hwidth : 0 < wrapWidth) :
    ∀ (fuel : ℕ) (lineVec : Line Style) (length : ℕ) (iter : SetNextIter (StaticString × Style)),
      length < wrapWidth → (styledChars lineVec).length ≤ length →
      (styledChars iter.items).length + iter.items.length < fuel →
      ∃ lines, wrapLoop (ε := ε) wrapWidth fuel lineVec length iter = .ok lines
        ∧ (∀ line ∈ lines, (styledChars line).length ≤ wrapWidth)
        ∧ BrokenBy (lines.map styledChars) (styledChars lineVec ++ styledChars iter.items)
        ∧ (lineVec ++ iter.items ≠ [] → lines ≠ [])
  | 0, _, _, _, _, _, hfuel => absurd hfuel (Nat.not_lt_zero _)
  | fuel + 1, lineVec, length, iter, hlength, hline, hfuel => by
    obtain ⟨hadv, hitems⟩ | ⟨⟨text, style⟩, iter', hadv, hitems, hnext⟩ := iter.advance_eq
    · rw [hitems, wrapLoop, hadv]
      cases lineVec with
      | nil => exact ⟨[], rfl, by simp, .none, by simp⟩
      | cons span lineVec =>
        refine ⟨[span :: lineVec], rfl, ?_, ?_, by simp⟩
        · rw [List.forall_mem_singleton]
          omega
        · rw [styledChars_nil, List.append_nil]
          exact .last _
    rw [hitems, styledChars_cons, List.length_append, List.length_map, List.length_cons] at hfuel
    rcases hscan : scanChars wrapWidth length 0 text.toStr with i | length'
    · obtain ⟨before, after, htext, rfl, hfull⟩ := scanChars_inl hlength.le hscan
      obtain ⟨left, right, hsplit, hleft, hright⟩ := StaticString.splitAt_ok (ε := ε) htext
      have hitems' : (iter'.setNext (right, style)).items = (right, style) :: iter'.items := by
        simp [SetNextIter.items, SetNextIter.setNext, hnext]
      have hdrop : right.toStr.length ≤ after.length := by
        rw [hright]
        exact (List.dropWhile_suffix isWhitespace).length_le
      have hkept : left.toStr.length ≤ before.length := by
        rw [hleft]
        exact (List.rdropWhile_prefix isWhitespace before).length_le
      rw [htext, List.length_append] at hfuel
      obtain ⟨lines, hlines, hwide, hbroken, hne⟩ :=
        wrapLoop_breaks hwidth fuel [] 0 (iter'.setNext (right, style)) hwidth le_rfl (by
          rw [hitems', styledChars_cons, List.length_append, List.length_map, List.length_cons]
          omega)
      rw [hitems'] at hbroken hne
      refine ⟨(lineVec ++ [(left, style)]) :: lines, ?_, ?_, ?_, by simp⟩
      · simp only [wrapLoop, hadv, hscan, Nat.zero_add, hsplit, bind, Except.bind, hlines]
        rfl
      · refine List.forall_mem_cons.2 ⟨?_, hwide⟩
        simp only [styledChars_append, styledChars_cons, styledChars_nil, List.length_append,
          List.length_map, List.length_nil]
        omega
      · obtain ⟨gap, hgap, hmap⟩ := exists_gap before after style
        have hbreak := hbroken.cons (styledChars (lineVec ++ [(left, style)])) hgap
          (by simpa using hne (by simp))
        rw [hitems, styledChars_cons, htext, hmap]
        simpa [hleft, hright] using hbreak
    · obtain ⟨hlen, hle⟩ := scanChars_inr hlength.le hscan
      have hline' : (styledChars (lineVec ++ [(text, style)])).length ≤ length' := by
        simp only [styledChars_append, styledChars_cons, styledChars_nil, List.length_append,
          List.length_map, List.length_nil]
        omega
      by_cases hfull : length' = wrapWidth
      · obtain ⟨lines, hlines, hwide, hbroken, -⟩ :=
          wrapLoop_breaks hwidth fuel [] 0 iter' hwidth le_rfl (by omega)
        refine ⟨(lineVec ++ [(text, style)]) :: lines, ?_, ?_, ?_, by simp⟩
        · simp only [wrapLoop, hadv, hscan, if_pos hfull, hlines]
          rfl
        · exact List.forall_mem_cons.2 ⟨hfull ▸ hline', hwide⟩
        · rw [hitems, ← styledChars_append]
          simpa using hbroken.cons_full (styledChars (lineVec ++ [(text, style)]))
      · obtain ⟨lines, hlines, hwide, hbroken, hne⟩ :=
          wrapLoop_breaks hwidth fuel (lineVec ++ [(text, style)]) length' iter'
            (lt_of_le_of_ne hle hfull) hline' (by omega)
        refine ⟨lines, ?_, hwide, ?_, fun _ => hne (by simp)⟩
        · simp only [wrapLoop, hadv, hscan, if_neg hfull, hlines]
        · rw [hitems]
          simpa using hbroken

/-- Enough rounds break the text into lines that have room for their characters, and nothing is
lost but white space where a line ends. Styles may be what tells one span from another, so that what
is lost at a break is of the span that is broken. -/
theorem wrapLinesByChars_breaks (hwidth : 1 ≤ wrapWidth) (text : List (StaticString × Style))
    {fuel : ℕ} (hfuel : (styledChars text).length + text.length < fuel) :
    ∃ lines, wrapLinesByChars (ε := ε) fuel wrapWidth text = .ok lines
      ∧ (∀ line ∈ lines, (styledChars line).length ≤ wrapWidth)
      ∧ BrokenBy (lines.map styledChars) (styledChars text)
      ∧ (lines.flatMap styledChars).filter (fun x => !isWhitespace x.1)
        = (styledChars text).filter fun x => !isWhitespace x.1 := by
  obtain ⟨lines, hlines, hwide, hbroken, -⟩ :=
    wrapLoop_breaks (ε := ε) hwidth fuel [] 0 (.new text) hwidth le_rfl hfuel
  refine ⟨lines, hlines, hwide, hbroken, ?_⟩
  rw [List.flatMap_def]
  exact hbroken.filter_eq

theorem wrapLinesByChars_breaks_narrow :
    ∃ lines, wrapLinesByChars (ε := Empty) 5 1 [(.owned ['a', ' ', 'b'], ())] = .ok lines
      ∧ (∀ line ∈ lines, (styledChars line).length ≤ 1)
      ∧ BrokenBy (lines.map styledChars) [('a', ()), (' ', ()), ('b', ())]
      ∧ (lines.flatMap styledChars).filter (fun x => !isWhitespace x.1)
        = [('a', ()), (' ', ()), ('b', ())].filter fun x => !isWhitespace x.1 :=
  wrapLinesByChars_breaks le_rfl [(.owned ['a', ' ', 'b'], ())] (by decide)

end Lines

end DustDevil
