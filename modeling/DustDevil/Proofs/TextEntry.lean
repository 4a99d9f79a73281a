import DustDevil.Client.TextEntry
import DustDevil.Lib.Steps

/-!
# The cursor stays between two characters

An entry's text is what is before its cursor and what is after it: `index_bytes` and `index_chars`
count the same characters, and `text_len_chars` those of the text. Each key leaves them so, and
whatever is typed, no slice is taken elsewhere and no count goes below zero (`runs_valid`).
-/

namespace DustDevil

open Wire

/-! ## Words -/

section Words

variable {alphanumeric : Alphanumeric}

theorem length_utf8_reverse (s : Str) : (utf8 s.reverse).length = (utf8 s).length :=
  ((List.reverse_perm s).flatMap_right _).length_eq

theorem wordskip_eq (first second : Char → Bool) (chars : Str) :
    ∃ skipped rest, chars = skipped ++ rest
      ∧ wordskip first second chars = ((utf8 skipped).length, skipped.length) := by
  refine ⟨_, (chars.dropWhile first).dropWhile second, ?_, rfl⟩
  rw [List.append_assoc, List.takeWhile_append_dropWhile, List.takeWhile_append_dropWhile]

/-- What is skipped to the left are the last characters before the cursor. -/
theorem skipLeft_eq (alphanumeric : Alphanumeric) (control : Bool) (s : Str) :
    ∃ before skipped, s = before ++ skipped
      ∧ skipLeft alphanumeric control s = ((utf8 skipped).length, skipped.length) := by
  unfold skipLeft
  split_ifs
  · obtain ⟨skipped, rest, hs, hskip⟩ :=
      wordskip_eq (!alphanumeric.test ·) alphanumeric.test s.reverse
    refine ⟨rest.reverse, skipped.reverse, ?_, ?_⟩
    · rw [← List.reverse_append, ← hs, List.reverse_reverse]
    · rw [length_utf8_reverse, List.length_reverse]
      exact hskip
  · rcases List.eq_nil_or_concat' s with rfl | ⟨before, c, rfl⟩
    · exact ⟨[], [], rfl, rfl⟩
    · exact ⟨before, [c], rfl, by simp⟩

/-- What is skipped to the right are the first characters after the cursor. -/
theorem skipRight_eq (alphanumeric : Alphanumeric) (control : Bool) (s : Str) :
    ∃ skipped after, s = skipped ++ after
      ∧ skipRight alphanumeric control s = ((utf8 skipped).length, skipped.length) := by
  unfold skipRight
  split_ifs
  · exact wordskip_eq alphanumeric.test (!alphanumeric.test ·) s
  · cases s with
    | nil => exact ⟨[], [], rfl, rfl⟩
    | cons c s => exact ⟨[c], s, rfl, by simp⟩

end Words

namespace TextEntry

open LongList (checkedSub)

variable {η ε : Type}

/-- The cursor is between `before` and `after`. -/
structure CursorAt (text : Str) (cursor : CursorPosition) (before after : Str) : Prop where
  text_eq : text = before ++ after
  indexBytes_eq : cursor.indexBytes = (utf8 before).length
  indexChars_eq : cursor.indexChars = before.length

namespace CursorAt

variable {text before after : Str} {cursor : CursorPosition}

theorem sliceTo_eq (h : CursorAt text cursor before after) :
    sliceTo text cursor.indexBytes = some before := by
  rw [h.text_eq, h.indexBytes_eq, sliceTo_append]

theorem sliceFrom_eq (h : CursorAt text cursor before after) :
    sliceFrom text cursor.indexBytes = some after := by
  rw [h.text_eq, h.indexBytes_eq, sliceFrom_append]

theorem indexBytes_le (h : CursorAt text cursor before after) :
    cursor.indexBytes ≤ (utf8 text).length := by
  rw [h.text_eq, h.indexBytes_eq, utf8_append, List.length_append]
  exact Nat.le_add_right ..

/-- What a cursor is at the end of. -/
theorem of_append (before after : Str) :
    CursorAt (before ++ after) ⟨(utf8 before).length, before.length⟩ before after := ⟨rfl, rfl, rfl⟩

end CursorAt

theorem checkedSub_add (a b : ℕ) : checkedSub (ε := ε) (a + b) b = .ok a := by
  rw [checkedSub, if_pos (Nat.le_add_left ..), Nat.add_sub_cancel]

theorem insertChar_eq (before after : Str) (c : Char) :
    insertChar (ε := ε) (before ++ after) (utf8 before).length c = .ok (before ++ c :: after) := by
  simp only [insertChar, sliceTo_append, sliceFrom_append]
  rfl

theorem drain_eq (before skipped after : Str) :
    drain (ε := ε) (before ++ (skipped ++ after)) (utf8 before).length
      ((utf8 before).length + (utf8 skipped).length) = .ok (before ++ after) := by
  have hfrom : sliceFrom (before ++ (skipped ++ after))
      ((utf8 before).length + (utf8 skipped).length) = some after := by
    rw [← List.append_assoc, ← List.length_append, ← utf8_append, sliceFrom_append]
  simp only [drain, if_pos (Nat.le_add_right ..), sliceTo_append, hfrom]
  rfl

/-! ## Keys -/

/-- The counts are right, and the cursor is between two characters. -/
structure Valid (maxLength : ℕ) (entry : TextEntry η) : Prop where
  maxLength_eq : entry.maxLength = maxLength
  textLenChars_eq : entry.textLenChars = entry.text.length
  length_le : entry.text.length ≤ maxLength
  cursor : ∀ cursor, entry.cursor = some cursor →
    ∃ before after, CursorAt entry.text cursor before after

section Keys

variable {maxLength : ℕ} {entry : TextEntry η} {cursor : CursorPosition} {before after : Str}

/-- With the cursor between two parts of a text that is not too long. -/
theorem valid_of_cursorAt (before after : Str) (hmax : entry.maxLength = maxLength)
    (hlen : entry.textLenChars = before.length + after.length)
    (hle : before.length + after.length ≤ maxLength)
    (hcursor : entry.cursor = some cursor) (h : CursorAt entry.text cursor before after) :
    Valid maxLength entry where
  maxLength_eq := hmax
  textLenChars_eq := by rw [hlen, h.text_eq, List.length_append]
  length_le := by rwa [h.text_eq, List.length_append]
  cursor cursor' hcursor' := by
    obtain rfl := Option.some.inj (hcursor.symm.trans hcursor')
    exact ⟨before, after, h⟩

theorem Valid.typeChar (h : Valid maxLength entry)
    (hcursor : CursorAt entry.text cursor before after) (handler : TextEntryHandler η) (c : Char) :
    ∃ edited, entry.typeChar (ε := ε) handler c cursor = .ok edited
      ∧ Valid maxLength edited.entry := by
  have hlen := h.textLenChars_eq
  rw [hcursor.text_eq, List.length_append] at hlen
  unfold TextEntry.typeChar
  by_cases hroom : entry.textLenChars < entry.maxLength
  · rw [if_pos hroom]
    rw [hlen, h.maxLength_eq] at hroom
    rcases handler.onChar entry.text c cursor entry.handler with ⟨keep, state⟩
    cases keep with
    | false => exact ⟨_, rfl, h.maxLength_eq, h.textLenChars_eq, h.length_le, h.cursor⟩
    | true =>
      simp only [if_true, hcursor.text_eq, hcursor.indexBytes_eq, insertChar_eq]
      refine ⟨_, rfl, valid_of_cursorAt (before ++ [c]) after h.maxLength_eq
        ?_ ?_ rfl ⟨?_, ?_, ?_⟩⟩
      · simp only [hlen, List.length_append, List.length_singleton]
        omega
      · simp only [List.length_append, List.length_singleton]
        omega
      · simp
      · simp
      · simp [hcursor.indexChars_eq]
  · rw [if_neg hroom]
    exact ⟨_, rfl, h⟩

theorem Valid.backspace (h : Valid maxLength entry)
    (hcursor : CursorAt entry.text cursor before after) (alphanumeric : Alphanumeric)
    (control : Bool) :
    ∃ edited, entry.backspace (ε := ε) alphanumeric control cursor = .ok edited
      ∧ Valid maxLength edited.entry := by
  have hlen := h.textLenChars_eq
  have hle := h.length_le
  obtain ⟨before, skipped, rfl, hskip⟩ := skipLeft_eq alphanumeric control before
  rw [hcursor.text_eq, List.length_append, List.length_append] at hlen hle
  simp only [TextEntry.backspace, hcursor.sliceTo_eq, sliceOrPanic, bind, Except.bind, hskip]
  split_ifs
  · have htext : entry.text = before ++ (skipped ++ after) := by
      rw [hcursor.text_eq, List.append_assoc]
    have hbytes : cursor.indexBytes = (utf8 before).length + (utf8 skipped).length := by
      rw [hcursor.indexBytes_eq, utf8_append, List.length_append]
    have hchars : cursor.indexChars = before.length + skipped.length := by
      rw [hcursor.indexChars_eq, List.length_append]
    have hrest : entry.textLenChars = before.length + after.length + skipped.length := by omega
    simp only [htext, hbytes, hchars, hrest, checkedSub_add, drain_eq]
    exact ⟨_, rfl, valid_of_cursorAt before after h.maxLength_eq rfl (by omega) rfl
      (.of_append before after)⟩
  · exact ⟨_, rfl, h⟩

theorem Valid.delete (h : Valid maxLength entry)
    (hcursor : CursorAt entry.text cursor before after) (hsome : entry.cursor = some cursor)
    (alphanumeric : Alphanumeric) (control : Bool) :
    ∃ edited, entry.delete (ε := ε) alphanumeric control cursor = .ok edited
      ∧ Valid maxLength edited.entry := by
  have hlen := h.textLenChars_eq
  have hle := h.length_le
  obtain ⟨skipped, after, rfl, hskip⟩ := skipRight_eq alphanumeric control after
  rw [hcursor.text_eq, List.length_append, List.length_append] at hlen hle
  simp only [TextEntry.delete, hcursor.sliceFrom_eq, sliceOrPanic, bind, Except.bind, hskip]
  split_ifs
  · have hrest : entry.textLenChars = before.length + after.length + skipped.length := by omega
    simp only [hcursor.text_eq, hcursor.indexBytes_eq, hrest, checkedSub_add, drain_eq]
    exact ⟨_, rfl, valid_of_cursorAt _ _ h.maxLength_eq rfl (by omega) hsome
      ⟨rfl, hcursor.indexBytes_eq, hcursor.indexChars_eq⟩⟩
  · exact ⟨_, rfl, h⟩

theorem Valid.left (h : Valid maxLength entry)
    (hcursor : CursorAt entry.text cursor before after) (alphanumeric : Alphanumeric)
    (control : Bool) :
    ∃ edited, entry.left (ε := ε) alphanumeric control cursor = .ok edited
      ∧ Valid maxLength edited.entry := by
  have hlen := h.textLenChars_eq
  have hle := h.length_le
  obtain ⟨before, skipped, rfl, hskip⟩ := skipLeft_eq alphanumeric control before
  rw [hcursor.text_eq, List.append_assoc, List.length_append] at hlen hle
  simp only [TextEntry.left, hcursor.sliceTo_eq, sliceOrPanic, bind, Except.bind, hskip]
  split_ifs
  · have hbytes : cursor.indexBytes = (utf8 before).length + (utf8 skipped).length := by
      rw [hcursor.indexBytes_eq, utf8_append, List.length_append]
    have hchars : cursor.indexChars = before.length + skipped.length := by
      rw [hcursor.indexChars_eq, List.length_append]
    simp only [hbytes, hchars, checkedSub_add]
    refine ⟨_, rfl, valid_of_cursorAt before (skipped ++ after) h.maxLength_eq
      hlen hle rfl ⟨?_, rfl, rfl⟩⟩
    rw [hcursor.text_eq, List.append_assoc]
  · exact ⟨_, rfl, h⟩

theorem Valid.right (h : Valid maxLength entry)
    (hcursor : CursorAt entry.text cursor before after) (alphanumeric : Alphanumeric)
    (control : Bool) :
    ∃ edited, entry.right (ε := ε) alphanumeric control cursor = .ok edited
      ∧ Valid maxLength edited.entry := by
  have hlen := h.textLenChars_eq
  have hle := h.length_le
  obtain ⟨skipped, after, rfl, hskip⟩ := skipRight_eq alphanumeric control after
  rw [hcursor.text_eq, ← List.append_assoc, List.length_append] at hlen hle
  simp only [TextEntry.right, hcursor.sliceFrom_eq, sliceOrPanic, bind, Except.bind, hskip]
  split_ifs
  · refine ⟨_, rfl, valid_of_cursorAt (before ++ skipped) after h.maxLength_eq
      hlen hle rfl ⟨?_, ?_, ?_⟩⟩
    · rw [hcursor.text_eq, List.append_assoc]
    · simp [hcursor.indexBytes_eq]
    · simp [hcursor.indexChars_eq]
  · exact ⟨_, rfl, h⟩

/-- With the cursor after the whole text. -/
theorem Valid.endKey (h : Valid maxLength entry) (cursor : CursorPosition) :
    Valid maxLength (entry.endKey cursor).entry := by
  unfold TextEntry.endKey
  split_ifs
  · exact valid_of_cursorAt entry.text [] h.maxLength_eq h.textLenChars_eq
      h.length_le rfl ⟨(List.append_nil _).symm, rfl, h.textLenChars_eq⟩
  · exact h

theorem Valid.home (h : Valid maxLength entry) (cursor : CursorPosition) :
    Valid maxLength (entry.home cursor).entry := by
  unfold TextEntry.home
  split_ifs
  · refine valid_of_cursorAt [] entry.text h.maxLength_eq ?_ ?_ rfl
      ⟨rfl, rfl, rfl⟩
    · simpa using h.textLenChars_eq
    · simpa using h.length_le
  · exact h

/-- What only changes the handler, or asks for the entry to be drawn again. -/
theorem Valid.of_eq {entry' : TextEntry η} (h : Valid maxLength entry)
    (hmax : entry'.maxLength = entry.maxLength) (hlen : entry'.textLenChars = entry.textLenChars)
    (htext : entry'.text = entry.text) (hcursor : entry'.cursor = entry.cursor) :
    Valid maxLength entry' where
  maxLength_eq := hmax.trans h.maxLength_eq
  textLenChars_eq := by rw [hlen, htext, h.textLenChars_eq]
  length_le := htext ▸ h.length_le
  cursor := by
    rw [hcursor, htext]
    exact h.cursor

theorem Valid.finish {edited : Edited η} (h : Valid maxLength edited.entry)
    (handler : TextEntryHandler η) : Valid maxLength (edited.finish handler).2 := by
  unfold Edited.finish
  simp only
  split_ifs <;> exact h.of_eq rfl rfl rfl rfl

theorem Valid.onEnter (h : Valid maxLength entry) (handler : TextEntryHandler η) :
    Valid maxLength (entry.onEnter handler).2 := by
  unfold TextEntry.onEnter
  simp only
  split <;> exact h.of_eq rfl rfl rfl rfl

end Keys

/-! ## Runs -/

section Runs

variable {maxLength : ℕ} {entry : TextEntry η}

theorem Valid.handleKey (h : Valid maxLength entry) (alphanumeric : Alphanumeric)
    (handler : TextEntryHandler η) (keyEvent : InputKeyEvent) {cursor : CursorPosition}
    (hsome : entry.cursor = some cursor) :
    ∃ r, entry.handleKey (ε := ε) alphanumeric handler keyEvent cursor = .ok r
      ∧ Valid maxLength r.2 := by
  obtain ⟨before, after, hcursor⟩ := h.cursor cursor hsome
  have hfinish {x : Except (Stop ε) (Edited η)}
      (hx : ∃ edited, x = .ok edited ∧ Valid maxLength edited.entry) :
      ∃ r, x.map (·.finish handler) = .ok r ∧ Valid maxLength r.2 := by
    obtain ⟨edited, rfl, hedited⟩ := hx
    exact ⟨_, rfl, hedited.finish handler⟩
  unfold TextEntry.handleKey
  cases keyEvent.code with
  | char c => exact hfinish (h.typeChar hcursor handler c)
  | backspace => exact hfinish (h.backspace hcursor alphanumeric _)
  | delete => exact hfinish (h.delete hcursor hsome alphanumeric _)
  | key code =>
    cases code with
    | left => exact hfinish (h.left hcursor alphanumeric _)
    | right => exact hfinish (h.right hcursor alphanumeric _)
    | endKey => exact ⟨_, rfl, (h.endKey cursor).finish handler⟩
    | home => exact ⟨_, rfl, (h.home cursor).finish handler⟩
    | enter => exact ⟨_, rfl, h.onEnter handler⟩
    | _ => exact ⟨_, rfl, h⟩

theorem Valid.handleEvent (h : Valid maxLength entry) (alphanumeric : Alphanumeric)
    (handler : TextEntryHandler η) (event : InputEvent) (isFocused : Bool) :
    ∃ r, entry.handleEvent (ε := ε) alphanumeric handler event isFocused = .ok r
      ∧ Valid maxLength r.2 := by
  unfold TextEntry.handleEvent
  split
  · exact ⟨_, rfl, h⟩
  split
  · rename_i cursor keyEvent hsome
    split
    · exact ⟨_, rfl, h⟩
    · exact h.handleKey alphanumeric handler keyEvent hsome
  · exact ⟨_, rfl, h⟩

theorem Valid.receiveFocus (h : Valid maxLength entry) : Valid maxLength entry.receiveFocus.2 :=
  valid_of_cursorAt entry.text [] h.maxLength_eq h.textLenChars_eq
    h.length_le rfl ⟨(List.append_nil _).symm, rfl, h.textLenChars_eq⟩

theorem Valid.focusLost (h : Valid maxLength entry) : Valid maxLength entry.focusLost :=
  ⟨h.maxLength_eq, h.textLenChars_eq, h.length_le, nofun⟩

theorem Valid.step (h : Valid maxLength entry) (alphanumeric : Alphanumeric)
    (handler : TextEntryHandler η) (call : Call) :
    ∃ entry', entry.step alphanumeric handler call = some entry' ∧ Valid maxLength entry' := by
  cases call with
  | resize area => exact ⟨_, rfl, h.of_eq rfl rfl rfl rfl⟩
  | handleEvent event isFocused =>
    obtain ⟨r, hr, hvalid⟩ := h.handleEvent (ε := Empty) alphanumeric handler event isFocused
    refine ⟨r.2, ?_, hvalid⟩
    simp only [TextEntry.step, hr]
    rfl
  | receiveFocus => exact ⟨_, rfl, h.receiveFocus⟩
  | focusLost => exact ⟨_, rfl, h.focusLost⟩

theorem valid_new {text : Str} (h : text.length ≤ maxLength) (state : η) :
    Valid maxLength (new text maxLength state) := ⟨rfl, rfl, h, nofun⟩

/-- No call panics, whatever came before it, and where there is a cursor it is between two
characters, which the counts agree on. -/
theorem runs_valid {text : Str} (h : text.length ≤ maxLength) (alphanumeric : Alphanumeric)
    (handler : TextEntryHandler η) (state : η) (calls : List Call) :
    ∃ entry, runSteps (TextEntry.step alphanumeric handler) (new text maxLength state) calls
        = some entry
      ∧ ∀ cursor, entry.cursor = some cursor →
        (∃ before after, entry.text = before ++ after ∧ cursor.indexBytes = (utf8 before).length
          ∧ cursor.indexChars = before.length)
        ∧ cursor.indexBytes ≤ (utf8 entry.text).length ∧ entry.textLenChars = entry.text.length
        ∧ entry.textLenChars ≤ maxLength := by
  obtain ⟨entry, hrun, hvalid⟩ := exists_runSteps
    (fun _ call h => Valid.step h alphanumeric handler call) calls (valid_new h state)
  refine ⟨entry, hrun, fun cursor hcursor => ?_⟩
  obtain ⟨before, after, hat⟩ := hvalid.cursor cursor hcursor
  exact ⟨⟨before, after, hat.text_eq, hat.indexBytes_eq, hat.indexChars_eq⟩, hat.indexBytes_le,
    hvalid.textLenChars_eq, hvalid.textLenChars_eq ▸ hvalid.length_le⟩

/-- A handler that keeps every character. -/
def keepsAll : TextEntryHandler Unit where
  onEnter _ _ := (.handled, ())
  onChar _ _ _ _ := (true, ())
  onTextChanged _ _ := (true, ())

def typed (code : InputKeyCode) (control : Bool) : Call :=
  .handleEvent (.key ⟨code, ⟨false, control⟩, false⟩) true

theorem runs_valid_typed :
    ∃ entry, runSteps (TextEntry.step .onlyAscii keepsAll) (new "año".toList 8 ())
        [.receiveFocus, typed (.key .left) true, typed (.char 'é') false, typed .backspace true]
        = some entry
      ∧ ∀ cursor, entry.cursor = some cursor →
        (∃ before after, entry.text = before ++ after ∧ cursor.indexBytes = (utf8 before).length
          ∧ cursor.indexChars = before.length)
        ∧ cursor.indexBytes ≤ (utf8 entry.text).length ∧ entry.textLenChars = entry.text.length
        ∧ entry.textLenChars ≤ 8 :=
  runs_valid (by decide) .onlyAscii keepsAll () _

end Runs

end TextEntry

end DustDevil
