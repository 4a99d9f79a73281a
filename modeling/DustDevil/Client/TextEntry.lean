import DustDevil.Client.LongList

/-!
# Text entries

The client's `elements/text_entry.rs`: a line of text that is typed into at a cursor, whose place is
kept both in bytes and in characters. Texts and their places are never longer than a `usize` counts,
and a place that is no character's start makes slicing, inserting and draining panic.
-/

namespace DustDevil

open Wire
open LongList (checkedSub)

structure CursorPosition where
  indexBytes : ℕ
  indexChars : ℕ
  deriving DecidableEq, Repr

/-- What an entry asks of its handler, whose state is of any type. The handler may read the text. -/
structure TextEntryHandler (η : Type) where
  onEnter : Str → η → OnEnterResult × η
  onChar : Str → Char → CursorPosition → η → Bool × η
  onTextChanged : Str → η → Bool × η

/-- A `TextEntry` with its controller. -/
structure TextEntry (η : Type) where
  text : Str
  textLenChars : ℕ
  maxLength : ℕ
  cursor : Option CursorPosition
  handler : η
  currentPosition : ℕ × ℕ
  redrawNotified : Bool

/-! ## Texts that change -/

section Text

variable {ε : Type}

/-- `String::insert`. -/
def insertChar (s : Str) (index : ℕ) (c : Char) : Except (Stop ε) Str := do
  let before ← sliceOrPanic (sliceTo s index)
  let after ← sliceOrPanic (sliceFrom s index)
  pure (before ++ c :: after)

/-- What `String::drain` leaves. -/
def drain (s : Str) (start stop : ℕ) : Except (Stop ε) Str :=
  if start ≤ stop then do
    let before ← sliceOrPanic (sliceTo s start)
    let after ← sliceOrPanic (sliceFrom s stop)
    pure (before ++ after)
  else .error .panic

end Text

/-! ## Words -/

section Words

variable (alphanumeric : Alphanumeric)

/-- How many bytes and characters two loops skip, each over the characters that pass its test. -/
def wordskip (first second : Char → Bool) (chars : Str) : ℕ × ℕ :=
  let skipped := chars.takeWhile first ++ (chars.dropWhile first).takeWhile second
  ((utf8 skipped).length, skipped.length)

def calcWordskipLeft (s : Str) : ℕ × ℕ :=
  wordskip (!alphanumeric.test ·) alphanumeric.test s.reverse

def calcWordskipRight (s : Str) : ℕ × ℕ :=
  wordskip alphanumeric.test (!alphanumeric.test ·) s

/-- How far a key goes to the left at the end of `s`: with Ctrl over a word. -/
def skipLeft (control : Bool) (s : Str) : ℕ × ℕ :=
  if control then calcWordskipLeft alphanumeric s
  else (s.getLast?.map fun c => (c.utf8Size, 1)).getD (0, 0)

/-- How far a key goes to the right at the start of `s`: with Ctrl over a word. -/
def skipRight (control : Bool) (s : Str) : ℕ × ℕ :=
  if control then calcWordskipRight alphanumeric s
  else (s.head?.map fun c => (c.utf8Size, 1)).getD (0, 0)

end Words

namespace TextEntry

variable {η ε : Type}

def new (text : Str) (maxLength : ℕ) (handler : η) : TextEntry η where
  text := text
  textLenChars := text.length
  maxLength := maxLength
  cursor := none
  handler := handler
  currentPosition := (0, 0)
  redrawNotified := false

def resize (area : Rect) (entry : TextEntry η) : TextEntry η :=
  { entry with currentPosition := (area.x, area.y) }

/-! ## The keys

Each gives the entry, and whether it has to be drawn again and its text has changed. -/

structure Edited (η : Type) where
  entry : TextEntry η
  needsNotify : Bool
  textChanged : Bool

/-- A key that does nothing. -/
def same (entry : TextEntry η) : Edited η := ⟨entry, false, false⟩

def typeChar (handler : TextEntryHandler η) (c : Char) (cursor : CursorPosition)
    (entry : TextEntry η) : Except (Stop ε) (Edited η) :=
  if entry.textLenChars < entry.maxLength then
    let (keep, state) := handler.onChar entry.text c cursor entry.handler
    let entry := { entry with handler := state }
    if keep then do
      let text ← insertChar entry.text cursor.indexBytes c
      pure ⟨{ entry with
        text := text
        textLenChars := entry.textLenChars + 1
        cursor := some ⟨cursor.indexBytes + c.utf8Size, cursor.indexChars + 1⟩ }, false, true⟩
    else .ok entry.same
  else .ok entry.same

def backspace (alphanumeric : Alphanumeric) (control : Bool) (cursor : CursorPosition)
    (entry : TextEntry η) : Except (Stop ε) (Edited η) := do
  let before ← sliceOrPanic (sliceTo entry.text cursor.indexBytes)
  let (byteCount, charCount) := skipLeft alphanumeric control before
  if byteCount ≠ 0 then do
    let fromByte ← checkedSub cursor.indexBytes byteCount
    let text ← drain entry.text fromByte cursor.indexBytes
    let textLenChars ← checkedSub entry.textLenChars charCount
    let indexBytes ← checkedSub cursor.indexBytes byteCount
    let indexChars ← checkedSub cursor.indexChars charCount
    pure ⟨{ entry with
      text := text
      textLenChars := textLenChars
      cursor := some ⟨indexBytes, indexChars⟩ }, false, true⟩
  else pure entry.same

def delete (alphanumeric : Alphanumeric) (control : Bool) (cursor : CursorPosition)
    (entry : TextEntry η) : Except (Stop ε) (Edited η) := do
  let after ← sliceOrPanic (sliceFrom entry.text cursor.indexBytes)
  let (byteCount, charCount) := skipRight alphanumeric control after
  if byteCount ≠ 0 then do
    let text ← drain entry.text cursor.indexBytes (cursor.indexBytes + byteCount)
    let textLenChars ← checkedSub entry.textLenChars charCount
    pure ⟨{ entry with text := text, textLenChars := textLenChars }, false, true⟩
  else pure entry.same

def left (alphanumeric : Alphanumeric) (control : Bool) (cursor : CursorPosition)
    (entry : TextEntry η) : Except (Stop ε) (Edited η) := do
  let before ← sliceOrPanic (sliceTo entry.text cursor.indexBytes)
  let (byteCount, charCount) := skipLeft alphanumeric control before
  if byteCount ≠ 0 then do
    let indexBytes ← checkedSub cursor.indexBytes byteCount
    let indexChars ← checkedSub cursor.indexChars charCount
    pure ⟨{ entry with cursor := some ⟨indexBytes, indexChars⟩ }, true, false⟩
  else pure entry.same

def right (alphanumeric : Alphanumeric) (control : Bool) (cursor : CursorPosition)
    (entry : TextEntry η) : Except (Stop ε) (Edited η) := do
  let after ← sliceOrPanic (sliceFrom entry.text cursor.indexBytes)
  let (byteCount, charCount) := skipRight alphanumeric control after
  if byteCount ≠ 0 then
    pure ⟨{ entry with
      cursor := some ⟨cursor.indexBytes + byteCount, cursor.indexChars + charCount⟩ }, true, false⟩
  else pure entry.same

def endKey (cursor : CursorPosition) (entry : TextEntry η) : Edited η :=
  if cursor.indexBytes ≠ (utf8 entry.text).length then
    ⟨{ entry with cursor := some ⟨(utf8 entry.text).length, entry.textLenChars⟩ }, true, false⟩
  else entry.same

def home (cursor : CursorPosition) (entry : TextEntry η) : Edited η :=
  if cursor.indexBytes ≠ 0 then ⟨{ entry with cursor := some ⟨0, 0⟩ }, true, false⟩
  else entry.same

/-! ## Events -/

/-- What follows after a key that is the entry's own. -/
def Edited.finish (handler : TextEntryHandler η) (edited : Edited η) :
    HandleEventStatus × TextEntry η :=
  let entry := edited.entry
  let entry :=
    if edited.textChanged || edited.needsNotify then { entry with redrawNotified := true }
    else entry
  if edited.textChanged then
    let (keep, state) := handler.onTextChanged entry.text entry.handler
    let entry := { entry with handler := state }
    (if keep then .handled else .passFocus entry.currentPosition .away, entry)
  else (.handled, entry)

def onEnter (handler : TextEntryHandler η) (entry : TextEntry η) :
    HandleEventStatus × TextEntry η :=
  let (result, state) := handler.onEnter entry.text entry.handler
  let entry := { entry with handler := state }
  match result with
  | .handled => (.handled, entry)
  | .unhandled => (.unhandled, entry)
  | .passFocus direction => (.passFocus entry.currentPosition direction, entry)

def handleKey (alphanumeric : Alphanumeric) (handler : TextEntryHandler η)
    (keyEvent : InputKeyEvent) (cursor : CursorPosition) (entry : TextEntry η) :
    Except (Stop ε) (HandleEventStatus × TextEntry η) :=
  let control := keyEvent.modifiers.control
  let passFocus (direction : PassFocusDirection) : HandleEventStatus × TextEntry η :=
    (.passFocus entry.currentPosition direction, entry)
  match keyEvent.code with
  | .char c => (typeChar handler c cursor entry).map (·.finish handler)
  | .backspace => (backspace alphanumeric control cursor entry).map (·.finish handler)
  | .delete => (delete alphanumeric control cursor entry).map (·.finish handler)
  | .key .left => (left alphanumeric control cursor entry).map (·.finish handler)
  | .key .right => (right alphanumeric control cursor entry).map (·.finish handler)
  | .key .endKey => .ok ((endKey cursor entry).finish handler)
  | .key .home => .ok ((home cursor entry).finish handler)
  | .key .up => .ok (passFocus .up)
  | .key .down => .ok (passFocus .down)
  | .key .esc => .ok (passFocus .away)
  | .key .tab => .ok (passFocus .forward)
  | .key .enter => .ok (onEnter handler entry)
  | .key .pageUp | .key .pageDown | .key .other => .ok (.unhandled, entry)

def handleEvent (alphanumeric : Alphanumeric) (handler : TextEntryHandler η) (event : InputEvent)
    (isFocused : Bool) (entry : TextEntry η) :
    Except (Stop ε) (HandleEventStatus × TextEntry η) :=
  if !isFocused then .ok (.unhandled, entry)
  else
    match entry.cursor, event with
    | some cursor, .key keyEvent =>
      if keyEvent.isRelease then .ok (.unhandled, entry)
      else entry.handleKey alphanumeric handler keyEvent cursor
    | _, _ => .ok (.unhandled, entry)

def receiveFocus (entry : TextEntry η) : Bool × TextEntry η :=
  (true, { entry with
    cursor := some ⟨(utf8 entry.text).length, entry.textLenChars⟩, redrawNotified := true })

def focusLost (entry : TextEntry η) : TextEntry η :=
  { entry with cursor := none, redrawNotified := true }

/-- A call of an entry's method. -/
inductive Call where
  | resize (area : Rect)
  | handleEvent (event : InputEvent) (isFocused : Bool)
  | receiveFocus
  | focusLost

/-- The entry after a call, if it does not panic. -/
def step (alphanumeric : Alphanumeric) (handler : TextEntryHandler η) (entry : TextEntry η) :
    Call → Option (TextEntry η)
  | .resize area => some (entry.resize area)
  | .handleEvent event isFocused =>
    (entry.handleEvent (ε := Empty) alphanumeric handler event isFocused).toOption.map Prod.snd
  | .receiveFocus => some entry.receiveFocus.2
  | .focusLost => some entry.focusLost

end TextEntry

end DustDevil
