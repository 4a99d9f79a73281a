import DustDevil.Core.BufferSize

/-!
# Wrapping text

The client's `text_wrapper.rs`: `wrap_lines_by_chars` breaks spans of text into lines of so many
characters, and `WrapTextIter` gives the pieces of a text between which its lines break, by byte
offsets. A style is any type.
-/

namespace DustDevil

open Wire

/-! ## Strings that may be static -/

inductive StaticString where
  | static (s : Str)
  | owned (s : Str)
  deriving DecidableEq, Repr

namespace StaticString

variable {ε : Type}

/-- What it dereferences to. -/
def toStr : StaticString → Str
  | .static s => s
  | .owned s => s

/-- A `String` whose bytes are set by `as_mut_vec`: undefined behaviour where they are no UTF-8,
which counts as a panic here. -/
def ofBytes (bytes : List UInt8) : Except (Stop ε) StaticString :=
  match fromUtf8 bytes with
  | .ok s => .ok (.owned s)
  | .error _ => .error .panic

def trimStartingWhitespace : StaticString → Except (Stop ε) StaticString
  | .static s => .ok (.static (Str.trimStart s))
  | .owned s =>
    let finalLength := (utf8 (Str.trimStart s)).length
    let bytesToTrim := (utf8 s).length - finalLength
    if bytesToTrim ≠ 0 then ofBytes (((utf8 s).drop bytesToTrim).take finalLength)
    else .ok (.owned s)

def trimTrailingWhitespace : StaticString → Except (Stop ε) StaticString
  | .static s => .ok (.static (Str.trimEnd s))
  | .owned s =>
    let finalLength := (utf8 (Str.trimEnd s)).length
    ofBytes ((utf8 s).take finalLength)

def splitAt (text : StaticString) (index : ℕ) (trimWhitespaces : Bool) :
    Except (Stop ε) (StaticString × StaticString) := do
  let (left, right) ← match text with
    | .static s => do
      let s1 ← sliceOrPanic (Str.slice s 0 index)
      let s2 ← sliceOrPanic (sliceFrom s index)
      pure (.static s1, .static s2)
    | .owned s => do
      let s2 ← sliceOrPanic (sliceFrom s index)
      let s1 ← sliceOrPanic (sliceTo s index)
      pure (.owned s1, .owned s2)
  if trimWhitespaces then do
    let left ← left.trimTrailingWhitespace
    let right ← right.trimStartingWhitespace
    pure (left, right)
  else pure (left, right)

end StaticString

/-! ## Lines of spans -/

/-- An iterator, here with the items that it has yet to give, and up to one "next" value that is
given before them. -/
structure SetNextIter (O : Type) where
  inner : List O
  next : Option O

namespace SetNextIter

variable {O : Type}

def new (inner : List O) : SetNextIter O := ⟨inner, none⟩

def setNext (next : O) (iter : SetNextIter O) : SetNextIter O := { iter with next := some next }

/-- `Iterator::next`. -/
def advance (iter : SetNextIter O) : Option (O × SetNextIter O) :=
  match iter.next, iter.inner with
  | some o, inner => some (o, ⟨inner, none⟩)
  | none, o :: inner => some (o, ⟨inner, none⟩)
  | none, [] => none

end SetNextIter

section Lines

variable {ε Style : Type}

/-- A line, its spans in order. -/
abbrev Line (Style : Type) : Type := List (StaticString × Style)

/-- The `for` over a span's characters, from the one at a byte offset on: the offset of the one that
has no room in the line, or the line's length after all of them. -/
def scanChars (wrapWidth : ℕ) : ℕ → ℕ → Str → ℕ ⊕ ℕ
  | currentLineLength, _, [] => .inr currentLineLength
  | currentLineLength, index, c :: chars =>
    if wrapWidth < currentLineLength + 1 then .inl index
    else scanChars wrapWidth (currentLineLength + 1) (index + c.utf8Size) chars

/-- The loop of `wrap_lines_by_chars`, of at most `fuel` rounds: the lines that `f` is given. -/
def wrapLoop (wrapWidth : ℕ) : ℕ → Line Style → ℕ → SetNextIter (StaticString × Style) →
    Except (Stop ε) (List (Line Style))
  | 0, _, _, _ => .error .running
  | fuel + 1, lineVec, currentLineLength, iter =>
    match iter.advance with
    | none => .ok (if lineVec.isEmpty then [] else [lineVec])
    | some ((text, style), iter) =>
      match scanChars wrapWidth currentLineLength 0 text.toStr with
      | .inl nextCharI => do
        let (left, right) ← text.splitAt nextCharI true
        let lines ← wrapLoop wrapWidth fuel [] 0 (iter.setNext (right, style))
        pure ((lineVec ++ [(left, style)]) :: lines)
      | .inr currentLineLength =>
        let lineVec := lineVec ++ [(text, style)]
        if currentLineLength = wrapWidth then do
          let lines ← wrapLoop wrapWidth fuel [] 0 iter
          pure (lineVec :: lines)
        else wrapLoop wrapWidth fuel lineVec currentLineLength iter

def wrapLinesByChars (fuel wrapWidth : ℕ) (text : List (StaticString × Style)) :
    Except (Stop ε) (List (Line Style)) :=
  wrapLoop wrapWidth fuel [] 0 (.new text)

end Lines

/-! ## Pieces of a text -/

structure WrapTextIterItem where
  indexStart : ℕ
  lenBytes : ℕ
  lenChars : ℕ
  deriving DecidableEq, Repr

structure WrapTextIter where
  remainingText : Str
  remainingTextIndex : ℕ
  wrapWidth : ℕ

def WrapTextIterItem.getSubstr (item : WrapTextIterItem) (s : Str) : Option Str :=
  Str.slice s item.indexStart (item.indexStart + item.lenBytes)

namespace WrapTextIter

variable {ε : Type}

def new (text : Str) (wrapWidth : ℕ) : WrapTextIter := ⟨trim text, 0, wrapWidth⟩

/-- The loop of `next` from the character at a byte offset on: `split_at_index` and
`char_count_at_split_index` after it. -/
def findSplit (wrapWidth : ℕ) : Str → ℕ → ℕ → ℕ → ℕ → ℕ × ℕ
  | [], index, charCount, _, _ => (index, charCount)
  | c :: chars, index, charCount, splitAtIndex, charCountAtSplitIndex =>
    let (splitAtIndex, charCountAtSplitIndex) :=
      if isWhitespace c then (index, charCount) else (splitAtIndex, charCountAtSplitIndex)
    let charCount := charCount + 1
    if wrapWidth ≤ charCount then
      if splitAtIndex = 0 ∨ ¬ chars.head?.any fun c => !isWhitespace c then
        (index + c.utf8Size, charCount)
      else (splitAtIndex, charCountAtSplitIndex)
    else findSplit wrapWidth chars (index + c.utf8Size) charCount splitAtIndex charCountAtSplitIndex

/-- `Iterator::next`. -/
def advance (iter : WrapTextIter) : Except (Stop ε) (Option (WrapTextIterItem × WrapTextIter)) :=
  match iter.remainingText with
  | [] => .ok none
  | c :: chars => do
    let (splitAtIndex, charCountAtSplitIndex) := findSplit iter.wrapWidth chars c.utf8Size 1 0 0
    let remaining ← sliceOrPanic (sliceFrom iter.remainingText splitAtIndex)
    let remainingTrimmed := Str.trimStart remaining
    pure (some (⟨iter.remainingTextIndex, splitAtIndex, charCountAtSplitIndex⟩,
      { iter with
        remainingText := remainingTrimmed
        remainingTextIndex := iter.remainingTextIndex
          + ((utf8 iter.remainingText).length - (utf8 remainingTrimmed).length) }))

/-- The items that it gives, `fuel` being more than they are. -/
def collect : ℕ → WrapTextIter → Except (Stop ε) (List WrapTextIterItem)
  | 0, _ => .error .running
  | fuel + 1, iter => do
    match ← iter.advance with
    | none => pure []
    | some (item, iter) => do
      let items ← collect fuel iter
      pure (item :: items)

end WrapTextIter

end DustDevil
