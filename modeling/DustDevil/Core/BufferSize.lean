import DustDevil.Lib.Proc
import DustDevil.Lib.Text

/-!
# Human-readable buffer sizes

`dust_devil_core::buffer_size`: a number, in a radix that a prefix may give, and a unit. The parser
cuts the prefix and the unit off by byte offsets.
-/

namespace DustDevil

open Wire

/-- An error from parsing an invalid string with `parsePrettyBufferSize`. -/
inductive PrettyBufferSizeParseError where
  | empty
  | zero
  | invalidFormat
  | invalidCharacters
  | tooLarge
  deriving DecidableEq, Repr

section Parse

variable {ε : Type}

/-- A slice, where taking one that is not there panics. -/
def sliceOrPanic : Option Str → Except (Stop ε) Str
  | some s => .ok s
  | none => .error .panic

/-- The radix, and what follows the prefix that gives it. -/
def takeRadix (s : Str) : Except (Stop ε) (Str × ℕ) :=
  match s[0]?, s[1]?.map Char.toLower with
  | some '0', some 'x' => (sliceOrPanic (sliceFrom s 2)).map (·, 16)
  | some '0', some 'o' => (sliceOrPanic (sliceFrom s 2)).map (·, 8)
  | some '0', some 'b' => (sliceOrPanic (sliceFrom s 2)).map (·, 2)
  | _, _ => .ok (s, 10)

/-- What a unit's letter multiplies by. -/
def unitLetter (c : Char) : Option ℕ :=
  match c.toLower with
  | 'k' => some 1024
  | 'm' => some (1024 * 1024)
  | 'g' => some (1024 * 1024 * 1024)
  | _ => none

/-- The unit, and what comes before it. -/
def takeUnit (s : Str) (radix : ℕ) : Except (Stop ε) (Str × ℕ) :=
  match s.reverse with
  | [] => .ok (s, 1)
  | last :: before =>
    match unitLetter last with
    | some multiplier => (sliceOrPanic (sliceTo s ((utf8 s).length - 1))).map (·, multiplier)
    | none =>
      if last.toLower = 'b' then
        match before with
        | [] => .ok (s, 1)
        | c :: _ =>
          match unitLetter c with
          | some multiplier => (sliceOrPanic (sliceTo s ((utf8 s).length - 2))).map (·, multiplier)
          | none =>
            if radix < 11 then (sliceOrPanic (sliceTo s ((utf8 s).length - 1))).map (·, 1)
            else .ok (s, 1)
      else .ok (s, 1)

/-- The number before the unit, multiplied. -/
def parseSize (s : Str) (radix multiplier : ℕ) : Except PrettyBufferSizeParseError UInt32 :=
  match s with
  | [] => .error .invalidFormat
  | c :: _ =>
    if c.isAlphanum then
      match fromStrRadix radix s with
      | .ok size =>
        if size = 0 then .error .zero
        else
          match checkedMul size multiplier with
          | some size => .ok size
          | none => .error .tooLarge
      | .error .empty => .error .empty
      | .error .posOverflow => .error .tooLarge
      | .error .invalidDigit => .error .invalidCharacters
    else .error .invalidFormat

def parsePrettyBufferSize (s : Str) : Except (Stop PrettyBufferSizeParseError) UInt32 :=
  let s := trim s
  if s = [] then .error (.err .empty)
  else do
    let (s, radix) ← takeRadix s
    let (s, multiplier) ← takeUnit s radix
    (parseSize s radix multiplier).mapError .err

end Parse

end DustDevil
