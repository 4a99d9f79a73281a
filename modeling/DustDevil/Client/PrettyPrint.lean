import DustDevil.Lib.Text
import Mathlib.Data.Rat.Floor

/-!
# Pretty printing

The client's `pretty_print.rs`. What it computes in `f32` is exact, and so rational here.
-/

namespace DustDevil

open Wire

/-- `f32::trunc`: towards zero. -/
def trunc (q : ℚ) : ℤ := if 0 ≤ q then ⌊q⌋ else ⌈q⌉

/-- `f32::fract`. -/
def fract (q : ℚ) : ℚ := q - trunc q

/-- `as i8`: the nearest `i8` where there is no other. -/
def asI8 (q : ℚ) : ℤ := max (-128) (min 127 (trunc q))

namespace PrettyByteDisplayer

def byteCountSuffixes : List Char := ['K', 'M', 'G', 'T', 'P', 'E']

/-- The variables of the loop, with the suffix in place of its index. -/
structure Scaled where
  suffixChar : Char
  valuePrev : ℕ
  value : ℕ
  multiplier : ℕ

/-- The loop, over the suffixes that are left. -/
def scale : List Char → Scaled → Scaled
  | [], s => s
  | suffixChar :: suffixes, s =>
    if s.value > 1000 then
      scale suffixes ⟨suffixChar, s.value, s.value / 1024, s.multiplier * 1024⟩
    else s

/-- The digits after the point, of which there are as many as `scale` has zeros. -/
def decimalDigits (valuePrev scale : ℕ) : ℕ :=
  (max 0 (min (scale - 1 : ℤ) (asI8 (fract (valuePrev / 1024) * scale)))).toNat

def decimals (valueB : ℕ) (s : Scaled) : Str :=
  if s.value * s.multiplier ≠ valueB then
    if s.value < 10 then
      '.' :: (Nat.toDigits 10 (decimalDigits s.valuePrev 100)).leftpad 2 '0'
    else if s.value < 100 then
      '.' :: (Nat.toDigits 10 (decimalDigits s.valuePrev 10)).leftpad 1 '0'
    else []
  else []

end PrettyByteDisplayer

open PrettyByteDisplayer in
/-- `PrettyByteDisplayer`'s `fmt`. The products stay below `2 ^ 64`. -/
def prettyByteDisplayer (valueB : ℕ) : Str :=
  if valueB < 1000 then Nat.toDigits 10 valueB ++ ['B']
  else
    let s := scale byteCountSuffixes.tail
      ⟨byteCountSuffixes.head (by decide), valueB, valueB / 1024, 1024⟩
    Nat.toDigits 10 s.value ++ decimals valueB s ++ [s.suffixChar, 'B']

/-- `PrettyMillisDisplay`'s `fmt`. -/
def prettyMillisDisplay (millis : UInt16) : Str :=
  if millis = 0 then "<1ms".toList
  else if millis > 9999 then ">9999ms".toList
  else Nat.toDigits 10 millis.toNat ++ "ms".toList

end DustDevil
