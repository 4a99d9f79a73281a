import Mathlib.Algebra.Group.Nat.Defs
import Mathlib.Data.List.DropRight
import DustDevil.Lib.Utf8

/-!
# Strings as Rust's standard library treats them

Slices are by byte offsets, and there is none where an offset is not that of a character.
`fromStrRadix` reads a number, and says why where there is none or it has no room in a `u32`
(`fromStrRadix_of_digits`).
-/

namespace Wire

section Char

/-- `char::is_whitespace`: the characters with the Unicode property `White_Space`. -/
def isWhitespace (c : Char) : Bool :=
  (0x0009 ≤ c.toNat ∧ c.toNat ≤ 0x000D) ∨ c.toNat = 0x0020 ∨ c.toNat = 0x0085 ∨ c.toNat = 0x00A0
    ∨ c.toNat = 0x1680 ∨ (0x2000 ≤ c.toNat ∧ c.toNat ≤ 0x200A) ∨ c.toNat = 0x2028
    ∨ c.toNat = 0x2029 ∨ c.toNat = 0x202F ∨ c.toNat = 0x205F ∨ c.toNat = 0x3000

/-- `char::is_alphanumeric`, whose tables are Unicode's: of these it is said only that the ASCII
characters in them are the letters and the digits. -/
structure Alphanumeric where
  test : Char → Bool
  ascii : ∀ c : Char, c.toNat < 128 → test c = c.isAlphanum

/-- The letters and digits of ASCII and nothing else. -/
def Alphanumeric.onlyAscii : Alphanumeric := ⟨Char.isAlphanum, fun _ _ => rfl⟩

/-- What holds of the first 128 characters holds of every character of ASCII. -/
theorem forall_ascii {P : Char → Prop} (h : ∀ n : Fin 128, P (Char.ofNat n)) (c : Char)
    (hc : c.toNat < 128) : P c := by
  have hP := h ⟨c.toNat, hc⟩
  rwa [Char.ofNat_toNat] at hP

theorem toLower_of_not_ascii {c : Char} (hc : ¬ c.toNat < 128) : c.toLower = c := by
  unfold Char.toLower
  rw [dif_neg]
  rintro ⟨-, hle⟩
  exact hc (lt_of_le_of_lt (UInt32.le_iff_toNat_le.1 hle) (by decide))

theorem utf8Size_of_ascii {c : Char} (hc : c.toNat < 128) : c.utf8Size = 1 :=
  Char.utf8Size_eq_one_iff.2 (UInt32.le_iff_toNat_le.2 (Nat.le_of_lt_succ hc))

theorem utf8Size_of_toLower {c : Char} (h : c.toLower.toNat < 128) : c.utf8Size = 1 := by
  by_cases hc : c.toNat < 128
  · exact utf8Size_of_ascii hc
  · rw [toLower_of_not_ascii hc] at h
    exact absurd h hc

end Char

section Slice

/-- `str::trim_start`. -/
def Str.trimStart (s : Str) : Str := s.dropWhile isWhitespace

/-- `str::trim_end`. -/
def Str.trimEnd (s : Str) : Str := s.rdropWhile isWhitespace

/-- `str::trim`. -/
def trim (s : Str) : Str := (s.dropWhile isWhitespace).rdropWhile isWhitespace

/-- `&s[n..]`. -/
def sliceFrom : Str → ℕ → Option Str
  | s, 0 => some s
  | [], _ + 1 => none
  | c :: s, n + 1 => if c.utf8Size ≤ n + 1 then sliceFrom s (n + 1 - c.utf8Size) else none

/-- `&s[..n]`. -/
def sliceTo : Str → ℕ → Option Str
  | _, 0 => some []
  | [], _ + 1 => none
  | c :: s, n + 1 =>
    if c.utf8Size ≤ n + 1 then (sliceTo s (n + 1 - c.utf8Size)).map (c :: ·) else none

/-- `&s[i..j]`. -/
def Str.slice (s : Str) (i j : ℕ) : Option Str := (sliceTo s j).bind (sliceFrom · i)

/-- `str::eq_ignore_ascii_case`. -/
def eqIgnoreAsciiCase (s t : Str) : Bool := s.map Char.toLower = t.map Char.toLower

theorem takeWhile_append_trimStart (s : Str) :
    s.takeWhile isWhitespace ++ Str.trimStart s = s := List.takeWhile_append_dropWhile

theorem trimEnd_append_rtakeWhile (s : Str) :
    Str.trimEnd s ++ s.rtakeWhile isWhitespace = s := List.rdropWhile_append_rtakeWhile

theorem sliceFrom_append : ∀ s t : Str, sliceFrom (s ++ t) (utf8 s).length = some t
  | [], t => by cases t <;> rfl
  | c :: s, t => by
    have hpos := c.utf8Size_pos
    have hlen : (utf8 (c :: s)).length = c.utf8Size + (utf8 s).length := by
      rw [utf8_cons, List.length_append, String.length_utf8EncodeChar]
    obtain ⟨n, hn⟩ : ∃ n, (utf8 (c :: s)).length = n + 1 :=
      ⟨(utf8 (c :: s)).length - 1, by omega⟩
    rw [hn, List.cons_append, sliceFrom, if_pos (by omega)]
    rw [show n + 1 - c.utf8Size = (utf8 s).length by omega]
    exact sliceFrom_append s t

theorem sliceTo_append : ∀ s t : Str, sliceTo (s ++ t) (utf8 s).length = some s
  | [], t => by cases t <;> rfl
  | c :: s, t => by
    have hpos := c.utf8Size_pos
    have hlen : (utf8 (c :: s)).length = c.utf8Size + (utf8 s).length := by
      rw [utf8_cons, List.length_append, String.length_utf8EncodeChar]
    obtain ⟨n, hn⟩ : ∃ n, (utf8 (c :: s)).length = n + 1 :=
      ⟨(utf8 (c :: s)).length - 1, by omega⟩
    rw [hn, List.cons_append, sliceTo, if_pos (by omega)]
    rw [show n + 1 - c.utf8Size = (utf8 s).length by omega, sliceTo_append s t]
    rfl

theorem sliceFrom_drop {s t : Str} {n : ℕ} (h : (utf8 s).length = n) :
    sliceFrom (s ++ t) n = some t := by
  rw [← h, sliceFrom_append]

theorem sliceTo_sub {s t : Str} {n : ℕ} (h : (utf8 t).length = n) :
    sliceTo (s ++ t) ((utf8 (s ++ t)).length - n) = some s := by
  rw [utf8_append, List.length_append, h, Nat.add_sub_cancel, sliceTo_append]

end Slice

/-! ## Numbers -/

section Numbers

/-- `std::num::IntErrorKind`, as far as unsigned numbers have them. -/
inductive IntErrorKind where
  | empty
  | invalidDigit
  | posOverflow
  deriving DecidableEq, Repr

/-- `char::to_digit`. -/
def toDigit (radix : ℕ) (c : Char) : Option ℕ :=
  let digit :=
    if '0' ≤ c ∧ c ≤ '9' then some (c.toNat - '0'.toNat)
    else if 'a' ≤ c.toLower ∧ c.toLower ≤ 'z' then some (c.toLower.toNat - 'a'.toNat + 10)
    else none
  digit.filter (· < radix)

theorem toDigit_mono {radix radix' d : ℕ} {c : Char} (hle : radix ≤ radix')
    (h : toDigit radix c = some d) : toDigit radix' c = some d := by
  simp only [toDigit, Option.filter_eq_some_iff, decide_eq_true_eq] at h ⊢
  exact ⟨h.1, by omega⟩

theorem ascii_of_toDigit {radix d : ℕ} {c : Char} (h : toDigit radix c = some d) :
    c.toNat < 128 := by
  by_contra hc
  have hlower := toLower_of_not_ascii hc
  have hnot : ∀ {d : Char}, d.toNat < 128 → ¬ c ≤ d := fun hd hle =>
    hc (lt_of_le_of_lt (UInt32.le_iff_toNat_le.1 hle) hd)
  simp only [toDigit, hlower, hnot (d := '9') (by decide), hnot (d := 'z') (by decide)] at h
  simp at h

/-- The loop of `u32::from_str_radix`, in which each character is read before it is checked that
there is room for the number so far. -/
def addDigits (radix : ℕ) : ℕ → Str → Except IntErrorKind ℕ
  | result, [] => .ok result
  | result, c :: s =>
    match toDigit radix c with
    | none => .error .invalidDigit
    | some x =>
      if result * radix + x < 2 ^ 32 then addDigits radix (result * radix + x) s
      else .error .posOverflow

/-- `u32::from_str_radix`. A sign `-` is no digit and is refused as one. -/
def fromStrRadix (radix : ℕ) : Str → Except IntErrorKind UInt32
  | [] => .error .empty
  | ['+'] => .error .invalidDigit
  | '+' :: s => (addDigits radix 0 s).map UInt32.ofNat
  | s => (addDigits radix 0 s).map UInt32.ofNat

/-- `u32::checked_mul`. -/
def checkedMul (x : UInt32) (y : ℕ) : Option UInt32 :=
  if x.toNat * y < 2 ^ 32 then some (UInt32.ofNat (x.toNat * y)) else none

/-- The number that some digits make up. -/
def numberOf (radix : ℕ) (digits : List ℕ) : ℕ := digits.foldl (fun n d => n * radix + d) 0

variable {radix : ℕ}

theorem le_foldl_digits (hradix : 0 < radix) :
    ∀ (digits : List ℕ) (n : ℕ), n ≤ digits.foldl (fun n d => n * radix + d) n
  | [], _ => le_rfl
  | d :: digits, n => by
    have hmul := Nat.le_mul_of_pos_right n hradix
    have ih := le_foldl_digits hradix digits (n * radix + d)
    simp only [List.foldl_cons]
    omega

theorem toDigit_of_mem : ∀ {s : Str} {digits : List ℕ}, s.mapM (toDigit radix) = some digits →
    ∀ c ∈ s, ∃ d, toDigit radix c = some d
  | [], _, _, _, hc => absurd hc List.not_mem_nil
  | c :: s, _, h, c', hc => by
    simp only [List.mapM_cons, Option.bind_eq_bind, Option.bind_eq_some_iff] at h
    obtain ⟨d, hd, digits, hs, -⟩ := h
    rcases List.mem_cons.1 hc with rfl | hc
    · exact ⟨d, hd⟩
    · exact toDigit_of_mem hs c' hc

theorem addDigits_of_digits (hradix : 0 < radix) :
    ∀ (s : Str) (digits : List ℕ) (n : ℕ), s.mapM (toDigit radix) = some digits → n < 2 ^ 32 →
      addDigits radix n s
        = if digits.foldl (fun n d => n * radix + d) n < 2 ^ 32 then
            .ok (digits.foldl (fun n d => n * radix + d) n)
          else .error .posOverflow
  | [], digits, n, h, hn => by
    obtain rfl : [] = digits := by simpa using h
    rw [addDigits, List.foldl_nil, if_pos hn]
  | c :: s, digits, n, h, hn => by
    simp only [List.mapM_cons, Option.bind_eq_bind, Option.bind_eq_some_iff, Option.pure_def,
      Option.some.injEq] at h
    obtain ⟨x, hx, digits, hs, rfl⟩ := h
    have hle := le_foldl_digits hradix digits (n * radix + x)
    rw [List.foldl_cons]
    simp only [addDigits, hx]
    by_cases hroom : n * radix + x < 2 ^ 32
    · rw [if_pos hroom]
      exact addDigits_of_digits hradix s digits _ hs hroom
    · rw [if_neg hroom, if_neg (by omega)]

theorem digits_of_addDigits :
    ∀ (s : Str) {n n' : ℕ}, addDigits radix n s = .ok n' →
      ∃ digits, s.mapM (toDigit radix) = some digits
        ∧ n' = digits.foldl (fun n d => n * radix + d) n
  | [], n, n', h => by
    obtain rfl := Except.ok.inj h
    exact ⟨[], rfl, rfl⟩
  | c :: s, n, n', h => by
    rcases hx : toDigit radix c with _ | x
    · simp [addDigits, hx] at h
    simp only [addDigits, hx] at h
    split_ifs at h
    obtain ⟨digits, hs, rfl⟩ := digits_of_addDigits s h
    exact ⟨x :: digits, by simp [List.mapM_cons, hx, hs], rfl⟩

theorem fromStrRadix_of_digits (hradix : 0 < radix) {s : Str} {digits : List ℕ} (hs : s ≠ [])
    (h : s.mapM (toDigit radix) = some digits) :
    fromStrRadix radix s
      = if numberOf radix digits < 2 ^ 32 then .ok (UInt32.ofNat (numberOf radix digits))
        else .error .posOverflow := by
  have hadd : fromStrRadix radix s = (addDigits radix 0 s).map UInt32.ofNat := by
    unfold fromStrRadix
    split
    · exact absurd rfl hs
    · simp [toDigit] at h
    · simp [toDigit] at h
    · rfl
  rw [hadd, addDigits_of_digits hradix s digits 0 h (by decide), numberOf]
  split_ifs <;> rfl

theorem digits_of_fromStrRadix {s : Str} {v : UInt32} (hplus : s.head? ≠ some '+')
    (h : fromStrRadix radix s = .ok v) : ∃ digits, s.mapM (toDigit radix) = some digits := by
  unfold fromStrRadix at h
  split at h
  · nomatch h
  · exact absurd rfl hplus
  · exact absurd rfl hplus
  · rcases hs : addDigits radix 0 s with e | n
    · rw [hs] at h
      nomatch h
    · obtain ⟨digits, hdigits, -⟩ := digits_of_addDigits s hs
      exact ⟨digits, hdigits⟩

end Numbers

end Wire
