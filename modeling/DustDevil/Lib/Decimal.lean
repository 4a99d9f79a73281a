import Mathlib.Data.List.TakeWhile
import Mathlib.Data.Nat.Cast.Order.Field
import Mathlib.Data.Rat.Cast.Order
import Mathlib.Tactic.Linarith
import Mathlib.Tactic.Ring

/-!
# Decimal quantities

The text of a decimal number with a unit behind it, read back as the amount that it stands for and
the unit of its last digit. A quotient that is cut off to a whole number before it is cut off to its
decimals is less than the exact one by two units of the last digit at most (`div_div_bounds`).
-/

namespace Wire

def isNumberChar (c : Char) : Bool := c.isDigit || c == '.'

/-- A number with decimals or without, as its digits and how many of them are decimals. -/
def readNumber (text : List Char) : Option (ℕ × ℕ) :=
  let whole := text.takeWhile Char.isDigit
  match text.dropWhile Char.isDigit with
  | [] => if whole = [] then none else some (Nat.ofDigitChars 10 whole 0, 0)
  | '.' :: decimals =>
    if whole = [] ∨ decimals = [] ∨ ¬ decimals.all Char.isDigit then none
    else some (Nat.ofDigitChars 10 (whole ++ decimals) 0, decimals.length)
  | _ => none

/-- An amount, and the unit of the last digit that is given. -/
structure Quantity where
  amount : ℚ
  lastDigit : ℚ

def readQuantity (units : List Char → Option ℕ) (text : List Char) : Option Quantity :=
  (readNumber (text.takeWhile isNumberChar)).bind fun (digits, places) =>
    (units (text.dropWhile isNumberChar)).map fun unit =>
      ⟨digits * unit / 10 ^ places, unit / 10 ^ places⟩

section Read

theorem isDigit_of_mem_toDigits {n : ℕ} {c : Char} (h : c ∈ Nat.toDigits 10 n) : c.isDigit :=
  Nat.isDigit_of_mem_toDigits (by decide) (by decide) h

theorem isDigit_of_mem_leftpad {places d : ℕ} {c : Char}
    (h : c ∈ (Nat.toDigits 10 d).leftpad places '0') : c.isDigit := by
  rw [List.leftpad, List.mem_append, List.mem_replicate] at h
  obtain ⟨-, rfl⟩ | h := h
  · rfl
  · exact isDigit_of_mem_toDigits h

theorem length_leftpad_toDigits {places d : ℕ} (hplaces : 0 < places) (hd : d < 10 ^ places) :
    ((Nat.toDigits 10 d).leftpad places '0').length = places := by
  rw [List.length_leftpad]
  exact max_eq_left ((Nat.length_toDigits_le_iff (by decide) hplaces).2 hd)

theorem ofDigitChars_leftpad (places d : ℕ) :
    Nat.ofDigitChars 10 ((Nat.toDigits 10 d).leftpad places '0') 0 = d := by
  rw [List.leftpad, Nat.ofDigitChars_append, Nat.ofDigitChars_replicate_zero, Nat.mul_zero]
  exact Nat.ofDigitChars_ten_toDigits

theorem readNumber_toDigits (n : ℕ) : readNumber (Nat.toDigits 10 n) = some (n, 0) := by
  have hdigits : ∀ c ∈ Nat.toDigits 10 n, c.isDigit := fun _ => isDigit_of_mem_toDigits
  have htake := List.takeWhile_eq_self_iff.2 hdigits
  have hdrop := List.dropWhile_eq_nil_iff.2 hdigits
  simp [readNumber, htake, hdrop, Nat.toDigits_ne_nil]

theorem readNumber_decimals (n : ℕ) {d places : ℕ} (hplaces : 0 < places) (hd : d < 10 ^ places) :
    readNumber (Nat.toDigits 10 n ++ '.' :: (Nat.toDigits 10 d).leftpad places '0')
      = some (n * 10 ^ places + d, places) := by
  have hdigits : ∀ c ∈ Nat.toDigits 10 n, c.isDigit := fun _ => isDigit_of_mem_toDigits
  have hlength := length_leftpad_toDigits hplaces hd
  have hne : (Nat.toDigits 10 d).leftpad places '0' ≠ [] := by
    rw [← List.length_pos_iff, hlength]
    exact hplaces
  have hall : ((Nat.toDigits 10 d).leftpad places '0').all Char.isDigit :=
    List.all_eq_true.2 fun _ => isDigit_of_mem_leftpad
  have hpoint : ('.' : Char).isDigit = false := rfl
  unfold readNumber
  rw [List.takeWhile_append_of_pos hdigits, List.dropWhile_append_of_pos hdigits,
    List.takeWhile_cons_of_neg (by simp [hpoint]), List.dropWhile_cons_of_neg (by simp [hpoint]),
    List.append_nil]
  simp only [Nat.toDigits_ne_nil, hne, hall, not_true, or_self, if_false, hlength,
    Nat.ofDigitChars_append, Nat.ofDigitChars_ten_toDigits]
  rw [Nat.ofDigitChars_eq_ofDigitChars_zero, hlength, ofDigitChars_leftpad, Nat.mul_comm]

theorem readQuantity_append {units : List Char → Option ℕ} {number unit : List Char}
    {digits places size : ℕ} (hnumber : ∀ c ∈ number, isNumberChar c)
    (hhead : ∀ c ∈ unit.head?, isNumberChar c = false)
    (hread : readNumber number = some (digits, places)) (hunit : units unit = some size) :
    readQuantity units (number ++ unit)
      = some ⟨digits * size / 10 ^ places, size / 10 ^ places⟩ := by
  have hunits : unit.takeWhile isNumberChar = [] ∧ unit.dropWhile isNumberChar = unit := by
    cases unit with
    | nil => exact ⟨rfl, rfl⟩
    | cons c unit =>
      have hc := hhead c rfl
      exact ⟨List.takeWhile_cons_of_neg (by simp [hc]), List.dropWhile_cons_of_neg (by simp [hc])⟩
  unfold readQuantity
  rw [List.takeWhile_append_of_pos hnumber, List.dropWhile_append_of_pos hnumber, hunits.1,
    hunits.2, List.append_nil, hread, hunit]
  rfl

end Read

section Bounds

/-- `n / b` is cut off, and then its `scale`-fold divided by `c`. -/
theorem div_div_bounds (n : ℕ) {b c scale : ℕ} (hb : 0 < b) (hc : 0 < c) (hscale : scale ≤ c) :
    scale * (n / b) / c * (c * b) ≤ scale * n
      ∧ scale * n ≤ (scale * (n / b) / c + 2) * (c * b) := by
  set m := n / b
  set digits := scale * m / c
  have hm : m * b ≤ n := Nat.div_mul_le_self n b
  have hn : n ≤ (m + 1) * b := by
    rw [Nat.mul_comm]
    exact (Nat.lt_mul_div_succ n hb).le
  have hdigits : digits * c ≤ scale * m := Nat.div_mul_le_self _ c
  have hscaled : scale * m ≤ (digits + 1) * c := by
    rw [Nat.mul_comm (digits + 1)]
    exact (Nat.lt_mul_div_succ (scale * m) hc).le
  constructor
  · calc digits * (c * b) = digits * c * b := by ring
      _ ≤ scale * m * b := Nat.mul_le_mul_right b hdigits
      _ = scale * (m * b) := by ring
      _ ≤ scale * n := Nat.mul_le_mul_left scale hm
  · calc scale * n ≤ scale * ((m + 1) * b) := Nat.mul_le_mul_left scale hn
      _ = scale * m * b + scale * b := by ring
      _ ≤ (digits + 1) * c * b + c * b :=
        Nat.add_le_add (Nat.mul_le_mul_right b hscaled) (Nat.mul_le_mul_right b hscale)
      _ = (digits + 2) * (c * b) := by ring

theorem div_mul_add_mod_mul_div (m scale : ℕ) {c : ℕ} (hc : 0 < c) :
    m / c * scale + m % c * scale / c = scale * m / c := by
  rw [← Nat.mul_add_div hc, Nat.mul_comm scale]
  congr 1
  calc c * (m / c * scale) + m % c * scale = (c * (m / c) + m % c) * scale := by ring
    _ = m * scale := by rw [Nat.div_add_mod]

/-- The amount and the last digit of a quantity that is read, in terms of its digits. -/
theorem quantity_bounds {n digits unit places : ℕ} (hle : digits * unit ≤ 10 ^ places * n)
    (hlt : 10 ^ places * n ≤ (digits + 2) * unit) :
    (digits * unit / 10 ^ places : ℚ) ≤ n
      ∧ (n : ℚ) - digits * unit / 10 ^ places ≤ 2 * (unit / 10 ^ places) := by
  have hpos : (0 : ℚ) < 10 ^ places := by positivity
  have hle' : (digits * unit : ℚ) ≤ 10 ^ places * n := by exact_mod_cast hle
  have hlt' : (10 ^ places * n : ℚ) ≤ (digits + 2) * unit := by exact_mod_cast hlt
  constructor
  · rw [div_le_iff₀ hpos]
    linarith
  · rw [sub_le_iff_le_add, ← mul_div_assoc, ← add_div, le_div_iff₀ hpos]
    linarith

end Bounds

end Wire
