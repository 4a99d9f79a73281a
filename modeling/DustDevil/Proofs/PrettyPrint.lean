import DustDevil.Client.PrettyPrint
import DustDevil.Lib.Decimal

/-!
# Pretty printing reads back

`prettyByteDisplayer_reads`: an amount of bytes takes at most six characters, and what they say is
the amount cut off to the last digit that is shown.
-/

namespace DustDevil

open Wire

/-- The bytes in a unit of what is printed. -/
def byteUnit : Str → Option ℕ
  | ['B'] => some 1
  | ['K', 'B'] => some (2 ^ 10)
  | ['M', 'B'] => some (2 ^ 20)
  | ['G', 'B'] => some (2 ^ 30)
  | ['T', 'B'] => some (2 ^ 40)
  | ['P', 'B'] => some (2 ^ 50)
  | ['E', 'B'] => some (2 ^ 60)
  | _ => none

namespace PrettyByteDisplayer

variable {n : ℕ} {s : Scaled}

/-! ## The loop -/

/-- Each suffix is for 1024 times as much as the one before it. -/
def Units : ℕ → List Char → Prop
  | _, [] => True
  | multiplier, suffixChar :: suffixes =>
    byteUnit [suffixChar, 'B'] = some (multiplier * 1024) ∧ Units (multiplier * 1024) suffixes

/-- The variables of the loop are for `n`. -/
structure Scaled.Of (n : ℕ) (s : Scaled) : Prop where
  unit_eq : byteUnit [s.suffixChar, 'B'] = some s.multiplier
  value_eq : s.value = s.valuePrev / 1024
  exists_prev : ∃ b, 0 < b ∧ s.multiplier = 1024 * b ∧ s.valuePrev = n / b

theorem Scaled.Of.next {suffixChar : Char} (h : s.Of n)
    (hunit : byteUnit [suffixChar, 'B'] = some (s.multiplier * 1024)) :
    Scaled.Of n ⟨suffixChar, s.value, s.value / 1024, s.multiplier * 1024⟩ := by
  obtain ⟨b, hb, hmultiplier, hprev⟩ := h.exists_prev
  refine ⟨hunit, rfl, 1024 * b, by positivity, ?_, ?_⟩
  · simp only [hmultiplier, Nat.mul_comm]
  · simp only [h.value_eq, hprev, Nat.div_div_eq_div_mul, Nat.mul_comm]

/-- Where there are suffixes enough, the loop ends with four digits at most. -/
theorem scale_spec {suffixes : List Char} (h : s.Of n) (hunits : Units s.multiplier suffixes)
    (hvalue : s.value ≤ 1000 * 1024 ^ suffixes.length) :
    (scale suffixes s).Of n ∧ (scale suffixes s).value ≤ 1000 := by
  induction suffixes generalizing s with
  | nil => exact ⟨h, by simpa [scale] using hvalue⟩
  | cons suffixChar suffixes ih =>
    unfold scale
    by_cases hlarge : s.value > 1000
    · rw [if_pos hlarge]
      refine ih (h.next hunits.1) hunits.2 (Nat.div_le_of_le_mul ?_)
      calc s.value ≤ 1000 * 1024 ^ (suffixes.length + 1) := hvalue
        _ = 1024 * (1000 * 1024 ^ suffixes.length) := by ring
    · rw [if_neg hlarge]
      exact ⟨h, not_lt.1 hlarge⟩

/-! ## The decimals -/

theorem trunc_div (a b : ℕ) : trunc (a / b) = (a / b : ℕ) := by
  unfold trunc
  rw [if_pos (by positivity), Rat.floor_natCast_div_natCast]
  rfl

theorem fract_div (m : ℕ) : fract (m / 1024) = (m % 1024 : ℕ) / (1024 : ℕ) := by
  have htrunc := trunc_div m 1024
  have hm : (m : ℚ) = 1024 * (m / 1024 : ℕ) + (m % 1024 : ℕ) := by
    exact_mod_cast (Nat.div_add_mod m 1024).symm
  rw [Nat.cast_ofNat] at htrunc
  rw [fract, htrunc, Int.cast_natCast, Nat.cast_ofNat, eq_div_iff (by norm_num), sub_mul,
    div_mul_cancel₀ _ (by norm_num)]
  linarith

theorem decimalDigits_eq (m : ℕ) {scale : ℕ} (hpos : 0 < scale) (hscale : scale ≤ 100) :
    decimalDigits m scale = m % 1024 * scale / 1024 := by
  have hlt : m % 1024 * scale / 1024 < scale := by
    rw [Nat.div_lt_iff_lt_mul (by decide), Nat.mul_comm scale]
    exact Nat.mul_lt_mul_of_pos_right (Nat.mod_lt m (by decide)) hpos
  unfold decimalDigits asI8
  rw [fract_div, div_mul_eq_mul_div, ← Nat.cast_mul, trunc_div]
  omega

/-! ## The number -/

/-- The digits of a number before its unit, which cut `n` off to two units of the last one. -/
structure Shown (n unit : ℕ) (number : Str) : Prop where
  chars : ∀ c ∈ number, isNumberChar c
  length_le : number.length ≤ 4
  reads : ∃ digits places, readNumber number = some (digits, places)
    ∧ digits * unit ≤ 10 ^ places * n ∧ 10 ^ places * n ≤ (digits + 2) * unit

theorem shown_toDigits {value unit : ℕ} (hvalue : value ≤ 1000) (hle : value * unit ≤ n)
    (hlt : n ≤ (value + 2) * unit) : Shown n unit (Nat.toDigits 10 value) where
  chars c hc := by simp [isNumberChar, isDigit_of_mem_toDigits hc]
  length_le := (Nat.length_toDigits_le_iff (by decide) (by decide)).2 (by omega)
  reads := ⟨value, 0, readNumber_toDigits value, by simpa using hle, by simpa using hlt⟩

/-- So many decimals of what the loop has cut off, behind the rest. -/
theorem shown_decimals (h : s.Of n) (places : ℕ) (hpos : 0 < places) (hplaces : places ≤ 2)
    (hvalue : s.value < 10 ^ (3 - places)) :
    Shown n s.multiplier (Nat.toDigits 10 s.value ++
      '.' :: (Nat.toDigits 10 (decimalDigits s.valuePrev (10 ^ places))).leftpad places '0') := by
  obtain ⟨b, hb, hmultiplier, hprev⟩ := h.exists_prev
  have hscale : 10 ^ places ≤ 100 := Nat.pow_le_pow_right (by decide) hplaces
  have hdecimals := decimalDigits_eq s.valuePrev (Nat.pow_pos (n := places) (by decide)) hscale
  have hlt : decimalDigits s.valuePrev (10 ^ places) < 10 ^ places := by
    rw [hdecimals, Nat.div_lt_iff_lt_mul (by decide), Nat.mul_comm]
    exact Nat.mul_lt_mul_of_pos_left (Nat.mod_lt _ (by decide)) (by positivity)
  have hdigits : s.value * 10 ^ places + decimalDigits s.valuePrev (10 ^ places)
      = 10 ^ places * (n / b) / 1024 := by
    rw [hdecimals, h.value_eq, hprev, div_mul_add_mod_mul_div _ _ (by decide)]
  refine ⟨fun c hc => ?_, ?_, _, places, readNumber_decimals _ hpos hlt, ?_⟩
  · rw [List.mem_append, List.mem_cons] at hc
    obtain hc | rfl | hc := hc
    · simp [isNumberChar, isDigit_of_mem_toDigits hc]
    · rfl
    · simp [isNumberChar, isDigit_of_mem_leftpad hc]
  · have hwhole := (Nat.length_toDigits_le_iff (by decide) (by omega)).2 hvalue
    rw [List.length_append, List.length_cons, length_leftpad_toDigits hpos hlt]
    omega
  · rw [hdigits, hmultiplier]
    exact div_div_bounds n hb (by decide) (hscale.trans (by decide))

theorem shown_number (h : s.Of n) (hvalue : s.value ≤ 1000) :
    Shown n s.multiplier (Nat.toDigits 10 s.value ++ decimals n s) := by
  unfold decimals
  by_cases hexact : s.value * s.multiplier = n
  · rw [if_neg (not_not.2 hexact), List.append_nil]
    refine shown_toDigits hvalue hexact.le ?_
    rw [Nat.add_mul, hexact]
    exact Nat.le_add_right _ _
  rw [if_pos hexact]
  split_ifs with hten hhundred
  · exact shown_decimals h 2 (by decide) (by decide) hten
  · exact shown_decimals h 1 (by decide) (by decide) hhundred
  · obtain ⟨b, hb, hmultiplier, hprev⟩ := h.exists_prev
    have hbounds := div_div_bounds n hb (by decide : 0 < 1024) (by decide : 1 ≤ 1024)
    rw [Nat.one_mul, Nat.one_mul, ← hprev, ← h.value_eq, ← hmultiplier] at hbounds
    rw [List.append_nil]
    exact shown_toDigits hvalue hbounds.1 hbounds.2

theorem isNumberChar_of_byteUnit {suffixChar : Char} {unit : ℕ}
    (h : byteUnit [suffixChar, 'B'] = some unit) : isNumberChar suffixChar = false := by
  unfold byteUnit at h
  split at h <;> simp_all [isNumberChar]

theorem Shown.readQuantity {unit : ℕ} {number suffix : Str} (h : Shown n unit number)
    (hunit : byteUnit suffix = some unit) (hhead : ∀ c ∈ suffix.head?, isNumberChar c = false) :
    ∃ quantity, Wire.readQuantity byteUnit (number ++ suffix) = some quantity
      ∧ quantity.amount ≤ n ∧ n - quantity.amount ≤ 2 * quantity.lastDigit := by
  obtain ⟨digits, places, hread, hle, hlt⟩ := h.reads
  exact ⟨_, readQuantity_append h.chars hhead hread hunit, quantity_bounds hle hlt⟩

end PrettyByteDisplayer

open PrettyByteDisplayer in
/-- At most six characters, which say an amount that is less than the right one by at most two
units of its last digit. -/
theorem prettyByteDisplayer_reads (n : UInt64) :
    (prettyByteDisplayer n.toNat).length ≤ 6
      ∧ ∃ quantity, readQuantity byteUnit (prettyByteDisplayer n.toNat) = some quantity
        ∧ quantity.amount ≤ n.toNat ∧ n.toNat - quantity.amount ≤ 2 * quantity.lastDigit := by
  have hn : n.toNat < 2 ^ 64 := n.toNat_lt
  unfold prettyByteDisplayer
  by_cases hsmall : n.toNat < 1000
  · rw [if_pos hsmall]
    have hshown : Shown n.toNat 1 (Nat.toDigits 10 n.toNat) :=
      shown_toDigits hsmall.le (Nat.mul_one _).le (by omega)
    refine ⟨?_, hshown.readQuantity rfl ?_⟩
    · rw [List.length_append]
      exact Nat.add_le_add hshown.length_le (by decide : 1 ≤ 2)
    · rintro c ⟨rfl⟩
      rfl
  · rw [if_neg hsmall]
    have hstart : Scaled.Of n.toNat ⟨'K', n.toNat, n.toNat / 1024, 1024⟩ :=
      ⟨rfl, rfl, 1, Nat.one_pos, rfl, (Nat.div_one _).symm⟩
    have hunits : Units 1024 byteCountSuffixes.tail := ⟨rfl, rfl, rfl, rfl, rfl, trivial⟩
    obtain ⟨hof, hvalue⟩ := scale_spec hstart hunits (by
      show n.toNat / 1024 ≤ 1000 * 1024 ^ 5
      omega)
    have hshown := shown_number hof hvalue
    refine ⟨?_, hshown.readQuantity hof.unit_eq ?_⟩
    · rw [List.length_append]
      exact Nat.add_le_add hshown.length_le le_rfl
    · rintro c ⟨rfl⟩
      exact isNumberChar_of_byteUnit hof.unit_eq

open PrettyByteDisplayer in
theorem length_prettyByteDisplayer_le {n : ℕ} (hn : n < 2 ^ 64) :
    (prettyByteDisplayer n).length ≤ 6 := by
  unfold prettyByteDisplayer
  split_ifs with hsmall
  · have hdigits : (Nat.toDigits 10 n).length ≤ 4 :=
      (Nat.length_toDigits_le_iff (by decide) (by decide)).2 (by omega)
    rw [List.length_append, List.length_singleton]
    omega
  · have hstart : Scaled.Of n ⟨'K', n, n / 1024, 1024⟩ :=
      ⟨rfl, rfl, 1, Nat.one_pos, rfl, (Nat.div_one _).symm⟩
    have hunits : Units 1024 byteCountSuffixes.tail := ⟨rfl, rfl, rfl, rfl, rfl, trivial⟩
    obtain ⟨hof, hvalue⟩ := scale_spec hstart hunits (by
      show n / 1024 ≤ 1000 * 1024 ^ 5
      omega)
    rw [List.length_append]
    exact Nat.add_le_add (shown_number hof hvalue).length_le le_rfl

theorem length_prettyMillisDisplay (millis : UInt16) : (prettyMillisDisplay millis).length ≤ 7 := by
  unfold prettyMillisDisplay
  split_ifs with hzero hlarge
  · decide
  · decide
  · have hmillis : millis.toNat ≤ 9999 := UInt16.not_lt.1 hlarge
    have hdigits : (Nat.toDigits 10 millis.toNat).length ≤ 4 :=
      (Nat.length_toDigits_le_iff (by decide) (by decide)).2 (by omega)
    rw [List.length_append]
    exact Nat.add_le_add hdigits (by decide : 2 ≤ 3)

end DustDevil
