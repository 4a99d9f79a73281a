import DustDevil.Core.BufferSize

/-!
# The buffer sizes that can be written

A size is written as a prefix that gives the radix, digits of that radix and a unit. What the parser
takes off either end of a text is a prefix and a unit of these (`takeRadix_eq_ok`,
`takeUnit_eq_ok`), and of a text that is such a size it takes off the prefix and the unit there are
(`takeRadix_append`, `takeUnit_append`): it succeeds on the texts of nonzero sizes below 4GB and on
no others (`parsePrettyBufferSize_eq_ok`).
-/

namespace DustDevil

open Wire

section Grammar

/-- The prefixes, and the radices they give. -/
def RadixText (s : Str) (radix : ℕ) : Prop :=
  s = [] ∧ radix = 10
    ∨ ∃ c : Char, s = ['0', c] ∧ (c.toLower, radix) ∈ [('x', 16), ('o', 8), ('b', 2)]

/-- The units: none, a letter that a `b` may follow, and a `b` by itself, which is a digit where the
radix is 16. -/
def UnitText (radix : ℕ) (s : Str) (multiplier : ℕ) : Prop :=
  s = [] ∧ multiplier = 1
    ∨ (∃ c : Char, (c.toLower, multiplier) ∈ [('k', 1024), ('m', 1024 ^ 2), ('g', 1024 ^ 3)]
        ∧ (s = [c] ∨ ∃ b : Char, s = [c, b] ∧ b.toLower = 'b'))
    ∨ ∃ b : Char, s = [b] ∧ b.toLower = 'b' ∧ multiplier = 1 ∧ radix ≠ 16

/-- A text that is a prefix, some digits of its radix and a unit. -/
def WritesSize (s : Str) (number multiplier : ℕ) : Prop :=
  ∃ radixText numberText unitText radix digits,
    s = radixText ++ numberText ++ unitText ∧ RadixText radixText radix ∧ numberText ≠ []
      ∧ numberText.mapM (toDigit radix) = some digits ∧ number = numberOf radix digits
      ∧ UnitText radix unitText multiplier

end Grammar

section Characters

/-- No digit is a unit's letter, nor one of a prefix or a `b` unless the radix is 16. -/
theorem unitLetter_of_toDigit {radix d : ℕ} {c : Char} (hradix : radix ≤ 16)
    (h : toDigit radix c = some d) :
    unitLetter c = none ∧ c.isAlphanum = true ∧ (radix < 11 → c.toLower ∉ ['x', 'o', 'b']) := by
  have hall : ∀ n : Fin 128,
      ((toDigit 16 (Char.ofNat n)).isSome → unitLetter (Char.ofNat n) = none
        ∧ (Char.ofNat n).isAlphanum = true)
      ∧ ((toDigit 10 (Char.ofNat n)).isSome → (Char.ofNat n).toLower ∉ ['x', 'o', 'b']) := by
    decide +kernel
  have hc := forall_ascii (P := fun c => ((toDigit 16 c).isSome → unitLetter c = none
    ∧ c.isAlphanum = true) ∧ ((toDigit 10 c).isSome → c.toLower ∉ ['x', 'o', 'b'])) hall c
    (ascii_of_toDigit h)
  obtain ⟨hletter, halnum⟩ := hc.1 (by rw [toDigit_mono hradix h]; rfl)
  exact ⟨hletter, halnum, fun hlt => hc.2 (by rw [toDigit_mono (by omega) h]; rfl)⟩

/-- What a text in either case has of ASCII has as many bytes as characters. -/
theorem length_utf8_of_map_toLower : ∀ {s t : Str}, s.map Char.toLower = t →
    (∀ c ∈ t, c.toNat < 128) → (utf8 s).length = t.length
  | [], t, h, _ => by
    rw [← h]
    rfl
  | c :: s, _, rfl, hascii => by
    have hc := utf8Size_of_toLower (hascii c.toLower (List.mem_cons_self ..))
    have ih := length_utf8_of_map_toLower (s := s) rfl fun d hd =>
      hascii d (List.mem_cons_of_mem _ hd)
    rw [utf8_cons, List.length_append, String.length_utf8EncodeChar, hc, ih, List.map_cons,
      List.length_cons, Nat.add_comm]

end Characters

section Radix

variable {ε : Type} {s t : Str} {radix : ℕ}

theorem RadixText.radix_cases (h : RadixText s radix) : 0 < radix ∧ (radix < 11 ∨ radix = 16) := by
  rcases h with ⟨-, rfl⟩ | ⟨c, -, hc⟩
  · decide
  · simp only [List.mem_cons, Prod.mk.injEq, List.not_mem_nil, or_false] at hc
    omega

theorem takeRadix_append (h : RadixText s radix) (hs : s ≠ []) :
    takeRadix (ε := ε) (s ++ t) = .ok (t, radix) := by
  rcases h with ⟨rfl, -⟩ | ⟨c, rfl, hc⟩
  · exact absurd rfl hs
  simp only [List.mem_cons, Prod.mk.injEq, List.not_mem_nil, or_false] at hc
  have hsize : c.utf8Size = 1 := by
    refine utf8Size_of_toLower ?_
    rcases hc with ⟨h, -⟩ | ⟨h, -⟩ | ⟨h, -⟩ <;> rw [h] <;> decide
  have hlen : (utf8 ['0', c]).length = 2 := by
    rw [utf8_cons, utf8_cons, utf8_nil, List.append_nil, List.length_append,
      String.length_utf8EncodeChar, String.length_utf8EncodeChar, hsize]
    rfl
  have hslice : sliceOrPanic (ε := ε) (sliceFrom (['0', c] ++ t) 2) = .ok t := by
    rw [sliceFrom_drop hlen, sliceOrPanic]
  have hfirst : (['0', c] ++ t)[0]? = some '0' := rfl
  have hsecond : (['0', c] ++ t)[1]?.map Char.toLower = some c.toLower := rfl
  unfold takeRadix
  rw [hfirst, hsecond, hslice]
  rcases hc with ⟨h, rfl⟩ | ⟨h, rfl⟩ | ⟨h, rfl⟩ <;> rw [h] <;> rfl

/-- A text begins with a prefix, or it is taken whole. -/
theorem takeRadix_cases (s : Str) :
    (∃ radixText t radix, s = radixText ++ t ∧ radixText ≠ [] ∧ RadixText radixText radix)
      ∨ takeRadix (ε := ε) s = .ok (s, 10) := by
  have hpre : ∀ (d : Char) (radix : ℕ), (d, radix) ∈ [('x', 16), ('o', 8), ('b', 2)] →
      s[0]? = some '0' → s[1]?.map Char.toLower = some d →
      ∃ radixText t radix, s = radixText ++ t ∧ radixText ≠ [] ∧ RadixText radixText radix := by
    rintro d radix hd hfirst hsecond
    obtain ⟨c, hc, rfl⟩ := Option.map_eq_some_iff.1 hsecond
    rcases s with _ | ⟨c₀, _ | ⟨c₁, t⟩⟩
    · nomatch hfirst
    · nomatch hc
    · obtain rfl : c₀ = '0' := Option.some.inj hfirst
      obtain rfl : c₁ = c := Option.some.inj hc
      exact ⟨['0', c₁], t, radix, rfl, List.cons_ne_nil _ _, .inr ⟨c₁, rfl, hd⟩⟩
  unfold takeRadix
  split
  case h_1 hfirst hsecond => exact .inl (hpre 'x' 16 (by decide) hfirst hsecond)
  case h_2 hfirst hsecond => exact .inl (hpre 'o' 8 (by decide) hfirst hsecond)
  case h_3 hfirst hsecond => exact .inl (hpre 'b' 2 (by decide) hfirst hsecond)
  case h_4 => exact .inr rfl

theorem takeRadix_eq_ok (s : Str) :
    ∃ radixText t radix, s = radixText ++ t ∧ RadixText radixText radix
      ∧ takeRadix (ε := ε) s = .ok (t, radix) := by
  rcases takeRadix_cases (ε := ε) s with ⟨radixText, t, radix, rfl, hne, h⟩ | h
  · exact ⟨radixText, t, radix, rfl, h, takeRadix_append h hne⟩
  · exact ⟨[], s, 10, rfl, .inl ⟨rfl, rfl⟩, h⟩

end Radix

section Unit

variable {ε : Type} {s t : Str} {radix multiplier : ℕ}

theorem unitLetter_eq_some {c : Char} :
    unitLetter c = some multiplier ↔
      (c.toLower, multiplier) ∈ [('k', 1024), ('m', 1024 ^ 2), ('g', 1024 ^ 3)] := by
  unfold unitLetter
  generalize c.toLower = d
  split
  case h_1 | h_2 | h_3 =>
    simp only [Option.some.injEq, List.mem_cons, Prod.mk.injEq, List.not_mem_nil, Char.reduceEq,
      true_and, false_and, false_or, or_false]
    exact eq_comm
  case h_4 hk hm hg =>
    simp [show d ≠ 'k' from hk, show d ≠ 'm' from hm, show d ≠ 'g' from hg]

theorem length_utf8_of_unitLetter {c : Char} (h : unitLetter c = some multiplier) :
    (utf8 [c]).length = 1 := by
  have hc := unitLetter_eq_some.1 h
  simp only [List.mem_cons, Prod.mk.injEq, List.not_mem_nil, or_false] at hc
  refine length_utf8_of_map_toLower (t := [c.toLower]) rfl (List.forall_mem_singleton.2 ?_)
  rcases hc with ⟨h, -⟩ | ⟨h, -⟩ | ⟨h, -⟩ <;> rw [h] <;> decide

theorem length_utf8_of_b {b : Char} (h : b.toLower = 'b') : (utf8 [b]).length = 1 :=
  length_utf8_of_map_toLower (t := ['b']) (by rw [List.map_singleton, h])
    (List.forall_mem_singleton.2 (by decide))

theorem unitLetter_of_b {b : Char} (h : b.toLower = 'b') : unitLetter b = none := by
  unfold unitLetter
  rw [h]
  rfl

theorem UnitText.pos (h : UnitText radix s multiplier) : 0 < multiplier := by
  simp only [UnitText, List.mem_cons, Prod.mk.injEq, List.not_mem_nil, or_false] at h
  rcases h with ⟨-, rfl⟩ | ⟨c, hc, -⟩ | ⟨b, -, -, rfl, -⟩
  · decide
  · omega
  · decide

/-- What ends a text that has a unit. -/
theorem takeUnit_letter {c : Char} (h : unitLetter c = some multiplier) :
    takeUnit (ε := ε) (s ++ [c]) radix = .ok (s, multiplier) := by
  unfold takeUnit
  rw [List.reverse_append, List.reverse_singleton, List.singleton_append]
  simp only [h]
  rw [sliceTo_sub (length_utf8_of_unitLetter h)]
  rfl

theorem takeUnit_letter_b {c b : Char} (h : unitLetter c = some multiplier)
    (hb : b.toLower = 'b') : takeUnit (ε := ε) (s ++ [c, b]) radix = .ok (s, multiplier) := by
  have hlen : (utf8 [c, b]).length = 2 := by
    have := length_utf8_of_unitLetter h
    have := length_utf8_of_b hb
    rw [← List.singleton_append, utf8_append, List.length_append]
    omega
  have hletter := unitLetter_of_b hb
  unfold takeUnit
  rw [List.reverse_append]
  simp only [List.reverse_cons, List.reverse_nil, List.nil_append, List.cons_append, hletter, hb,
    if_true, h]
  rw [sliceTo_sub hlen]
  rfl

theorem takeUnit_b {b c : Char} (hc : unitLetter c = none) (hb : b.toLower = 'b')
    (hradix : radix < 11) : takeUnit (ε := ε) (s ++ [c] ++ [b]) radix = .ok (s ++ [c], 1) := by
  have hletter := unitLetter_of_b hb
  unfold takeUnit
  rw [List.reverse_append, List.reverse_append]
  simp only [List.reverse_singleton, List.singleton_append, hletter, hb, if_true, hc, if_pos hradix]
  rw [sliceTo_sub (length_utf8_of_b hb)]
  rfl

/-- A text that ends in no letter of a unit is taken whole, unless a `b` that is no digit does. -/
theorem takeUnit_whole {c : Char} (hc : unitLetter c = none)
    (hb : c.toLower = 'b' → s = [] ∨ ∃ t d, s = t ++ [d] ∧ unitLetter d = none ∧ ¬ radix < 11) :
    takeUnit (ε := ε) (s ++ [c]) radix = .ok (s ++ [c], 1) := by
  unfold takeUnit
  rw [List.reverse_append, List.reverse_singleton, List.singleton_append]
  simp only [hc]
  by_cases hlower : c.toLower = 'b'
  · rw [if_pos hlower]
    rcases hb hlower with rfl | ⟨t, d, rfl, hd, hradix⟩
    · rfl
    · rw [List.reverse_append, List.reverse_singleton, List.singleton_append]
      simp only [hd, if_neg hradix]
  · rw [if_neg hlower]

theorem takeUnit_eq_ok (radix : ℕ) (s : Str) :
    ∃ t unitText multiplier, s = t ++ unitText ∧ UnitText radix unitText multiplier
      ∧ takeUnit (ε := ε) s radix = .ok (t, multiplier) := by
  have hwhole : ∀ {s}, takeUnit (ε := ε) s radix = .ok (s, 1) →
      ∃ t unitText multiplier, s = t ++ unitText ∧ UnitText radix unitText multiplier
        ∧ takeUnit (ε := ε) s radix = .ok (t, multiplier) := fun {s} h =>
    ⟨s, [], 1, (List.append_nil s).symm, .inl ⟨rfl, rfl⟩, h⟩
  rcases List.eq_nil_or_concat s with rfl | ⟨s, c, rfl⟩
  · exact hwhole rfl
  rw [List.concat_eq_append]
  rcases hc : unitLetter c with _ | multiplier
  · by_cases hb : c.toLower = 'b'
    · rcases List.eq_nil_or_concat s with rfl | ⟨s, d, rfl⟩
      · exact hwhole (takeUnit_whole hc fun _ => .inl rfl)
      rw [List.concat_eq_append]
      rcases hd : unitLetter d with _ | multiplier
      · by_cases hlt : radix < 11
        · exact ⟨_, [c], 1, rfl, .inr (.inr ⟨c, rfl, hb, rfl, by omega⟩), takeUnit_b hd hb hlt⟩
        · exact hwhole (takeUnit_whole hc fun _ => .inr ⟨s, d, rfl, hd, hlt⟩)
      · have hunit := unitLetter_eq_some.1 hd
        rw [List.append_assoc]
        exact ⟨s, [d, c], multiplier, rfl, .inr (.inl ⟨d, hunit, .inr ⟨c, rfl, hb⟩⟩),
          takeUnit_letter_b hd hb⟩
    · exact hwhole (takeUnit_whole hc fun h => absurd h hb)
  · exact ⟨s, [c], multiplier, rfl, .inr (.inl ⟨c, unitLetter_eq_some.1 hc, .inl rfl⟩),
      takeUnit_letter hc⟩

/-- Of digits and a unit, the unit is what is taken off. -/
theorem takeUnit_append {digits : List ℕ} (hradix : radix < 11 ∨ radix = 16) (hs : s ≠ [])
    (hdigits : s.mapM (toDigit radix) = some digits) (ht : UnitText radix t multiplier) :
    takeUnit (ε := ε) (s ++ t) radix = .ok (s, multiplier) := by
  rcases List.eq_nil_or_concat s with rfl | ⟨s, c, rfl⟩
  · exact absurd rfl hs
  rw [List.concat_eq_append] at hdigits ⊢
  obtain ⟨d, hd⟩ := toDigit_of_mem hdigits c (by simp)
  obtain ⟨hletter, -, hb⟩ := unitLetter_of_toDigit (by omega) hd
  rcases ht with ⟨rfl, rfl⟩ | ⟨c', hc', rfl | ⟨b, rfl, hb'⟩⟩ | ⟨b, rfl, hb', rfl, hne⟩
  · rw [List.append_nil]
    refine takeUnit_whole hletter fun hlower => ?_
    -- the last digit is a `b`, so the radix is 16, and the digit before it is no unit's letter
    have hradix : ¬ radix < 11 := fun hlt => hb hlt (by simp [hlower])
    rcases List.eq_nil_or_concat s with rfl | ⟨s, c', rfl⟩
    · exact .inl rfl
    rw [List.concat_eq_append] at hdigits ⊢
    obtain ⟨d', hd'⟩ := toDigit_of_mem hdigits c' (by simp)
    exact .inr ⟨s, c', rfl, (unitLetter_of_toDigit (by omega) hd').1, hradix⟩
  · exact takeUnit_letter (unitLetter_eq_some.2 hc')
  · exact takeUnit_letter_b (unitLetter_eq_some.2 hc') hb'
  · exact takeUnit_b hletter hb' (by omega)

end Unit

section Size

variable {s t : Str} {radix number multiplier : ℕ} {digits : List ℕ} {v : UInt32}

theorem parseSize_of_digits (hradix : 0 < radix) (hle : radix ≤ 16) (hs : s ≠ [])
    (hdigits : s.mapM (toDigit radix) = some digits) (hmultiplier : 0 < multiplier) :
    parseSize s radix multiplier
      = if numberOf radix digits = 0 then .error .zero
        else if numberOf radix digits * multiplier < 2 ^ 32 then
          .ok (UInt32.ofNat (numberOf radix digits * multiplier))
        else .error .tooLarge := by
  rcases s with _ | ⟨c, s⟩
  · exact absurd rfl hs
  obtain ⟨d, hd⟩ := toDigit_of_mem hdigits c (List.mem_cons_self ..)
  obtain ⟨-, halnum, -⟩ := unitLetter_of_toDigit hle hd
  have hle := Nat.le_mul_of_pos_right (numberOf radix digits) hmultiplier
  simp only [parseSize, halnum, if_true, fromStrRadix_of_digits hradix hs hdigits]
  generalize numberOf radix digits = number at hle ⊢
  by_cases hroom : number < 2 ^ 32
  · have hnat : (UInt32.ofNat number).toNat = number := UInt32.toNat_ofNat_of_lt' hroom
    have hzero : UInt32.ofNat number = 0 ↔ number = 0 := by
      rw [← UInt32.toNat_inj, hnat]
      rfl
    rw [if_pos hroom]
    simp only [hzero, checkedMul, hnat]
    by_cases hnumber : number = 0
    · rw [if_pos hnumber, if_pos hnumber]
    · rw [if_neg hnumber, if_neg hnumber]
      by_cases hproduct : number * multiplier < 2 ^ 32
      · rw [if_pos hproduct, if_pos hproduct]
      · rw [if_neg hproduct, if_neg hproduct]
  · rw [if_neg hroom, if_neg (by omega), if_neg (by omega)]

theorem digits_of_parseSize (h : parseSize s radix multiplier = .ok v) :
    s ≠ [] ∧ ∃ digits, s.mapM (toDigit radix) = some digits := by
  rcases s with _ | ⟨c, s⟩
  · nomatch h
  simp only [parseSize] at h
  split_ifs at h with halnum
  have hplus : (c :: s).head? ≠ some '+' := by
    rintro hc
    rw [Option.some.inj hc] at halnum
    exact absurd halnum (by decide)
  rcases hsize : fromStrRadix radix (c :: s) with e | size
  · rw [hsize] at h
    cases e <;> nomatch h
  · exact ⟨List.cons_ne_nil _ _, digits_of_fromStrRadix hplus hsize⟩

end Size

section Parse

variable {s : Str} {number multiplier : ℕ} {v : UInt32}

theorem RadixText.radix_le {t : Str} {radix : ℕ} (h : RadixText t radix) :
    0 < radix ∧ radix ≤ 16 := by
  have := h.radix_cases
  omega

theorem parse_of_trim {radix : ℕ} {t t' : Str} (hs : trim s ≠ [])
    (hradix : takeRadix (ε := PrettyBufferSizeParseError) (trim s) = .ok (t, radix))
    (hunit : takeUnit (ε := PrettyBufferSizeParseError) t radix = .ok (t', multiplier)) :
    parsePrettyBufferSize s = (parseSize t' radix multiplier).mapError .err := by
  have hbind : parsePrettyBufferSize s
      = (takeUnit t radix >>= fun p => (parseSize p.1 radix p.2).mapError .err) := by
    simp only [parsePrettyBufferSize, if_neg hs, hradix]
    rfl
  rw [hbind, hunit]
  rfl

/-- The one text with a prefix that is also a number and a unit without one is `0b`. -/
theorem eq_zero_b {numberText unitText radixText t : Str} {radix : ℕ} {digits : List ℕ}
    (hs : numberText ≠ []) (hdigits : numberText.mapM (toDigit 10) = some digits)
    (hunit : UnitText 10 unitText multiplier) (hradix : RadixText radixText radix)
    (hne : radixText ≠ []) (heq : numberText ++ unitText = radixText ++ t) :
    numberText = ['0'] ∧ radix = 2 ∧ t = [] := by
  rcases hradix with ⟨rfl, -⟩ | ⟨c, rfl, hc⟩
  · exact absurd rfl hne
  simp only [List.mem_cons, Prod.mk.injEq, List.not_mem_nil, or_false] at hc
  rcases numberText with _ | ⟨c₀, _ | ⟨c₁, rest⟩⟩
  · exact absurd rfl hs
  · obtain ⟨rfl, rfl⟩ := List.cons.inj heq
    rcases hunit with ⟨h, -⟩ | ⟨c', hc', hunit⟩ | ⟨b, hb, hlower, -, -⟩
    · exact absurd h (List.cons_ne_nil _ _)
    · -- a unit's letter is not one of a prefix
      obtain rfl : c' = c := by rcases hunit with h | ⟨b, h, -⟩ <;> exact (List.cons.inj h).1.symm
      simp only [List.mem_cons, Prod.mk.injEq, List.not_mem_nil, or_false] at hc'
      rcases hc with ⟨h, -⟩ | ⟨h, -⟩ | ⟨h, -⟩ <;> simp [h] at hc'
    · obtain ⟨rfl, rfl⟩ := List.cons.inj hb
      rw [hlower] at hc
      exact ⟨rfl, by simpa using hc, rfl⟩
  · -- the letter of a prefix is no digit
    obtain ⟨-, htail⟩ := List.cons.inj heq
    obtain ⟨rfl, -⟩ := List.cons.inj htail
    obtain ⟨d, hd⟩ := toDigit_of_mem hdigits c₁ (by simp)
    have hlower := (unitLetter_of_toDigit (by decide) hd).2.2 (by decide)
    rcases hc with ⟨h, -⟩ | ⟨h, -⟩ | ⟨h, -⟩ <;> simp [h] at hlower

/-- A size that is written is read as the digits there are, but for `0b`. -/
theorem parse_of_writesSize (h : WritesSize (trim s) number multiplier) :
    (∃ numberText radix digits, numberText ≠ [] ∧ 0 < radix ∧ radix ≤ 16
        ∧ numberText.mapM (toDigit radix) = some digits ∧ number = numberOf radix digits
        ∧ parsePrettyBufferSize s = (parseSize numberText radix multiplier).mapError .err)
      ∨ number = 0 ∧ parsePrettyBufferSize s = .error (.err .invalidFormat) := by
  obtain ⟨radixText, numberText, unitText, radix, digits, heq, hradix, hne, hdigits, hnumber,
    hunit⟩ := h
  have hs : trim s ≠ [] := by simp [heq, hne]
  rw [List.append_assoc] at heq
  by_cases htake : takeRadix (ε := PrettyBufferSizeParseError) (trim s)
      = .ok (numberText ++ unitText, radix)
  · left
    have htake' := takeUnit_append (ε := PrettyBufferSizeParseError) hradix.radix_cases.2 hne
      hdigits hunit
    exact ⟨numberText, radix, digits, hne, hradix.radix_le.1, hradix.radix_le.2, hdigits, hnumber,
      parse_of_trim hs htake htake'⟩
  · right
    obtain ⟨rfl, rfl⟩ : radixText = [] ∧ radix = 10 := by
      rcases hradix with h | ⟨c, rfl, hc⟩
      · exact h
      · have happend := takeRadix_append (ε := PrettyBufferSizeParseError)
          (t := numberText ++ unitText) (.inr ⟨c, rfl, hc⟩) (List.cons_ne_nil _ _)
        exact absurd (heq ▸ happend) htake
    rw [List.nil_append] at heq
    rcases takeRadix_cases (ε := PrettyBufferSizeParseError) (trim s) with
      ⟨radixText, t, radix, heq', hne', hradix'⟩ | hwhole
    · have happend := takeRadix_append (ε := PrettyBufferSizeParseError) (t := t) hradix' hne'
      rw [← heq'] at happend
      obtain ⟨rfl, rfl, rfl⟩ := eq_zero_b hne hdigits hunit hradix' hne' (heq.symm.trans heq')
      obtain rfl : [0] = digits := Option.some.inj hdigits
      exact ⟨hnumber, by rw [parse_of_trim hs happend rfl]; rfl⟩
    · exact absurd (heq ▸ hwhole) htake

/-- The parser takes a prefix and a unit off a text, and reads a number. -/
theorem parse_eq (hs : trim s ≠ []) :
    ∃ radixText numberText unitText radix multiplier,
      trim s = radixText ++ numberText ++ unitText ∧ RadixText radixText radix
        ∧ UnitText radix unitText multiplier
        ∧ parsePrettyBufferSize s = (parseSize numberText radix multiplier).mapError .err := by
  obtain ⟨radixText, t, radix, heq, hradix, htake⟩ :=
    takeRadix_eq_ok (ε := PrettyBufferSizeParseError) (trim s)
  obtain ⟨numberText, unitText, multiplier, rfl, hunit, htake'⟩ :=
    takeUnit_eq_ok (ε := PrettyBufferSizeParseError) radix t
  exact ⟨radixText, numberText, unitText, radix, multiplier, by rw [heq, List.append_assoc], hradix,
    hunit, parse_of_trim hs htake htake'⟩

/-- Every slice the parser takes is there. -/
theorem parsePrettyBufferSize_settles (s : Str) :
    (∃ v, parsePrettyBufferSize s = .ok v) ∨ ∃ e, parsePrettyBufferSize s = .error (.err e) := by
  by_cases hs : trim s = []
  · exact .inr ⟨.empty, by simp only [parsePrettyBufferSize, if_pos hs]⟩
  · obtain ⟨-, numberText, -, radix, multiplier, -, -, -, h⟩ := parse_eq hs
    rw [h]
    rcases parseSize numberText radix multiplier with e | v
    · exact .inr ⟨e, rfl⟩
    · exact .inl ⟨v, rfl⟩

/-- What a text that writes a size is read as. -/
theorem parsePrettyBufferSize_of_writesSize (h : WritesSize (trim s) number multiplier) :
    (0 < number * multiplier → number * multiplier < 2 ^ 32 →
        parsePrettyBufferSize s = .ok (UInt32.ofNat (number * multiplier)))
      ∧ (number * multiplier = 0 → ∃ e, parsePrettyBufferSize s = .error (.err e))
      ∧ (2 ^ 32 ≤ number * multiplier → parsePrettyBufferSize s = .error (.err .tooLarge)) := by
  have hmultiplier : 0 < multiplier := by
    obtain ⟨_, _, _, _, _, -, -, -, -, -, hunit⟩ := h
    exact hunit.pos
  rcases parse_of_writesSize h with
    ⟨numberText, radix, digits, hne, hpos, hle, hdigits, rfl, hparse⟩ | ⟨rfl, hparse⟩
  · rw [hparse, parseSize_of_digits hpos hle hne hdigits hmultiplier]
    generalize numberOf radix digits = number
    refine ⟨fun h h' => ?_, fun h => ⟨.zero, ?_⟩, fun h => ?_⟩
    · rw [if_neg (Nat.pos_of_mul_pos_right h).ne', if_pos h']
      rfl
    · rw [if_pos ((Nat.mul_eq_zero.1 h).resolve_right hmultiplier.ne')]
      rfl
    · have hnumber : number ≠ 0 := by
        rintro rfl
        omega
      rw [if_neg hnumber, if_neg (by omega)]
      rfl
  · rw [Nat.zero_mul]
    exact ⟨fun h => absurd h (lt_irrefl 0), fun _ => ⟨_, hparse⟩, fun h => absurd h (by decide)⟩

/-- What is read as a size is written as one. -/
theorem writesSize_of_parse (h : parsePrettyBufferSize s = .ok v) :
    ∃ number multiplier, WritesSize (trim s) number multiplier ∧ v.toNat = number * multiplier
      ∧ 0 < number * multiplier := by
  have hs : trim s ≠ [] := by
    intro hs
    simp only [parsePrettyBufferSize, if_pos hs] at h
    nomatch h
  obtain ⟨radixText, numberText, unitText, radix, multiplier, heq, hradix, hunit, hparse⟩ :=
    parse_eq hs
  rcases hsize : parseSize numberText radix multiplier with e | v'
  · rw [hparse, hsize] at h
    nomatch h
  obtain ⟨hne, digits, hdigits⟩ := digits_of_parseSize hsize
  have hwrites : WritesSize (trim s) (numberOf radix digits) multiplier :=
    ⟨radixText, numberText, unitText, radix, digits, heq, hradix, hne, hdigits, rfl, hunit⟩
  obtain ⟨hok, hzero, hlarge⟩ := parsePrettyBufferSize_of_writesSize hwrites
  have hpos : 0 < numberOf radix digits * multiplier := by
    by_contra hpos
    obtain ⟨e, he⟩ := hzero (by omega)
    exact absurd (h.symm.trans he) (by simp)
  have hroom : numberOf radix digits * multiplier < 2 ^ 32 := by
    by_contra hroom
    exact absurd (h.symm.trans (hlarge (by omega))) (by simp)
  have hv := Except.ok.inj (h.symm.trans (hok hpos hroom))
  exact ⟨_, _, hwrites, by rw [hv, UInt32.toNat_ofNat_of_lt' hroom], hpos⟩

/-- A text is read as a size exactly if it writes one that is neither zero nor above `u32::MAX`,
and it is read as that size. -/
theorem parsePrettyBufferSize_eq_ok :
    parsePrettyBufferSize s = .ok v ↔
      ∃ number multiplier, WritesSize (trim s) number multiplier ∧ v.toNat = number * multiplier
        ∧ 0 < number * multiplier := by
  refine ⟨writesSize_of_parse, ?_⟩
  rintro ⟨number, multiplier, h, hv, hpos⟩
  rw [(parsePrettyBufferSize_of_writesSize h).1 hpos (hv ▸ v.toNat_lt), ← hv, UInt32.ofNat_toNat]

end Parse

end DustDevil
