import Mathlib.Data.Nat.Notation
import Mathlib.Tactic.SplitIfs

/-!
# Text as characters and as UTF-8

A string is the list of its characters. `utf8` gives its bytes and `fromUtf8` reads bytes back,
one character at a time; where it stops, it says how many bytes were well formed. The two are
inverse to each other (`fromUtf8_ok_iff`).
-/

namespace Wire

/-- A string: its characters, each a Unicode scalar value. -/
abbrev Str := List Char

def utf8 (s : Str) : List UInt8 := s.flatMap String.utf8EncodeChar

def decodeChar (bs : List UInt8) : Option Char := bs.toByteArray.utf8DecodeChar? 0

@[simp] theorem utf8_nil : utf8 [] = [] := rfl

@[simp] theorem utf8_cons (c : Char) (s : Str) :
    utf8 (c :: s) = String.utf8EncodeChar c ++ utf8 s := rfl

@[simp] theorem utf8_append (s t : Str) : utf8 (s ++ t) = utf8 s ++ utf8 t := by
  simp [utf8]

theorem length_encodeChar_pos (c : Char) : 0 < (String.utf8EncodeChar c).length := by
  rw [String.length_utf8EncodeChar]
  exact c.utf8Size_pos

theorem decodeChar_encode_append (c : Char) (bs : List UInt8) :
    decodeChar (String.utf8EncodeChar c ++ bs) = some c := by
  unfold decodeChar
  rw [List.toByteArray_append]
  exact ByteArray.utf8DecodeChar?_utf8EncodeChar_append

theorem decodeChar_eq_some {bs : List UInt8} {c : Char} (h : decodeChar bs = some c) :
    ∃ rest, bs = String.utf8EncodeChar c ++ rest := by
  obtain ⟨b, hb⟩ := ByteArray.exists_of_utf8DecodeChar?_eq_some h
  refine ⟨b.data.toList, ?_⟩
  have := congrArg (fun a : ByteArray => a.data.toList) hb
  simpa using this

/-- Reads at most `fuel` characters. -/
def fromUtf8Go : ℕ → List UInt8 → Except ℕ Str
  | _, [] => .ok []
  | 0, _ :: _ => .error 0
  | fuel + 1, bs@(_ :: _) =>
    match decodeChar bs with
    | none => .error 0
    | some c =>
      match fromUtf8Go fuel (bs.drop c.utf8Size) with
      | .ok s => .ok (c :: s)
      | .error validUpTo => .error (c.utf8Size + validUpTo)

/-- `std::str::from_utf8`: the string, or how many bytes are valid (`valid_up_to`). -/
def fromUtf8 (bs : List UInt8) : Except ℕ Str := fromUtf8Go bs.length bs

theorem fromUtf8Go_utf8 :
    ∀ (s : Str) (fuel : ℕ), (utf8 s).length ≤ fuel → fromUtf8Go fuel (utf8 s) = .ok s
  | [], fuel, _ => by cases fuel <;> rfl
  | c :: s, fuel, h => by
    have hpos := length_encodeChar_pos c
    have hlen := String.length_utf8EncodeChar c
    rw [utf8_cons, List.length_append] at h
    obtain ⟨fuel, rfl⟩ : ∃ n, fuel = n + 1 := ⟨fuel - 1, by omega⟩
    obtain ⟨b, bs, hb⟩ : ∃ b bs, utf8 (c :: s) = b :: bs := by
      rw [utf8_cons]
      exact List.exists_cons_of_length_pos (by rw [List.length_append]; omega)
    have hdrop : (utf8 (c :: s)).drop c.utf8Size = utf8 s := by
      rw [utf8_cons, List.drop_left' hlen]
    have hdec : decodeChar (utf8 (c :: s)) = some c := decodeChar_encode_append c (utf8 s)
    rw [hb] at hdrop hdec ⊢
    simp only [fromUtf8Go, hdec, hdrop, fromUtf8Go_utf8 s fuel (by omega)]

theorem fromUtf8Go_ok :
    ∀ (fuel : ℕ) (bs : List UInt8) (s : Str), fromUtf8Go fuel bs = .ok s → bs = utf8 s
  | fuel, [], s, h => by
    cases fuel <;> simp only [fromUtf8Go, Except.ok.injEq] at h <;> rw [← h] <;> rfl
  | 0, _ :: _, _, h => by simp [fromUtf8Go] at h
  | fuel + 1, b :: bs, s, h => by
    simp only [fromUtf8Go] at h
    split at h
    · simp at h
    · rename_i c hc
      split at h
      · rename_i t ht
        simp only [Except.ok.injEq] at h
        subst h
        obtain ⟨rest, hrest⟩ := decodeChar_eq_some hc
        have := fromUtf8Go_ok fuel _ t ht
        rw [hrest, List.drop_left' (String.length_utf8EncodeChar c)] at this
        rw [hrest, this, utf8_cons]
      · simp at h

@[simp] theorem fromUtf8_utf8 (s : Str) : fromUtf8 (utf8 s) = .ok s :=
  fromUtf8Go_utf8 s _ (Nat.le_refl _)

theorem fromUtf8_ok {bs : List UInt8} {s : Str} (h : fromUtf8 bs = .ok s) : bs = utf8 s :=
  fromUtf8Go_ok _ bs s h

section Ascii

theorem encodeChar_of_lt {c : Char} (h : c.toNat < 128) :
    String.utf8EncodeChar c = [UInt8.ofNat c.toNat] := by
  have h' : c.val.toNat ≤ 0x7f := by
    have : c.toNat = c.val.toNat := rfl
    omega
  simp only [String.utf8EncodeChar, h', if_true]
  rfl

theorem le_of_mem_encodeChar {c : Char} (h : 128 ≤ c.toNat) {b : UInt8}
    (hb : b ∈ String.utf8EncodeChar c) : 128 ≤ b.toNat := by
  have hv : c.toNat = c.val.toNat := rfl
  have h' : ¬ c.val.toNat ≤ 0x7f := by omega
  simp only [String.utf8EncodeChar, h', if_false] at hb
  split_ifs at hb <;> simp only [List.mem_cons, List.not_mem_nil, or_false] at hb
  · rcases hb with rfl | rfl <;> rw [UInt8.toNat_ofNat'] <;> omega
  · rcases hb with rfl | rfl | rfl <;> rw [UInt8.toNat_ofNat'] <;> omega
  · rcases hb with rfl | rfl | rfl | rfl <;> rw [UInt8.toNat_ofNat'] <;> omega

theorem toNat_ofNat_of_lt {n : ℕ} (h : n < 128) : (UInt8.ofNat n).toNat = n := by
  rw [UInt8.toNat_ofNat']
  omega

theorem mem_encodeChar_iff {a c : Char} (ha : a.toNat < 128) :
    UInt8.ofNat a.toNat ∈ String.utf8EncodeChar c ↔ a = c := by
  refine ⟨fun h => ?_, fun h => ?_⟩
  · rcases Nat.lt_or_ge c.toNat 128 with hc | hc
    · rw [encodeChar_of_lt hc, List.mem_singleton] at h
      have := congrArg UInt8.toNat h
      rw [toNat_ofNat_of_lt ha, toNat_ofNat_of_lt hc] at this
      exact Char.ext (UInt32.toNat_inj.1 this)
    · have := le_of_mem_encodeChar hc h
      rw [toNat_ofNat_of_lt ha] at this
      omega
  · rw [← h, encodeChar_of_lt ha]
    exact List.mem_singleton_self _

/-- The byte of an ASCII character occurs where the character does. -/
theorem mem_utf8_iff {a : Char} (ha : a.toNat < 128) :
    ∀ s : Str, UInt8.ofNat a.toNat ∈ utf8 s ↔ a ∈ s
  | [] => by simp
  | c :: s => by
    rw [utf8_cons, List.mem_append, List.mem_cons, mem_encodeChar_iff ha, mem_utf8_iff ha s]

end Ascii

end Wire
