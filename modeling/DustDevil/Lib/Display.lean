import DustDevil.Lib.AsyncRead
import DustDevil.Lib.Net

/-!
# Texts of values

`fmt::Display` and the implementations of the standard library.
-/

namespace Wire

/-- `fmt::Display`. -/
class Display (α : Type) where
  fmt : α → Str

open Display (fmt)

instance : Display Str := ⟨id⟩

instance : Display ℕ := ⟨Nat.toDigits 10⟩

instance : Display UInt8 := ⟨fun n => fmt n.toNat⟩

instance : Display UInt16 := ⟨fun n => fmt n.toNat⟩

instance : Display UInt32 := ⟨fun n => fmt n.toNat⟩

instance : Display IoError := ⟨IoError.message⟩

def joined (separator : Str) (parts : List Str) : Str := (parts.intersperse separator).flatten

instance : Display Ipv4Addr :=
  ⟨fun ip => joined ['.'] (ip.octets.map fmt)⟩

/-- The eight segments of an address. -/
def Ipv6Addr.segments (ip : Ipv6Addr) : List ℕ :=
  (List.range 8).map fun i => ip.bits.toNat / 2 ^ (16 * (7 - i)) % 2 ^ 16

/-- The first of the longest runs of zeros, as where it starts and its length; `current` is the one
that ends before the segment at `i`. -/
def longestZeros : ℕ → ℕ × ℕ → ℕ × ℕ → List ℕ → ℕ × ℕ
  | _, longest, _, [] => longest
  | i, longest, current, segment :: segments =>
    if segment = 0 then
      let current := if current.2 = 0 then (i, 1) else (current.1, current.2 + 1)
      longestZeros (i + 1) (if longest.2 < current.2 then current else longest) current segments
    else longestZeros (i + 1) longest (0, 0) segments

def fmtSubslice (segments : List ℕ) : Str := joined [':'] (segments.map (Nat.toDigits 16))

instance : Display Ipv6Addr where
  fmt ip :=
    if ip.bits.toNat / 2 ^ 32 = 0xFFFF then
      "::ffff:".toList ++ fmt (⟨ip.bits.setWidth 32⟩ : Ipv4Addr)
    else
      let (start, len) := longestZeros 0 (0, 0) (0, 0) ip.segments
      if 1 < len then
        fmtSubslice (ip.segments.take start) ++ "::".toList
          ++ fmtSubslice (ip.segments.drop (start + len))
      else fmtSubslice ip.segments

instance : Display SocketAddr where
  fmt
    | .v4 addr => fmt addr.ip ++ ":".toList ++ fmt addr.port
    | .v6 addr =>
      "[".toList ++ fmt addr.ip
        ++ (if addr.scopeId = 0 then [] else "%".toList ++ fmt addr.scopeId)
        ++ "]:".toList ++ fmt addr.port

end Wire
