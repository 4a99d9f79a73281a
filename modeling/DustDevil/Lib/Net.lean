import Mathlib.Algebra.Group.Nat.Defs
import Mathlib.Data.Nat.Notation

/-!
# Internet addresses

The address types of `std::net`. An address is its bits, so every value of these types is an
address; `octets` writes them out and `ofOctets` reads them, the most significant first.
-/

namespace Wire

/-- The last `k` base-256 digits of `n`, the most significant first. -/
def toBigEndian : ℕ → ℕ → List UInt8
  | 0, _ => []
  | k + 1, n => toBigEndian k (n / 256) ++ [UInt8.ofNat n]

@[simp] theorem length_toBigEndian : ∀ k n : ℕ, (toBigEndian k n).length = k
  | 0, _ => rfl
  | k + 1, n => by simp [toBigEndian, length_toBigEndian k]

@[simp] theorem toBigEndian_one (b : UInt8) : toBigEndian 1 b.toNat = [b] := by
  simp [toBigEndian]

def ofBigEndian (bs : List UInt8) : ℕ := bs.foldl (fun acc b => acc * 256 + b.toNat) 0

theorem ofBigEndian_toBigEndian : ∀ k n : ℕ, n < 256 ^ k → ofBigEndian (toBigEndian k n) = n
  | 0, n, h => by
    have : n = 0 := by simpa using h
    rw [this]
    rfl
  | k + 1, n, h => by
    have hdiv : n / 256 < 256 ^ k := Nat.div_lt_of_lt_mul (by rwa [Nat.pow_succ'] at h)
    have ih := ofBigEndian_toBigEndian k (n / 256) hdiv
    unfold ofBigEndian at ih ⊢
    rw [toBigEndian, List.foldl_append, ih, List.foldl_cons, List.foldl_nil,
      UInt8.toNat_ofNat']
    omega

structure Ipv4Addr where
  bits : BitVec 32
  deriving DecidableEq, Repr

structure Ipv6Addr where
  bits : BitVec 128
  deriving DecidableEq, Repr

def Ipv4Addr.ofOctets (octets : List UInt8) : Ipv4Addr := ⟨BitVec.ofNat 32 (ofBigEndian octets)⟩

def Ipv4Addr.octets (ip : Ipv4Addr) : List UInt8 := toBigEndian 4 ip.bits.toNat

def Ipv6Addr.ofOctets (octets : List UInt8) : Ipv6Addr := ⟨BitVec.ofNat 128 (ofBigEndian octets)⟩

def Ipv6Addr.octets (ip : Ipv6Addr) : List UInt8 := toBigEndian 16 ip.bits.toNat

@[simp] theorem Ipv4Addr.ofOctets_octets (ip : Ipv4Addr) : ofOctets ip.octets = ip := by
  have h : ofBigEndian (toBigEndian 4 ip.bits.toNat) = ip.bits.toNat :=
    ofBigEndian_toBigEndian 4 _ ip.bits.isLt
  unfold ofOctets octets
  rw [h, BitVec.ofNat_toNat, BitVec.setWidth_eq]

@[simp] theorem Ipv6Addr.ofOctets_octets (ip : Ipv6Addr) : ofOctets ip.octets = ip := by
  have h : ofBigEndian (toBigEndian 16 ip.bits.toNat) = ip.bits.toNat :=
    ofBigEndian_toBigEndian 16 _ ip.bits.isLt
  unfold ofOctets octets
  rw [h, BitVec.ofNat_toNat, BitVec.setWidth_eq]

structure SocketAddrV4 where
  ip : Ipv4Addr
  port : UInt16
  deriving DecidableEq, Repr

structure SocketAddrV6 where
  ip : Ipv6Addr
  port : UInt16
  flowinfo : UInt32
  scopeId : UInt32
  deriving DecidableEq, Repr

inductive SocketAddr where
  | v4 (addr : SocketAddrV4)
  | v6 (addr : SocketAddrV6)
  deriving DecidableEq, Repr

/-- `SocketAddr::port`. -/
def SocketAddr.port : SocketAddr → UInt16
  | .v4 addr => addr.port
  | .v6 addr => addr.port

/-- `SocketAddr::set_port`. -/
def SocketAddr.setPort (port : UInt16) : SocketAddr → SocketAddr
  | .v4 addr => .v4 { addr with port := port }
  | .v6 addr => .v6 { addr with port := port }

end Wire
