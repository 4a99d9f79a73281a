import DustDevil.Proofs.Sandstorm
import DustDevil.Proofs.Serialize

/-!
# The handshake on the wire

A handshake reads back as itself. A status does unless it is the unspecified error, which is written
as a byte that no status is read from (`handshake_codec_iff`).
-/

namespace DustDevil

open Wire ByteRead ByteWrite

theorem carries_handshake {username password : Str} (hu : (utf8 username).length ≤ 255)
    (hp : (utf8 password).length ≤ 255) :
    Carries (write (SandstormHandshakeRef.mk username password))
      SandstormHandshake.readWithVersionCheck ⟨username, password⟩ := by
  refine ((carries_u8 1).mapErr _).bind ?_
  rw [if_neg (by decide)]
  exact ((carries_smallString hu).mapErr _).bind (((carries_smallString hp).mapErr _).map _)

theorem carries_handshakeStatus {status : SandstormHandshakeStatus}
    (h : status ≠ .unspecifiedError) :
    Carries (write status) read status :=
  (carries_u8 _).bind_pure (by cases status <;> first | rfl | exact absurd rfl h)

theorem handshakeStatus_read_unspecifiedError (rest : List UInt8) (e : Ending) :
    (ByteRead.read : Proc Flat IoError SandstormHandshakeStatus) ⟨0xFF :: rest, e⟩
      = (.error (.err (invalidData "Invalid SandstormHandshakeStatus type byte")), ⟨rest, e⟩) := by
  show (readU8 >>= _) _ = _
  rw [Proc.bind_ok (readU8_cons _)]
  rfl

theorem not_roundTrips_unspecifiedError (rest : List UInt8) :
    ¬ RoundTrips (write SandstormHandshakeStatus.unspecifiedError) read
      SandstormHandshakeStatus.unspecifiedError rest := by
  rintro ⟨bytes, hwrite, hread⟩
  obtain rfl : bytes = [0xFF] := by
    have := hwrite.symm
    simpa [write, writeU8, writeAll, SandstormHandshakeStatus.intoU8] using this
  obtain ⟨r', hr', -⟩ := hread (⟨[0xFF] ++ rest, .eof⟩ : Flat) rfl
  have := hr'.symm.trans (handshakeStatus_read_unspecifiedError rest .eof)
  simp at this

/-- The handshake, from either of its types, and the status both read back, exactly if the status is
not the unspecified error. -/
theorem handshake_codec_iff {username password : Str} (hu : (utf8 username).length ≤ 255)
    (hp : (utf8 password).length ≤ 255) (status : SandstormHandshakeStatus) (rest : List UInt8) :
    (RoundTrips (write (SandstormHandshake.mk username password))
          SandstormHandshake.readWithVersionCheck ⟨username, password⟩ rest
        ∧ RoundTrips (write (SandstormHandshakeRef.mk username password))
          SandstormHandshake.readWithVersionCheck ⟨username, password⟩ rest
        ∧ RoundTrips (write status) read status rest)
      ↔ status ≠ .unspecifiedError := by
  constructor
  · rintro ⟨-, -, h⟩ rfl
    exact not_roundTrips_unspecifiedError rest h
  · intro h
    have hhandshake :=
      (carries_handshake hu hp).roundTrips (fun {_} _ => readWithVersionCheck_refines) rest
    exact ⟨hhandshake, hhandshake, (carries_handshakeStatus h).roundTrips ByteRead.refines rest⟩

theorem handshake_codec_iff_admin :
    (RoundTrips (write (SandstormHandshake.mk ['a'] ['b']))
          SandstormHandshake.readWithVersionCheck ⟨['a'], ['b']⟩ [0x2A]
        ∧ RoundTrips (write (SandstormHandshakeRef.mk ['a'] ['b']))
          SandstormHandshake.readWithVersionCheck ⟨['a'], ['b']⟩ [0x2A]
        ∧ RoundTrips (write SandstormHandshakeStatus.permissionDenied) read
          SandstormHandshakeStatus.permissionDenied [0x2A])
      ↔ SandstormHandshakeStatus.permissionDenied ≠ .unspecifiedError :=
  handshake_codec_iff (by decide) (by decide) _ _

/-- The byte 0xFF of the unspecified error, and nothing after it. -/
theorem not_handshake_codec_unspecifiedError :
    (write SandstormHandshakeStatus.unspecifiedError : Proc Sink IoError Unit) []
        = (.ok (), [0xFF])
      ∧ ¬ RoundTrips (write SandstormHandshakeStatus.unspecifiedError) read
        SandstormHandshakeStatus.unspecifiedError [] :=
  ⟨rfl, not_roundTrips_unspecifiedError []⟩

end DustDevil
