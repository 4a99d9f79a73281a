import Mathlib.Data.List.Forall2
import DustDevil.Core.Sandstorm

/-!
# What is written reads back

One lemma for each type of `serialize.rs`: its bytes, followed by anything, read back as the value
and leave what follows. The strings and the lists that are too long for their length prefix are not
written; an `io::Error` keeps its message and the kinds that the codec has a number for.
-/

namespace DustDevil

open Wire ByteRead ByteWrite

section Basic

theorem carries_unit : Carries (write ()) read () := .pure ()

theorem carries_bool (b : Bool) : Carries (write b) read b := by
  cases b with
  | false => exact (carries_u8 0).bind_pure rfl
  | true => exact (carries_u8 1).bind_pure rfl

theorem carries_nat32 {n : ℕ} (h : n < 2 ^ 32) :
    Carries (write (UInt32.ofNat n)) readNat32 n := by
  have hn : (UInt32.ofNat n).toNat = n := by
    rw [UInt32.toNat_ofNat']
    exact Nat.mod_eq_of_lt h
  exact (carries_u32 _).bind_pure (by rw [hn])

theorem carries_nat64 {n : ℕ} (h : n < 2 ^ 64) :
    Carries (write (UInt64.ofNat n)) readNat64 n := by
  have hn : (UInt64.ofNat n).toNat = n := by
    rw [UInt64.toNat_ofNat']
    exact Nat.mod_eq_of_lt h
  exact (carries_u64 _).bind_pure (by rw [hn])

theorem carries_ipv4 (ip : Ipv4Addr) : Carries (write ip) read ip :=
  (carries_writeAll (length_toBigEndian 4 _)).bind_pure (by
    show pure (Ipv4Addr.ofOctets ip.octets) = _
    rw [Ipv4Addr.ofOctets_octets])

theorem carries_ipv6 (ip : Ipv6Addr) : Carries (write ip) read ip :=
  (carries_writeAll (length_toBigEndian 16 _)).bind_pure (by
    show pure (Ipv6Addr.ofOctets ip.octets) = _
    rw [Ipv6Addr.ofOctets_octets])

theorem carries_socketAddrV4 (addr : SocketAddrV4) : Carries (write addr) read addr :=
  (carries_writeAll (length_toBigEndian 4 _)).bind ((carries_u16 _).bind_pure (by
    show pure (SocketAddrV4.mk (.ofOctets addr.ip.octets) addr.port) = _
    rw [Ipv4Addr.ofOctets_octets]))

theorem carries_socketAddrV6 (addr : SocketAddrV6) : Carries (write addr) read addr :=
  (carries_writeAll (length_toBigEndian 16 _)).bind ((carries_u16 _).bind ((carries_u32 _).bind
    ((carries_u32 _).bind_pure (by
      show pure (SocketAddrV6.mk (.ofOctets addr.ip.octets) addr.port _ _) = _
      rw [Ipv6Addr.ofOctets_octets]))))

theorem carries_socketAddr (addr : SocketAddr) : Carries (write addr) read addr := by
  cases addr with
  | v4 addr => exact (carries_u8 4).bind ((carries_socketAddrV4 addr).map SocketAddr.v4)
  | v6 addr => exact (carries_u8 6).bind ((carries_socketAddrV6 addr).map SocketAddr.v6)

theorem carries_userRole (role : UserRole) : Carries (write role) read role :=
  (carries_u8 _).bind_pure (by cases role <;> rfl)

theorem carries_authMethod (authMethod : AuthMethod) : Carries (write authMethod) read authMethod :=
  (carries_u8 _).bind_pure (by cases authMethod <;> rfl)

end Basic

/-! ## Characters and strings -/

section Text

/-- No character's bytes are the beginning of another's. -/
theorem fromUtf8_error_of_append {c : Char} {buf tail : List UInt8}
    (h : buf ++ tail = String.utf8EncodeChar c) (hbuf : buf ≠ []) (htail : tail ≠ []) :
    ∃ n, fromUtf8 buf = .error n := by
  rcases hs : fromUtf8 buf with n | s
  · exact ⟨n, rfl⟩
  have hutf8 := fromUtf8_ok hs
  rcases s with _ | ⟨d, s⟩
  · exact absurd hutf8 hbuf
  have hd := decodeChar_encode_append d (utf8 s ++ tail)
  have hc := decodeChar_encode_append c []
  rw [← List.append_assoc, ← utf8_cons, ← hutf8, h] at hd
  rw [List.append_nil, hd, Option.some.injEq] at hc
  have hlen := congrArg List.length h
  rw [hutf8, hc, utf8_cons, List.length_append, List.length_append] at hlen
  have := List.length_pos_iff.2 htail
  omega

theorem readChar_reads {c : Char} :
    ∀ (fuel : ℕ) (tail buf : List UInt8), buf ++ tail = String.utf8EncodeChar c → tail ≠ [] →
      tail.length ≤ fuel → Reads (readChar fuel buf) tail c
  | 0, tail, _, _, htail, hlen => absurd (List.length_eq_zero_iff.1 (Nat.le_zero.1 hlen)) htail
  | fuel + 1, [], _, _, htail, _ => absurd rfl htail
  | fuel + 1, b :: tail, buf, h, _, hlen => by
    unfold readChar
    refine Reads.bind (readExact_reads (rfl : [b].length = 1)) ?_
    rcases tail with _ | ⟨b', tail⟩
    · have hc : fromUtf8 (buf ++ [b]) = .ok [c] := by
        rw [h, ← fromUtf8_utf8 [c], utf8_cons, utf8_nil, List.append_nil]
      simp only [hc]
      exact Reads.pure c
    · have h' : (buf ++ [b]) ++ b' :: tail = String.utf8EncodeChar c := by
        rw [← h, List.append_assoc, List.singleton_append]
      obtain ⟨n, hn⟩ := fromUtf8_error_of_append h' (by simp) (by simp)
      simp only [hn]
      rw [List.length_cons] at hlen
      exact readChar_reads fuel _ _ h' (by simp) (by omega)

theorem carries_char (c : Char) : Carries (write c) read c := by
  refine ⟨_, writeAll_writes _, readChar_reads 4 _ [] rfl ?_ ?_⟩
  · exact List.length_pos_iff.1 (length_encodeChar_pos c)
  · rw [String.length_utf8EncodeChar]
    exact c.utf8Size_le_four

/-- What begins with no character's bytes is no character, however much is read of it. -/
theorem readChar_error {e : Ending} :
    ∀ (fuel : ℕ) (buf bytes : List UInt8),
      (∀ c, ¬ String.utf8EncodeChar c <+: buf ++ bytes) →
        readChar fuel buf (⟨bytes, e⟩ : Flat)
          = (.error (if fuel ≤ bytes.length then .err (invalidData "char is not valid UTF-8")
              else e.short earlyEof), ⟨bytes.drop fuel, e⟩)
  | 0, _, _, _ => rfl
  | fuel + 1, buf, [], _ => by
    rw [readChar, Proc.bind_error (fill_flat _ le_rfl _)]
    rfl
  | fuel + 1, buf, b :: bytes, h => by
    have hread : readExact 1 (⟨[b] ++ bytes, e⟩ : Flat) = (.ok [b], ⟨bytes, e⟩) :=
      readExact_append rfl
    rw [List.singleton_append] at hread
    have hsplit : (buf ++ [b]) ++ bytes = buf ++ b :: bytes := (List.append_cons ..).symm
    rw [readChar, Proc.bind_ok hread]
    rcases hs : fromUtf8 (buf ++ [b]) with n | s
    · simp only [readChar_error fuel (buf ++ [b]) bytes (by rwa [hsplit]), List.length_cons,
        Nat.add_le_add_iff_right, List.drop_succ_cons]
    · have hutf8 := fromUtf8_ok hs
      cases s with
      | nil => simp at hutf8
      | cons c s =>
        refine absurd ⟨utf8 s ++ bytes, ?_⟩ (h c)
        rw [← hsplit, hutf8, utf8_cons, List.append_assoc]

/-- On every reader a character is read from its own bytes, which are as many as are read, and from
nothing else: what begins with no character's bytes is refused after four bytes, or after all that
there are. -/
theorem read_char {ρ : Type} [AsyncRead ρ] (r : ρ) :
    (∀ c rest, unread r = String.utf8EncodeChar c ++ rest →
        ∃ r', (read : Proc ρ IoError Char) r = (.ok c, r') ∧ unread r' = rest
          ∧ ending r' = ending r)
      ∧ (∀ c r', (read : Proc ρ IoError Char) r = (.ok c, r') →
        unread r = String.utf8EncodeChar c ++ unread r')
      ∧ ((∀ c, ¬ String.utf8EncodeChar c <+: unread r) →
        ∃ r', (read : Proc ρ IoError Char) r
            = (.error (if 4 ≤ (unread r).length then
                .err (invalidData "char is not valid UTF-8") else (ending r).short earlyEof), r')
          ∧ unread r' = (unread r).drop 4)
      ∧ (∀ (c : Char) rest, RoundTrips (write c) read c rest)
      ∧ ∀ c, 1 ≤ (String.utf8EncodeChar c).length ∧ (String.utf8EncodeChar c).length ≤ 4 := by
  have hreads (c : Char) : Reads (read : Proc Flat IoError Char) (String.utf8EncodeChar c) c := by
    refine readChar_reads 4 _ [] rfl (List.length_pos_iff.1 (length_encodeChar_pos c)) ?_
    rw [String.length_utf8EncodeChar]
    exact c.utf8Size_le_four
  have hrefused (h : ∀ c, ¬ String.utf8EncodeChar c <+: unread r) :=
    (ByteRead.refines (α := Char) (ρ := ρ)).run_eq (r := r)
      (readChar_error (e := ending r) 4 [] (unread r) h)
  refine ⟨fun c rest hr => (hreads c).run ByteRead.refines hr, fun c r' hread => ?_,
    fun h => ?_, fun c rest => (carries_char c).roundTrips ByteRead.refines rest, fun c => ?_⟩
  · by_cases h : ∃ d, String.utf8EncodeChar d <+: unread r
    · obtain ⟨d, rest, hr⟩ := h
      obtain ⟨r'', hread', hrest, -⟩ := (hreads d).run ByteRead.refines hr.symm
      rw [hread, Prod.mk.injEq, Except.ok.injEq] at hread'
      obtain ⟨rfl, rfl⟩ := hread'
      rw [hrest, hr]
    · obtain ⟨r'', hread', -⟩ := hrefused (not_exists.1 h)
      rw [hread] at hread'
      cases hread'
  · obtain ⟨r', hread, hrest, -⟩ := hrefused h
    exact ⟨r', hread, hrest⟩
  · rw [String.length_utf8EncodeChar]
    exact ⟨c.utf8Size_pos, c.utf8Size_le_four⟩

theorem carries_str {s : Str} (h : (utf8 s).length ≤ 65535) : Carries (write s) read s := by
  have hlen : (utf8 s).length = (UInt16.ofNat (utf8 s).length).toNat := by
    rw [UInt16.toNat_ofNat']
    omega
  show Carries (if _ then _ else _) _ _
  rw [if_neg (by omega)]
  exact (carries_u16 _).bind ((carries_writeAll hlen).bind_pure (intoString_utf8 _ s))

theorem carries_smallString {s : Str} (h : (utf8 s).length ≤ 255) :
    Carries (write (SmallWriteString.mk s)) read (SmallReadString.mk s) := by
  have hlen : (utf8 s).length = (UInt8.ofNat (utf8 s).length).toNat := by
    rw [UInt8.toNat_ofNat']
    omega
  show Carries (if _ then _ else _) _ _
  rw [if_neg (by dsimp only; omega)]
  refine (carries_u8 _).bind ((carries_writeAll hlen).bind_pure ?_)
  rw [intoString_utf8]
  rfl

end Text

/-! ## Values made of others -/

section Compound

variable {α β γ δ : Type} [ByteWrite α] [ByteRead β] [ByteWrite γ] [ByteRead δ]

theorem carries_none : Carries (write (none : Option α)) read (none : Option β) :=
  (carries_u8 0).bind_pure rfl

theorem carries_some {a : α} {b : β} (h : Carries (write a) read b) :
    Carries (write (some a)) read (some b) :=
  (carries_u8 1).bind (h.map some)

theorem carries_ok {a : α} {b : β} (h : Carries (write a) read b) :
    Carries (write (.ok a : Except γ α)) read (.ok b : Except δ β) :=
  (carries_u8 1).bind (h.map Except.ok)

theorem carries_error {e : γ} {e' : δ} (h : Carries (write e) read e') :
    Carries (write (.error e : Except γ α)) read (.error e' : Except δ β) :=
  (carries_u8 0).bind (h.map Except.error)

theorem carries_pair {a : α} {b : β} {c : γ} {d : δ} (h : Carries (write a) read b)
    (h' : Carries (write c) read d) : Carries (write (a, c)) read (b, d) :=
  h.bind (h'.map (Prod.mk b))

theorem carries_elements {as : List α} {bs : List β}
    (h : List.Forall₂ (fun a b => Carries (write a) read b) as bs) :
    Carries (writeElements as) (readElements as.length) bs := by
  induction h with
  | nil => exact Carries.pure []
  | cons hab _ ih => exact hab.bind (ih.map (List.cons _))

theorem carries_vec {as : List α} {bs : List β}
    (h : List.Forall₂ (fun a b => Carries (write a) read b) as bs) (hlen : as.length ≤ 65535) :
    Carries (write (Vec.mk as)) read (Vec.mk bs) := by
  have hnat : (UInt16.ofNat as.length).toNat = as.length := by
    rw [UInt16.toNat_ofNat']
    omega
  have helements := carries_elements h
  rw [← hnat] at helements
  show Carries (if _ then _ else _) _ _
  rw [if_neg (by dsimp only; omega)]
  exact (carries_u16 _).bind (helements.map Vec.mk)

theorem carries_smallList {as : List α} {bs : List β}
    (h : List.Forall₂ (fun a b => Carries (write a) read b) as bs) (hlen : as.length ≤ 255) :
    Carries (write (SmallWriteList.mk as)) read (SmallReadList.mk bs) := by
  have hnat : (UInt8.ofNat as.length).toNat = as.length := by
    rw [UInt8.toNat_ofNat']
    omega
  have helements := carries_elements h
  rw [← hnat] at helements
  show Carries (if _ then _ else _) _ _
  rw [if_neg (by dsimp only; omega)]
  exact (carries_u8 _).bind (helements.map SmallReadList.mk)

end Compound

/-! ## Errors -/

section Errors

/-- The kinds that the codec has a number for. -/
def tabledKinds : List ErrorKind :=
  [.notFound, .permissionDenied, .connectionRefused, .connectionReset, .connectionAborted,
    .notConnected, .addrInUse, .addrNotAvailable, .brokenPipe, .alreadyExists, .wouldBlock,
    .invalidInput, .invalidData, .timedOut, .writeZero, .interrupted, .unsupported, .unexpectedEof,
    .outOfMemory]

/-- The error as the codec stores it: of a kind it has no number for, it is another error. -/
def ioErrorStored (e : IoError) : IoError :=
  ⟨if e.kind ∈ tabledKinds then e.kind else .other, e.message⟩

theorem kindOfId_idOfKind (kind : ErrorKind) :
    kindOfId (idOfKind kind) = if kind ∈ tabledKinds then kind else .other := by
  cases kind <;> rfl

theorem carries_ioError {e : IoError} (h : (utf8 e.message).length ≤ 65535) :
    Carries (write e) read (ioErrorStored e) :=
  (carries_u8 _).bind ((carries_str h).bind_pure (by rw [kindOfId_idOfKind]; rfl))

namespace UsersLoadingError

/-- The numbers are those of their source types, and the strings fit their length prefix. -/
def Fits : UsersLoadingError → Prop
  | io e => (utf8 e.message).length ≤ 65535
  | invalidUtf8 lineNumber byteAt | lineTooLong lineNumber byteAt =>
    lineNumber < 2 ^ 32 ∧ byteAt < 2 ^ 64
  | expectedRoleCharGotEOF lineNumber charAt | invalidRoleChar lineNumber charAt _
  | expectedColonGotEOF lineNumber charAt | emptyUsername lineNumber charAt
  | usernameTooLong lineNumber charAt | emptyPassword lineNumber charAt
  | passwordTooLong lineNumber charAt => lineNumber < 2 ^ 32 ∧ charAt < 2 ^ 32
  | noUsers => True

def stored : UsersLoadingError → UsersLoadingError
  | io e => io (ioErrorStored e)
  | e => e

end UsersLoadingError

theorem carries_usersLoadingError {e : UsersLoadingError} (h : e.Fits) :
    Carries (write e) read e.stored := by
  cases e with
  | io e => exact (carries_u8 1).bind ((carries_ioError h).map _)
  | invalidUtf8 lineNumber byteAt =>
    exact (carries_u8 2).bind ((carries_nat32 h.1).bind ((carries_nat64 h.2).map _))
  | lineTooLong lineNumber byteAt =>
    exact (carries_u8 3).bind ((carries_nat32 h.1).bind ((carries_nat64 h.2).map _))
  | invalidRoleChar lineNumber charAt char =>
    exact (carries_u8 5).bind ((carries_nat32 h.1).bind ((carries_nat32 h.2).bind
      ((carries_char char).map _)))
  | expectedRoleCharGotEOF | expectedColonGotEOF | emptyUsername | usernameTooLong | emptyPassword
  | passwordTooLong =>
    exact (carries_u8 _).bind ((carries_nat32 h.1).bind ((carries_nat32 h.2).map _))
  | noUsers => exact (carries_u8 11).bind_pure rfl

end Errors

section Socks5

namespace SocksRequest

def Fits (request : SocksRequest) : Prop :=
  ∀ domainname, request.destination = .domainname domainname → (utf8 domainname).length ≤ 255

end SocksRequest

theorem carries_socksRequest {request : SocksRequest} (h : request.Fits) :
    Carries (write request) read request := by
  obtain ⟨destination, port⟩ := request
  refine Carries.bind ?_ ((carries_u16 port).map (SocksRequest.mk destination))
  cases destination with
  | ipv4 v4 => exact (carries_u8 4).bind ((carries_ipv4 v4).map _)
  | ipv6 v6 => exact (carries_u8 6).bind ((carries_ipv6 v6).map _)
  | domainname domainname =>
    exact (carries_u8 200).bind ((carries_smallString (h domainname rfl)).map _)

end Socks5

theorem command_reads (command : SandstormCommandType) :
    Reads ByteRead.read [command.intoU8] command := by
  have horInvalid : Reads (orInvalid "Invalid SandstormCommandType type byte"
      (SandstormCommandType.fromU8 command.intoU8)) [] command := by
    rw [SandstormCommandType.fromU8_intoU8]
    exact Reads.pure command
  exact (readU8_reads command.intoU8).bind horInvalid

theorem command_end : ∃ e, (ByteRead.read : Proc Flat IoError SandstormCommandType) ⟨[], .eof⟩
    = (.error (.err e), ⟨[], .eof⟩) ∧ e.kind = .unexpectedEof :=
  ⟨unexpectedEof, rfl, rfl⟩

end DustDevil
