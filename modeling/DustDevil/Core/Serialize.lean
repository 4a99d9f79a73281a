import DustDevil.Lib.Codec
import DustDevil.Core.Users
import DustDevil.Core.Socks5

/-!
# Values on the wire

The `ByteRead` and `ByteWrite` traits of `dust_devil_core::serialize` and their implementations.
What a type reads depends on the bytes alone, never on how they arrive, and every instance carries
the proof. A string is a list of characters here, so a list on the wire is a type of its own.
-/

namespace DustDevil

open Wire

/-- Deserializes a type from raw bytes. -/
class ByteRead (α : Type) where
  read : {ρ : Type} → [AsyncRead ρ] → Proc ρ IoError α
  refines : ∀ {ρ : Type} [AsyncRead ρ], Refines (read : Proc ρ IoError α) read

/-- Serializes a type into raw bytes. -/
class ByteWrite (α : Type) where
  write : α → Proc Sink IoError Unit

/-- `Error::new(ErrorKind::InvalidData, message)`. -/
def invalidData (message : String) : IoError := ⟨.invalidData, message.toList⟩

/-- `match T::from_u8(value) { Some(v) => Ok(v), None => Err(..) }`. -/
def orInvalid {ρ α : Type} (message : String) : Option α → Proc ρ IoError α
  | some a => pure a
  | none => .throw (invalidData message)

def intoString {ρ : Type} (message : String) (bs : List UInt8) : Proc ρ IoError Str :=
  match fromUtf8 bs with
  | .ok s => pure s
  | .error _ => .throw (invalidData message)

section Refines

variable {ρ α : Type} [AsyncRead ρ]

theorem orInvalid_refines (message : String) (a : Option α) :
    Refines (orInvalid message a : Proc ρ _ _) (orInvalid message a) := by
  cases a with
  | none => exact .throw _
  | some a => exact .pure a

theorem intoString_refines (message : String) (bs : List UInt8) :
    Refines (intoString message bs : Proc ρ _ _) (intoString message bs) := by
  unfold intoString
  split
  · exact .pure _
  · exact .throw _

/-- The loop of `char::read`, which has read `buf` and may read `fuel` more bytes. -/
def readChar : ℕ → List UInt8 → Proc ρ IoError Char
  | 0, _ => .throw (invalidData "char is not valid UTF-8")
  | fuel + 1, buf => do
    let bs ← readExact 1
    match fromUtf8 (buf ++ bs) with
    | .ok (c :: _) => pure c
    | .ok [] => .stop .panic
    | .error _ => readChar fuel (buf ++ bs)

theorem readChar_refines :
    ∀ (fuel : ℕ) (buf : List UInt8), Refines (readChar fuel buf : Proc ρ _ _) (readChar fuel buf)
  | 0, _ => .throw _
  | fuel + 1, buf => by
    refine (readExact_refines 1).bind fun bs => ?_
    rcases fromUtf8 (buf ++ bs) with _ | _ | ⟨c, _⟩
    · exact readChar_refines fuel _
    · exact fun _ => ⟨rfl, rfl⟩
    · exact .pure c

/-- The elements of a list whose length has been read. -/
def readElements [ByteRead α] : ℕ → Proc ρ IoError (List α)
  | 0 => pure []
  | n + 1 => do
    let a ← ByteRead.read
    let as ← readElements n
    pure (a :: as)

theorem readElements_refines [ByteRead α] :
    ∀ n : ℕ, Refines (readElements n : Proc ρ _ (List α)) (readElements n)
  | 0 => .pure _
  | n + 1 => ByteRead.refines.bind fun _ => (readElements_refines n).bind fun _ => .pure _

end Refines

section Instances

instance : ByteRead Unit where
  read := pure ()
  refines := .pure _

instance : ByteRead UInt8 where
  read := readU8
  refines := readU8_refines

instance : ByteRead UInt16 where
  read := readU16
  refines := readU16_refines

instance : ByteRead UInt32 where
  read := readU32
  refines := readU32_refines

instance : ByteRead UInt64 where
  read := readU64
  refines := readU64_refines

instance : ByteRead Int64 where
  read := readI64
  refines := readI64_refines

instance : ByteRead Char where
  read := readChar 4 []
  refines := readChar_refines 4 []

instance : ByteRead Ipv4Addr where
  read := do
    let octets ← readExact 4
    pure (.ofOctets octets)
  refines := (readExact_refines _).bind fun _ => .pure _

instance : ByteRead Ipv6Addr where
  read := do
    let octets ← readExact 16
    pure (.ofOctets octets)
  refines := (readExact_refines _).bind fun _ => .pure _

instance : ByteRead Bool where
  read := do
    let b ← readU8
    pure (b ≠ 0)
  refines := readU8_refines.bind fun _ => .pure _

instance : ByteRead SocketAddrV4 where
  read := do
    let octets ← readExact 4
    let port ← readU16
    pure ⟨.ofOctets octets, port⟩
  refines := (readExact_refines _).bind fun _ => readU16_refines.bind fun _ => .pure _

instance : ByteRead SocketAddrV6 where
  read := do
    let octets ← readExact 16
    let port ← readU16
    let flowinfo ← readU32
    let scopeId ← readU32
    pure ⟨.ofOctets octets, port, flowinfo, scopeId⟩
  refines := (readExact_refines _).bind fun _ => readU16_refines.bind fun _ =>
    readU32_refines.bind fun _ => readU32_refines.bind fun _ => .pure _

instance : ByteRead SocketAddr where
  read := do
    let addrType ← readU8
    if addrType = 4 then do
      let v4 ← ByteRead.read
      pure (.v4 v4)
    else if addrType = 6 then do
      let v6 ← ByteRead.read
      pure (.v6 v6)
    else .throw (invalidData ("Invalid socket address type, " ++ toString addrType))
  refines := readU8_refines.bind fun _ =>
    .ite (ByteRead.refines.bind fun _ => .pure _)
      (.ite (ByteRead.refines.bind fun _ => .pure _) (.throw _))

instance {α : Type} [ByteRead α] : ByteRead (Option α) where
  read := do
    let hasValue ← readU8
    if hasValue = 0 then pure none
    else do
      let a ← ByteRead.read
      pure (some a)
  refines := readU8_refines.bind fun _ =>
    .ite (.pure _) (ByteRead.refines.bind fun _ => .pure _)

instance {ε α : Type} [ByteRead α] [ByteRead ε] : ByteRead (Except ε α) where
  read := do
    let isOk ← readU8
    if isOk = 0 then do
      let e ← ByteRead.read
      pure (.error e)
    else do
      let a ← ByteRead.read
      pure (.ok a)
  refines := readU8_refines.bind fun _ =>
    .ite (ByteRead.refines.bind fun _ => .pure _) (ByteRead.refines.bind fun _ => .pure _)

instance {α β : Type} [ByteRead α] [ByteRead β] : ByteRead (α × β) where
  read := do
    let a ← ByteRead.read
    let b ← ByteRead.read
    pure (a, b)
  refines := ByteRead.refines.bind fun _ => ByteRead.refines.bind fun _ => .pure _

instance : ByteRead Str where
  read := do
    let len ← readU16
    let bs ← readExact len.toNat
    intoString "String is not valid UTF-8" bs
  refines := readU16_refines.bind fun _ => (readExact_refines _).bind fun _ =>
    intoString_refines _ _

def kindOfId (kindId : UInt8) : ErrorKind :=
  match kindId with
  | 1 => .notFound
  | 2 => .permissionDenied
  | 3 => .connectionRefused
  | 4 => .connectionReset
  | 5 => .connectionAborted
  | 6 => .notConnected
  | 7 => .addrInUse
  | 8 => .addrNotAvailable
  | 9 => .brokenPipe
  | 10 => .alreadyExists
  | 11 => .wouldBlock
  | 12 => .invalidInput
  | 13 => .invalidData
  | 14 => .timedOut
  | 15 => .writeZero
  | 16 => .interrupted
  | 17 => .unsupported
  | 18 => .unexpectedEof
  | 19 => .outOfMemory
  | _ => .other

instance : ByteRead IoError where
  read := do
    let kindId ← readU8
    let message ← ByteRead.read
    pure ⟨kindOfId kindId, message⟩
  refines := readU8_refines.bind fun _ => ByteRead.refines.bind fun _ => .pure _

instance : ByteRead UserRole where
  read := do
    let b ← readU8
    orInvalid "Invalid UserRole type byte" (UserRole.fromU8 b)
  refines := readU8_refines.bind fun _ => orInvalid_refines _ _

instance : ByteRead AuthMethod where
  read := do
    let b ← readU8
    orInvalid "Invalid AuthMethod type byte" (AuthMethod.fromU8 b)
  refines := readU8_refines.bind fun _ => orInvalid_refines _ _

/-- A string whose length is written in one byte, so at most 255 bytes long. -/
structure SmallReadString where
  val : Str
  deriving DecidableEq, Repr

instance : ByteRead SmallReadString where
  read := do
    let len ← readU8
    let bs ← readExact len.toNat
    let s ← intoString "Small string is not valid UTF-8" bs
    pure ⟨s⟩
  refines := readU8_refines.bind fun _ => (readExact_refines _).bind fun _ =>
    (intoString_refines _ _).bind fun _ => .pure _

/-- `u32::read`, for what is a number here. -/
def readNat32 {ρ : Type} [AsyncRead ρ] : Proc ρ IoError ℕ := do
  let n ← readU32
  pure n.toNat

/-- `u64::read`, for what is a number here. -/
def readNat64 {ρ : Type} [AsyncRead ρ] : Proc ρ IoError ℕ := do
  let n ← readU64
  pure n.toNat

theorem readNat32_refines {ρ : Type} [AsyncRead ρ] : Refines (readNat32 : Proc ρ _ _) readNat32 :=
  readU32_refines.bind fun _ => .pure _

theorem readNat64_refines {ρ : Type} [AsyncRead ρ] : Refines (readNat64 : Proc ρ _ _) readNat64 :=
  readU64_refines.bind fun _ => .pure _

def UsersLoadingError.readFields {ρ : Type} [AsyncRead ρ] (t : UInt8) :
    Proc ρ IoError UsersLoadingError :=
  match t with
  | 1 => do
    let ioError ← ByteRead.read
    pure (.io ioError)
  | 2 => do
    let lineNumber ← readNat32
    let byteAt ← readNat64
    pure (.invalidUtf8 lineNumber byteAt)
  | 3 => do
    let lineNumber ← readNat32
    let byteAt ← readNat64
    pure (.lineTooLong lineNumber byteAt)
  | 4 => do
    let lineNumber ← readNat32
    let charAt ← readNat32
    pure (.expectedRoleCharGotEOF lineNumber charAt)
  | 5 => do
    let lineNumber ← readNat32
    let charAt ← readNat32
    let char ← ByteRead.read
    pure (.invalidRoleChar lineNumber charAt char)
  | 6 => do
    let lineNumber ← readNat32
    let charAt ← readNat32
    pure (.expectedColonGotEOF lineNumber charAt)
  | 7 => do
    let lineNumber ← readNat32
    let charAt ← readNat32
    pure (.emptyUsername lineNumber charAt)
  | 8 => do
    let lineNumber ← readNat32
    let charAt ← readNat32
    pure (.usernameTooLong lineNumber charAt)
  | 9 => do
    let lineNumber ← readNat32
    let charAt ← readNat32
    pure (.emptyPassword lineNumber charAt)
  | 10 => do
    let lineNumber ← readNat32
    let charAt ← readNat32
    pure (.passwordTooLong lineNumber charAt)
  | 11 => pure .noUsers
  | _ => .throw (invalidData "Invalid UsersLoadingError type byte")

instance : ByteRead UsersLoadingError where
  read := do
    let t ← readU8
    UsersLoadingError.readFields t
  refines := readU8_refines.bind fun t => by
    unfold UsersLoadingError.readFields
    split
    all_goals
      repeat'
        with_reducible first
        | refine Refines.bind ?_ fun _ => ?_
        | exact readNat32_refines
        | exact readNat64_refines
        | exact ByteRead.refines
        | exact .pure _
        | exact .throw _

instance : ByteRead SocksRequestAddress where
  read := do
    let t ← readU8
    match t with
    | 4 => do
      let v4 ← ByteRead.read
      pure (.ipv4 v4)
    | 6 => do
      let v6 ← ByteRead.read
      pure (.ipv6 v6)
    | 200 => do
      let domainname : SmallReadString ← ByteRead.read
      pure (.domainname domainname.val)
    | _ => .throw (invalidData "Invalid SocksRequestAddress type byte")
  refines := readU8_refines.bind fun t => by
    split
    · exact ByteRead.refines.bind fun _ => .pure _
    · exact ByteRead.refines.bind fun _ => .pure _
    · exact ByteRead.refines.bind fun _ => .pure _
    · exact .throw _

instance : ByteRead SocksRequest where
  read := do
    let destination ← ByteRead.read
    let port ← ByteRead.read
    pure ⟨destination, port⟩
  refines := ByteRead.refines.bind fun _ => ByteRead.refines.bind fun _ => .pure _

/-- `Vec<T>`, or `&[T]` where it is written. -/
structure Vec (α : Type) where
  val : List α
  deriving DecidableEq, Repr

instance {α : Type} [ByteRead α] : ByteRead (Vec α) where
  read := do
    let len ← readU16
    let v ← readElements len.toNat
    pure ⟨v⟩
  refines := readU16_refines.bind fun _ => (readElements_refines _).bind fun _ => .pure _

/-- A list whose length is written in one byte, so of at most 255 elements. -/
structure SmallReadList (α : Type) where
  val : List α
  deriving DecidableEq, Repr

instance {α : Type} [ByteRead α] : ByteRead (SmallReadList α) where
  read := do
    let len ← readU8
    let v ← readElements len.toNat
    pure ⟨v⟩
  refines := readU8_refines.bind fun _ => (readElements_refines _).bind fun _ => .pure _

end Instances

section Write

instance : ByteWrite Unit := ⟨fun _ => pure ()⟩

instance : ByteWrite Bool := ⟨fun b => writeU8 (if b then 1 else 0)⟩

instance : ByteWrite UInt8 := ⟨writeU8⟩

instance : ByteWrite UInt16 := ⟨writeU16⟩

instance : ByteWrite UInt32 := ⟨writeU32⟩

instance : ByteWrite UInt64 := ⟨writeU64⟩

instance : ByteWrite Int64 := ⟨writeI64⟩

instance : ByteWrite Char := ⟨fun c => writeAll (String.utf8EncodeChar c)⟩

instance : ByteWrite Ipv4Addr := ⟨fun ip => writeAll ip.octets⟩

instance : ByteWrite Ipv6Addr := ⟨fun ip => writeAll ip.octets⟩

instance : ByteWrite SocketAddrV4 where
  write addr := do
    ByteWrite.write addr.ip
    writeU16 addr.port

instance : ByteWrite SocketAddrV6 where
  write addr := do
    ByteWrite.write addr.ip
    writeU16 addr.port
    writeU32 addr.flowinfo
    writeU32 addr.scopeId

instance : ByteWrite SocketAddr where
  write
    | .v4 v4 => do
      writeU8 4
      ByteWrite.write v4
    | .v6 v6 => do
      writeU8 6
      ByteWrite.write v6

instance {α : Type} [ByteWrite α] : ByteWrite (Option α) where
  write
    | some value => do
      writeU8 1
      ByteWrite.write value
    | none => writeU8 0

instance {ε α : Type} [ByteWrite α] [ByteWrite ε] : ByteWrite (Except ε α) where
  write
    | .ok v => do
      writeU8 1
      ByteWrite.write v
    | .error e => do
      writeU8 0
      ByteWrite.write e

/-- A longer tuple is a pair whose second part is a tuple. -/
instance {α β : Type} [ByteWrite α] [ByteWrite β] : ByteWrite (α × β) where
  write p := do
    ByteWrite.write p.1
    ByteWrite.write p.2

instance : ByteWrite Str where
  write s :=
    if 65535 < (utf8 s).length then .throw (invalidData "String is too long (>= 64KB)")
    else do
      writeU16 (UInt16.ofNat (utf8 s).length)
      writeAll (utf8 s)

def idOfKind : ErrorKind → UInt8
  | .notFound => 1
  | .permissionDenied => 2
  | .connectionRefused => 3
  | .connectionReset => 4
  | .connectionAborted => 5
  | .notConnected => 6
  | .addrInUse => 7
  | .addrNotAvailable => 8
  | .brokenPipe => 9
  | .alreadyExists => 10
  | .wouldBlock => 11
  | .invalidInput => 12
  | .invalidData => 13
  | .timedOut => 14
  | .writeZero => 15
  | .interrupted => 16
  | .unsupported => 17
  | .unexpectedEof => 18
  | .outOfMemory => 19
  | .other => 20
  | _ => 0

instance : ByteWrite IoError where
  write e := do
    writeU8 (idOfKind e.kind)
    ByteWrite.write e.message

instance : ByteWrite UserRole := ⟨fun role => writeU8 role.intoU8⟩

instance : ByteWrite AuthMethod := ⟨fun authMethod => writeU8 authMethod.intoU8⟩

/-- A string to be written with its length in one byte. -/
structure SmallWriteString where
  val : Str
  deriving DecidableEq, Repr

instance : ByteWrite SmallWriteString where
  write s :=
    if 255 < (utf8 s.val).length then .throw (invalidData "Small string is too long (>= 256B)")
    else do
      writeU8 (UInt8.ofNat (utf8 s.val).length)
      writeAll (utf8 s.val)

instance : ByteWrite UsersLoadingError where
  write
    | .io ioError => ByteWrite.write ((1 : UInt8), ioError)
    | .invalidUtf8 lineNumber byteAt =>
      ByteWrite.write ((2 : UInt8), UInt32.ofNat lineNumber, UInt64.ofNat byteAt)
    | .lineTooLong lineNumber byteAt =>
      ByteWrite.write ((3 : UInt8), UInt32.ofNat lineNumber, UInt64.ofNat byteAt)
    | .expectedRoleCharGotEOF lineNumber charAt =>
      ByteWrite.write ((4 : UInt8), UInt32.ofNat lineNumber, UInt32.ofNat charAt)
    | .invalidRoleChar lineNumber charAt char =>
      ByteWrite.write ((5 : UInt8), UInt32.ofNat lineNumber, UInt32.ofNat charAt, char)
    | .expectedColonGotEOF lineNumber charAt =>
      ByteWrite.write ((6 : UInt8), UInt32.ofNat lineNumber, UInt32.ofNat charAt)
    | .emptyUsername lineNumber charAt =>
      ByteWrite.write ((7 : UInt8), UInt32.ofNat lineNumber, UInt32.ofNat charAt)
    | .usernameTooLong lineNumber charAt =>
      ByteWrite.write ((8 : UInt8), UInt32.ofNat lineNumber, UInt32.ofNat charAt)
    | .emptyPassword lineNumber charAt =>
      ByteWrite.write ((9 : UInt8), UInt32.ofNat lineNumber, UInt32.ofNat charAt)
    | .passwordTooLong lineNumber charAt =>
      ByteWrite.write ((10 : UInt8), UInt32.ofNat lineNumber, UInt32.ofNat charAt)
    | .noUsers => writeU8 11

instance : ByteWrite SocksRequestAddress where
  write
    | .ipv4 v4 => ByteWrite.write ((4 : UInt8), v4)
    | .ipv6 v6 => ByteWrite.write ((6 : UInt8), v6)
    | .domainname domainname => ByteWrite.write ((200 : UInt8), SmallWriteString.mk domainname)

instance : ByteWrite SocksRequest where
  write request := ByteWrite.write (request.destination, request.port)

def writeElements {α : Type} [ByteWrite α] : List α → Proc Sink IoError Unit
  | [] => pure ()
  | ele :: rest => do
    ByteWrite.write ele
    writeElements rest

instance {α : Type} [ByteWrite α] : ByteWrite (Vec α) where
  write v :=
    if 65535 < v.val.length then .throw (invalidData "List is too long (>= 64K)")
    else do
      writeU16 (UInt16.ofNat v.val.length)
      writeElements v.val

/-- A list to be written with its length in one byte. -/
structure SmallWriteList (α : Type) where
  val : List α
  deriving DecidableEq, Repr

instance {α : Type} [ByteWrite α] : ByteWrite (SmallWriteList α) where
  write v :=
    if 255 < v.val.length then .throw (invalidData "Small list is too long (>= 256)")
    else do
      writeU8 (UInt8.ofNat v.val.length)
      writeElements v.val

end Write

/-! ## Small strings -/

section SmallString

def smallString (s : Str) : List UInt8 := UInt8.ofNat (utf8 s).length :: utf8 s

theorem intoString_utf8 {ρ : Type} (message : String) (s : Str) :
    (intoString message (utf8 s) : Proc ρ IoError Str) = pure s := by
  simp [intoString]

theorem intoString_eq_ok {ρ : Type} {message : String} {bs : List UInt8} {s : Str} {r r' : ρ}
    (h : intoString message bs r = (.ok s, r')) : bs = utf8 s ∧ r' = r := by
  rcases ht : fromUtf8 bs with _ | t <;> simp only [intoString, ht] at h
  · simp at h
  · simp only [Proc.pure_apply, Prod.mk.injEq, Except.ok.injEq] at h
    obtain ⟨rfl, rfl⟩ := h
    exact ⟨fromUtf8_ok ht, rfl⟩

theorem smallReadString_append {s : Str} (h : (utf8 s).length ≤ 255) (rest : List UInt8)
    (e : Ending) :
    ByteRead.read (⟨smallString s ++ rest, e⟩ : Flat)
      = (.ok (⟨s⟩ : SmallReadString), ⟨rest, e⟩) := by
  have hlen : (UInt8.ofNat (utf8 s).length).toNat = (utf8 s).length := by
    rw [UInt8.toNat_ofNat']
    omega
  simp only [ByteRead.read, smallString, List.cons_append]
  rw [Proc.bind_ok (readU8_cons _), Proc.bind_ok (readExact_append hlen.symm), intoString_utf8]
  rfl

theorem chunk_eq_ok {message : String} {len : UInt8} {bs : List UInt8} {s : Str}
    {r r1 r2 r' : Flat} (hlen : readU8 r = (.ok len, r1))
    (hbs : readExact len.toNat r1 = (.ok bs, r2)) (hs : intoString message bs r2 = (.ok s, r')) :
    r.bytes = smallString s ++ r'.bytes ∧ (utf8 s).length ≤ 255 ∧ r'.ending = r.ending := by
  obtain ⟨hbytes, hend⟩ := readU8_eq_ok hlen
  obtain ⟨hbytes', hlen', hend'⟩ := readExact_eq_ok hbs
  obtain ⟨rfl, rfl⟩ := intoString_eq_ok hs
  have hlt := len.toNat_lt
  refine ⟨?_, by omega, hend'.trans hend⟩
  rw [hbytes, hbytes', smallString, hlen', UInt8.ofNat_toNat]
  rfl

theorem smallReadString_eq_ok {s : SmallReadString} {r r' : Flat}
    (h : ByteRead.read r = (.ok s, r')) :
    r.bytes = smallString s.val ++ r'.bytes ∧ (utf8 s.val).length ≤ 255
      ∧ r'.ending = r.ending := by
  simp only [ByteRead.read] at h
  obtain ⟨len, r1, hlen, h⟩ := Proc.bind_eq_ok h
  obtain ⟨bs, r2, hbs, h⟩ := Proc.bind_eq_ok h
  obtain ⟨t, r3, ht, h⟩ := Proc.bind_eq_ok h
  simp only [Proc.pure_apply, Prod.mk.injEq, Except.ok.injEq] at h
  obtain ⟨rfl, rfl⟩ := h
  exact chunk_eq_ok hlen hbs ht

end SmallString

end DustDevil
