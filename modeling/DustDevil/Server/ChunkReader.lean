import DustDevil.Core.Serialize

/-!
# Chunked strings

`utils::chunk_reader`. `read_domainname` goes on reading until the name is complete and does not
look at a read that brings nothing, so its loop has an explicit number of reads, and running out of
them is `Stop.running`.
-/

namespace DustDevil

open Wire

section ChunkReader

variable {ρ : Type} [AsyncRead ρ]

def readChunkedUtf8String : Proc ρ IoError Str := do
  let length ← readU8
  let buf ← readExact length.toNat
  intoString "String is not valid UTF-8" buf

/-- A byte that a domain name may have: alphanumeric, `-` or `.`. -/
def isNameByte (c : UInt8) : Bool :=
  (0x30 ≤ c ∧ c ≤ 0x39) ∨ (0x41 ≤ c ∧ c ≤ 0x5A) ∨ (0x61 ≤ c ∧ c ≤ 0x7A) ∨ c = 0x2D ∨ c = 0x2E

/-- The loop of `read_domainname`, with `fuel` reads for the bytes that the name still lacks. -/
def readNameBytes : ℕ → ℕ → Proc ρ IoError (List UInt8)
  | _, 0 => pure []
  | 0, _ + 1 => .stop .running
  | fuel + 1, missing + 1 => do
    let more ← read (missing + 1)
    match more.find? fun c => !isNameByte c with
    | some c => .throw (invalidData ("Domainname contains invalid character: " ++ toString c))
    | none => do
      let rest ← readNameBytes fuel (missing + 1 - more.length)
      pure (more ++ rest)

def asciiString (bytes : List UInt8) : Str := bytes.map fun c => Char.ofNat c.toNat

def readDomainname (fuel : ℕ) : Proc ρ IoError Str := do
  let length ← readU8
  if length = 0 then .throw (invalidData "Domainname length cannot be 0")
  else do
    let buf ← readNameBytes fuel length.toNat
    pure (asciiString buf)

end ChunkReader

end DustDevil
