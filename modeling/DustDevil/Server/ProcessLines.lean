import DustDevil.Lib.ReadExt

/-!
# Processing a file line by line

`utils::process_lines`. `buffer` is the filled part of the source's, `buffer[..buffer_length]`, so
`buffer_length` is its length and `copy_within` drops the bytes before `line_start`.
-/

namespace DustDevil

open Wire

def bufferCapacity : ℕ := 0x2000

inductive ProcessFileLinesError (T : Type) where
  | io (e : IoError)
  | invalidUtf8 (lineNumber : UInt32) (byteAt : ℕ)
  | lineTooLong (lineNumber : UInt32) (byteAt : ℕ)
  | cancelled (lineNumber : UInt32) (t : T)

def newline : UInt8 := 0x0A

section Scan

variable {σ T : Type} (f : Str → UInt32 → Proc σ T Unit)

def handleLine (line : List UInt8) (lineNumber : UInt32) : Proc σ (ProcessFileLinesError T) Unit :=
  match fromUtf8 line with
  | .ok s => (f s lineNumber).mapErr (.cancelled lineNumber)
  | .error validUpTo => .throw (.invalidUtf8 lineNumber (validUpTo + 1))

def slice {σ ε : Type} (buffer : List UInt8) (a b : ℕ) : Proc σ ε (List UInt8) :=
  if a ≤ b ∧ b ≤ buffer.length then pure ((buffer.take b).drop a) else .stop .panic

structure LineScan where
  lineStart : ℕ
  lineNumber : UInt32
  deriving DecidableEq, Repr

/-- `for i in i..(i + count)`: handles each line that ends there. -/
def scanLines (buffer : List UInt8) :
    ℕ → ℕ → LineScan → Proc σ (ProcessFileLinesError T) LineScan
  | 0, _, scan => pure scan
  | count + 1, i, scan =>
    if buffer[i]? = some newline then do
      let line ← slice buffer scan.lineStart i
      handleLine f line scan.lineNumber
      scanLines buffer count (i + 1) ⟨i + 1, scan.lineNumber + 1⟩
    else scanLines buffer count (i + 1) scan

end Scan

section Loop

variable {ρ σ T : Type} [AsyncRead ρ] (f : Str → UInt32 → Proc σ T Unit)

/-- The reading loop, for at most `fuel` reads: what is left in the buffer at the end of the file,
and its line number. -/
def processLinesLoop :
    ℕ → List UInt8 → UInt32 → Proc (ρ × σ) (ProcessFileLinesError T) (List UInt8 × UInt32)
  | 0, _, _ => .stop .running
  | fuel + 1, buffer, lineNumber => do
    let bytes ← (read (bufferCapacity - buffer.length)).mapErr .io |>.onFst
    if bytes = [] then pure (buffer, lineNumber)
    else do
      let scan ← scanLines f (buffer ++ bytes) bytes.length buffer.length ⟨0, lineNumber⟩ |>.onSnd
      if scan.lineStart = 0 ∧ bytes.length = bufferCapacity - buffer.length then
        .throw (.lineTooLong scan.lineNumber bufferCapacity)
      else processLinesLoop fuel ((buffer ++ bytes).drop scan.lineStart) scan.lineNumber

def lastLine (buffer : List UInt8) (lineNumber : UInt32) :
    Proc σ (ProcessFileLinesError T) UInt32 :=
  if buffer ≠ [] then do
    handleLine f buffer lineNumber
    pure (lineNumber + 1)
  else pure lineNumber

/-- Every read but the last one finds a byte, so one more read than there are bytes is enough. -/
def processLinesUtf8 : Proc (ρ × σ) (ProcessFileLinesError T) UInt32 := fun t =>
  (do
    let (buffer, lineNumber) ← processLinesLoop f ((unread t.1).length + 1) [] 1
    (lastLine f buffer lineNumber).onSnd : Proc (ρ × σ) _ UInt32) t

end Loop

end DustDevil
