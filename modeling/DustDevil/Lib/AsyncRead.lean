import Mathlib.Data.Nat.Notation
import Mathlib.Tactic.SplitIfs
import DustDevil.Lib.Proc
import DustDevil.Lib.Utf8

/-!
# Reading bytes that arrive in pieces

A reader gives the bytes it has still to deliver in pieces of its own choosing: `AsyncRead` says
what a read may return and nothing about the sizes. `Flat` is the reader that holds back nothing.
A computation made of exact reads does on every reader what it does on `Flat` (`Refines`), so its
result depends on the bytes alone and never on how they were split.
-/

namespace Wire

/-- `std::io::ErrorKind`. -/
inductive ErrorKind where
  | notFound | permissionDenied | connectionRefused | connectionReset | hostUnreachable
  | networkUnreachable | connectionAborted | notConnected | addrInUse | addrNotAvailable
  | networkDown | brokenPipe | alreadyExists | wouldBlock | notADirectory | isADirectory
  | directoryNotEmpty | readOnlyFilesystem | filesystemLoop | staleNetworkFileHandle
  | invalidInput | invalidData | timedOut | writeZero | storageFull | notSeekable
  | quotaExceeded | fileTooLarge | resourceBusy | executableFileBusy | deadlock
  | crossesDevices | tooManyLinks | invalidFilename | argumentListTooLong | interrupted
  | unsupported | unexpectedEof | outOfMemory | inProgress | other | uncategorized
  deriving DecidableEq, Repr

/-- `std::io::Error`: its kind and what `to_string` gives. -/
structure IoError where
  kind : ErrorKind
  message : Str
  deriving DecidableEq, Repr

/-- What follows the last byte: the end of the stream, an error, or silence. -/
inductive Ending where
  | eof
  | failed (e : IoError)
  | open
  deriving DecidableEq, Repr

namespace Ending

/-- What a read finds when no byte is left. -/
def read : Ending → Except (Stop IoError) (List UInt8)
  | .eof => .ok []
  | .failed e => .error (.err e)
  | .open => .error .blocked

/-- What an exact read that runs out of bytes stops with, `early` being its own end-of-file
error. -/
def short (early : IoError) : Ending → Stop IoError
  | .eof => .err early
  | .failed e => .err e
  | .open => .blocked

end Ending

/-- A reader: the bytes it has still to deliver, what comes after them, and `read`, which into a
buffer of `n` bytes puts at least one of them if there is one. -/
class AsyncRead (ρ : Type) where
  unread : ρ → List UInt8
  ending : ρ → Ending
  read : ℕ → Proc ρ IoError (List UInt8)
  read_some : ∀ (r : ρ) (n : ℕ), 0 < n → unread r ≠ [] →
    ∃ k, 0 < k ∧ k ≤ n ∧ k ≤ (unread r).length ∧ (read n r).1 = .ok ((unread r).take k)
      ∧ unread (read n r).2 = (unread r).drop k ∧ ending (read n r).2 = ending r
  read_end : ∀ (r : ρ) (n : ℕ), 0 < n → unread r = [] →
    (read n r).1 = (ending r).read ∧ unread (read n r).2 = []
      ∧ ending (read n r).2 = ending r

export AsyncRead (unread ending read)

section Read

variable {ρ : Type} [AsyncRead ρ] {r : ρ} {n : ℕ}

theorem read_eq_ok (hn : 0 < n) (hr : unread r ≠ []) :
    ∃ bytes r', read n r = (.ok bytes, r') ∧ bytes ≠ [] ∧ bytes.length ≤ n
      ∧ unread r = bytes ++ unread r' ∧ ending r' = ending r := by
  obtain ⟨k, hk0, hkn, hkl, h1, h2, h3⟩ := AsyncRead.read_some r n hn hr
  have hlen : ((unread r).take k).length = k := by simp [hkl]
  refine ⟨(unread r).take k, (read n r).2, by rw [← h1], ?_, by omega, ?_, h3⟩
  · exact List.length_pos_iff.1 (by omega)
  · rw [h2, List.take_append_drop]

theorem read_at_end (hn : 0 < n) (hr : unread r = []) :
    ∃ r', read n r = ((ending r).read, r') ∧ unread r' = [] ∧ ending r' = ending r := by
  obtain ⟨h1, h2, h3⟩ := AsyncRead.read_end r n hn hr
  exact ⟨(read n r).2, by rw [← h1], h2, h3⟩

theorem read_ok (hn : 0 < n) {bytes : List UInt8} {r' : ρ} (h : read n r = (.ok bytes, r')) :
    unread r = bytes ++ unread r' ∧ bytes.length ≤ n := by
  by_cases hr : unread r = []
  · obtain ⟨r1, hread, hr1, -⟩ := read_at_end hn hr
    rw [h, Prod.mk.injEq] at hread
    obtain ⟨hbytes, rfl⟩ := hread
    rcases hend : ending r with _ | e | _ <;> simp [hend, Ending.read] at hbytes
    simp [hr, hr1, hbytes]
  · obtain ⟨bytes1, r1, hread, -, hle, hcat, -⟩ := read_eq_ok hn hr
    rw [h, Prod.mk.injEq, Except.ok.injEq] at hread
    obtain ⟨rfl, rfl⟩ := hread
    exact ⟨hcat, hle⟩

end Read

/-! ## The readers -/

theorem take_min_length (l : List UInt8) (n : ℕ) :
    l.take (min n l.length) = l.take n ∧ l.drop (min n l.length) = l.drop n := by
  rcases Nat.le_total n l.length with h | h
  · rw [Nat.min_eq_left h]
    exact ⟨rfl, rfl⟩
  · rw [Nat.min_eq_right h, List.take_of_length_le h, List.take_length,
      List.drop_of_length_le h, List.drop_length]
    exact ⟨rfl, rfl⟩

/-- The reader that delivers all it is asked for. -/
structure Flat where
  bytes : List UInt8
  ending : Ending
  deriving DecidableEq, Repr

def Flat.read (n : ℕ) : Proc Flat IoError (List UInt8) := fun r =>
  if r.bytes = [] then (r.ending.read, r) else (.ok (r.bytes.take n), ⟨r.bytes.drop n, r.ending⟩)

instance : AsyncRead Flat where
  unread := Flat.bytes
  ending := Flat.ending
  read := Flat.read
  read_some r n hn hr := by
    obtain ⟨h1, h2⟩ := take_min_length r.bytes n
    refine ⟨min n r.bytes.length, ?_, by omega, by omega, ?_, ?_, ?_⟩
    · have := List.length_pos_iff.2 hr
      omega
    all_goals simp [Flat.read, hr, h1, h2]
  read_end r n _ hr := by simp [Flat.read, hr]

/-- A socket or a file: the `i`-th read that finds data delivers at most `splits[i] + 1` bytes, and
all it is asked for past the end of `splits`. -/
structure Source where
  bytes : List UInt8
  splits : List ℕ
  ending : Ending
  deriving DecidableEq, Repr

def Source.size (r : Source) (n : ℕ) : ℕ :=
  match r.splits with
  | [] => n
  | k :: _ => min n (k + 1)

def Source.read (n : ℕ) : Proc Source IoError (List UInt8) := fun r =>
  if r.bytes = [] then (r.ending.read, r)
  else (.ok (r.bytes.take (r.size n)), ⟨r.bytes.drop (r.size n), r.splits.tail, r.ending⟩)

theorem Source.size_pos (r : Source) {n : ℕ} (hn : 0 < n) : 0 < r.size n ∧ r.size n ≤ n := by
  unfold Source.size
  split <;> omega

theorem Source.read_nil {r : Source} (hr : r.bytes = []) (n : ℕ) :
    Source.read n r = (r.ending.read, r) := by
  simp [Source.read, hr]

theorem Source.read_some {r : Source} {n : ℕ} (hn : 0 < n) (hr : r.bytes ≠ []) :
    ∃ k, 0 < k ∧ k ≤ n ∧ k ≤ r.bytes.length
      ∧ Source.read n r = (.ok (r.bytes.take k), ⟨r.bytes.drop k, r.splits.tail, r.ending⟩) := by
  obtain ⟨h1, h2⟩ := r.size_pos hn
  obtain ⟨h3, h4⟩ := take_min_length r.bytes (r.size n)
  have := List.length_pos_iff.2 hr
  exact ⟨min (r.size n) r.bytes.length, by omega, by omega, by omega, by
    simp [Source.read, hr, h3, h4]⟩

instance : AsyncRead Source where
  unread := Source.bytes
  ending := Source.ending
  read := Source.read
  read_some r n hn hr := by
    obtain ⟨k, h1, h2, h3, h4⟩ := Source.read_some hn hr
    exact ⟨k, h1, h2, h3, by simp [h4]⟩
  read_end r n _ hr := by simp [Source.read_nil hr, hr]

/-- `tokio::io::BufReader`: the bytes it holds, and the source it fills its buffer from, `capacity`
bytes at a time. -/
structure BufReader where
  capacity : ℕ
  buf : List UInt8
  inner : Source
  deriving DecidableEq, Repr

namespace BufReader

def withCapacity (capacity : ℕ) (inner : Source) : BufReader := ⟨capacity, [], inner⟩

/-- A read takes what is buffered; with nothing buffered, a read of at least the capacity bypasses
the buffer and a smaller one fills it first. -/
def read (n : ℕ) : Proc BufReader IoError (List UInt8) := fun r =>
  if r.buf ≠ [] then (.ok (r.buf.take n), { r with buf := r.buf.drop n })
  else if r.capacity ≤ n then
    ((r.inner.read n).1, { r with inner := (r.inner.read n).2 })
  else
    match r.inner.read r.capacity with
    | (.ok bs, inner) => (.ok (bs.take n), { r with buf := bs.drop n, inner := inner })
    | (.error e, inner) => (.error e, { r with inner := inner })

def unread (r : BufReader) : List UInt8 := r.buf ++ r.inner.bytes

end BufReader

instance : AsyncRead BufReader where
  unread := BufReader.unread
  ending r := r.inner.ending
  read := BufReader.read
  read_some r n hn hr := by
    unfold BufReader.read BufReader.unread at *
    by_cases hb : r.buf = []
    · simp only [hb, List.nil_append, ne_eq, not_true_eq_false, if_false] at hr ⊢
      split_ifs with hc
      · obtain ⟨k, h1, h2, h3, h4⟩ := Source.read_some hn hr
        exact ⟨k, h1, h2, h3, by simp [h4]⟩
      · obtain ⟨k, h1, h2, h3, h4⟩ := Source.read_some (n := r.capacity) (by omega) hr
        refine ⟨min n k, by omega, by omega, by omega, ?_⟩
        simp only [h4, List.take_take]
        refine ⟨trivial, ?_, trivial⟩
        have hlen : (r.inner.bytes.take k).length = k := by simp [h3]
        rcases Nat.le_total n k with hnk | hnk
        · rw [← List.drop_append_of_le_length (by omega), List.take_append_drop,
            Nat.min_eq_left hnk]
        · rw [List.drop_of_length_le (by omega), List.nil_append, Nat.min_eq_right hnk]
    · have := List.length_pos_iff.2 hb
      refine ⟨min n r.buf.length, by omega, by omega, by rw [List.length_append]; omega, ?_⟩
      simp only [ne_eq, hb, not_false_eq_true, if_true]
      obtain ⟨h1, h2⟩ := take_min_length r.buf n
      refine ⟨?_, ?_, trivial⟩
      · rw [List.take_append_of_le_length (by omega), h1]
      · rw [List.drop_append_of_le_length (by omega), h2]
  read_end r n hn hr := by
    simp only [BufReader.unread, List.append_eq_nil_iff] at hr
    obtain ⟨hb, hi⟩ := hr
    simp only [BufReader.read, BufReader.unread, hb, ne_eq, not_true_eq_false, if_false]
    split_ifs with hc
    · simp [Source.read_nil hi, hi]
    · rw [Source.read_nil hi]
      rcases he : r.inner.ending with _ | e | _ <;> simp [Ending.read, hi, he]

end Wire
