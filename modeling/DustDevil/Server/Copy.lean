import DustDevil.Server.Socks5

/-!
# The relay

`socks5/copy.rs`. The two directions are polled in turn, each until it has to wait. What a half
answers to a poll is any function of the number of polls its direction has made, so the answers are
any sequence; the polls and their answers are kept in `polls`. A step is one iteration of the loop
of `transfer_one_direction`, within which nothing else runs.
-/

namespace DustDevil

open Wire

inductive Poll (α : Type) where
  | pending
  | ready (a : α)
  deriving DecidableEq, Repr

inductive TransferState where
  | running
  | shuttingDown
  | done
  deriving DecidableEq, Repr

/-- A poll of one of a direction's halves and its answer: the bytes that `poll_fill_buf` adds to the
reader's buffer, the number of bytes that `poll_write` accepts of those it is offered. -/
inductive HalfPoll where
  | fillBuf (answer : Poll (Except IoError (List UInt8)))
  | write (buffer : List UInt8) (answer : Poll (Except IoError ℕ))
  | flush (answer : Poll (Except IoError Unit))
  | shutdown (answer : Poll (Except IoError Unit))
  deriving DecidableEq

/-- What the reader and the writer of a direction answer, should its `i`-th poll be this one. -/
structure Halves where
  fillBuf : ℕ → Poll (Except IoError (List UInt8))
  write : ℕ → Poll (Except IoError ℕ)
  flush : ℕ → Poll (Except IoError Unit)
  shutdown : ℕ → Poll (Except IoError Unit)

/-- One direction: its `TransferState`, what its reader holds, and the polls it has made. -/
structure Transfer where
  state : TransferState
  buffer : List UInt8
  polls : List HalfPoll

/-- What `transfer_one_direction` works on: a direction, the context and what was logged. -/
structure Moving where
  transfer : Transfer
  context : ClientContext
  events : List EventData

section Transfer

variable (halves : Halves) (isSrcToDst : Bool)

def ready {α : Type} : Poll (Except IoError α) → Proc Moving IoError α
  | .pending => .stop .blocked
  | .ready a => .ofExcept a

def Moving.record (s : Moving) (poll : HalfPoll) : Moving :=
  { s with transfer := { s.transfer with polls := s.transfer.polls ++ [poll] } }

def Moving.setState (state : TransferState) (s : Moving) : Moving :=
  { s with transfer := { s.transfer with state := state } }

def pollFillBuf : Proc Moving IoError (List UInt8) := do
  let s ← .get
  let answer := halves.fillBuf s.transfer.polls.length
  .modify fun s => s.record (.fillBuf answer)
  let more ← ready answer
  .modify fun s => { s with transfer := { s.transfer with buffer := s.transfer.buffer ++ more } }
  pure (s.transfer.buffer ++ more)

def atMost (n : ℕ) : Poll (Except IoError ℕ) → Poll (Except IoError ℕ)
  | .ready (.ok i) => .ready (.ok (min i n))
  | answer => answer

def pollWrite (buffer : List UInt8) : Proc Moving IoError ℕ := do
  let s ← .get
  let answer := atMost buffer.length (halves.write s.transfer.polls.length)
  .modify fun s => s.record (.write buffer answer)
  ready answer

def pollFlush : Proc Moving IoError Unit := do
  let s ← .get
  let answer := halves.flush s.transfer.polls.length
  .modify fun s => s.record (.flush answer)
  ready answer

def pollShutdown : Proc Moving IoError Unit := do
  let s ← .get
  let answer := halves.shutdown s.transfer.polls.length
  .modify fun s => s.record (.shutdown answer)
  ready answer

/-- `log_socks_source_shutdown!` or `log_socks_destination_shutdown!`. -/
def Moving.logShutdown (s : Moving) : Moving :=
  { s with events := s.events ++ s.context.log (if isSrcToDst then
      .clientSourceShutdown s.context.clientId else .clientDestinationShutdown s.context.clientId) }

def Moving.register (i : ℕ) (s : Moving) : Moving :=
  let (context, events) :=
    if isSrcToDst then s.context.registerBytesSent i else s.context.registerBytesReceived i
  { s with context := context, events := s.events ++ events }

def Moving.consume (i : ℕ) (s : Moving) : Moving :=
  { s with transfer := { s.transfer with buffer := s.transfer.buffer.drop i } }

/-- One iteration of `transfer_one_direction`'s loop: whether it returns. -/
def transferStep : Proc Moving IoError Bool := do
  let s ← .get
  match s.transfer.state with
  | .running => do
    let buffer ← pollFillBuf halves
    if buffer = [] then do
      .modify (Moving.logShutdown isSrcToDst)
      pollFlush halves
      .modify (Moving.setState .shuttingDown)
      pure false
    else do
      let i ← pollWrite halves buffer
      if i = 0 then do
        .modify (Moving.logShutdown isSrcToDst)
        .modify (Moving.setState .shuttingDown)
        pure false
      else do
        .modify (Moving.register isSrcToDst i)
        .modify (Moving.consume i)
        pure false
  | .shuttingDown => do
    pollShutdown halves
    .modify (Moving.setState .done)
    pure false
  | .done => pure true

end Transfer

/-- Where the closure of `copy_bidirectional` is: in one of its two calls, the second with the
first one's answer, or it has returned for good. -/
inductive CopyPhase where
  | srcToDst
  | dstToSrc (srcToDst : Poll Unit)
  | returned (result : Except IoError Unit)

/-- The state of `copy_bidirectional`, its directions by `is_src_to_dst`. -/
structure Copying where
  transfer : Bool → Transfer
  context : ClientContext
  events : List EventData
  phase : CopyPhase

namespace Copying

/-- The relay as it begins, with the reader that the negotiation has used. -/
def start (context : ClientContext) (srcReader : BufReader) : Copying where
  transfer isSrcToDst := ⟨.running, if isSrcToDst then srcReader.buf else [], []⟩
  context := context
  events := []
  phase := .srcToDst

variable (halves : Bool → Halves)

def moving (isSrcToDst : Bool) (s : Copying) : Moving :=
  ⟨s.transfer isSrcToDst, s.context, s.events⟩

def setMoving (isSrcToDst : Bool) (s : Copying) (moving : Moving) : Copying where
  transfer := Function.update s.transfer isSrcToDst moving.transfer
  context := moving.context
  events := moving.events
  phase := s.phase

def iterate (isSrcToDst : Bool) : Proc Copying IoError Bool :=
  (transferStep (halves isSrcToDst) isSrcToDst).zoom (moving isSrcToDst) (setMoving isSrcToDst)

/-- What the closure does once an iteration of `isSrcToDst` has come to `result`. -/
def next (s : Copying) : CopyPhase → Except (Stop IoError) Bool → Copying
  | _, .error (.err e) => { s with phase := .returned (.error e) }
  | _, .ok false => s
  | .srcToDst, .ok true => { s with phase := .dstToSrc (.ready ()) }
  | .srcToDst, .error _ => { s with phase := .dstToSrc .pending }
  | .dstToSrc (.ready _), .ok true => { s with phase := .returned (.ok ()) }
  | _, _ => { s with phase := .srcToDst }

def step (s : Copying) : Copying :=
  match s.phase with
  | .srcToDst => next (iterate halves true s).2 s.phase (iterate halves true s).1
  | .dstToSrc _ => next (iterate halves false s).2 s.phase (iterate halves false s).1
  | .returned _ => s

end Copying

end DustDevil
