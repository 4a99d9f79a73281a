import DustDevil.Client.Manager
import DustDevil.Lib.Steps

/-!
# A client's session with a server

The calls on a manager, the task that reads and the server, a step at a time. They run on one
thread, so that nothing else happens between two awaits of a call or of the task; the server may do
something at any moment. The `n`-th call's handler is `n`, and so is its request. The server answers
the requests of a command in order, and only those that have been sent.
-/

namespace DustDevil

open Wire

/-- A message of the server, with the request that it answers. -/
structure Sent where
  cause : Option ℕ
  message : ServerMessage

inductive ManagerPoint where
  | ready
  /-- A request is being written. -/
  | writing (f : ℕ) (command : SandstormCommandType)
  /-- `shutdown_and_close` has taken the manager. -/
  | closed
  deriving DecidableEq

inductive ReaderPoint where
  | reading
  /-- An event is being sent to the channel of its receiver. -/
  | streaming
  | ended (result : Except (Stop IoError) Unit)

structure Session where
  reader : ReaderConn Unit
  readerPoint : ReaderPoint
  managerPoint : ManagerPoint
  /-- The requests of the calls so far. -/
  calls : List ClientRequest
  /-- The requests of each command that the server has not answered yet. -/
  pending : SandstormCommandType → List ℕ
  inFlight : List Sent
  /-- The messages that have been read. -/
  taken : List Sent

inductive SessionAction where
  | call (request : ClientRequest)
  /-- The request of the last call is written. -/
  | written
  | flushAndWait (notifier : ℕ)
  | shutdownAndClose
  | answer (message : ServerMessage)
  | event (event : Event)
  /-- The task reads a message and goes on to its next await. -/
  | take
  /-- The event has been sent, or its channel is closed. -/
  | streamed
  | endOfStream

namespace Session

def start : Session :=
  ⟨⟨(), ⟨.new, none⟩, []⟩, .reading, .ready, [], fun _ => [], [], []⟩

def handlers (s : Session) : ResponseHandlers := s.reader.state.handlers

def setHandlers (s : Session) (handlers : ResponseHandlers) : Session :=
  { s with reader := { s.reader with state := { s.reader.state with handlers := handlers } } }

/-- What the task does with a message before its next await. An event is taken to have one, also
where its receiver is a function. -/
def arrive (env : ReaderEnv) : ServerMessage → Proc (ReaderConn Unit) IoError ReaderPoint
  | .eventStream event => do
    Conn.perform [.received (.eventStream event)]
    deliver env (.eventStream event)
    pure .streaming
  | message => do
    receive env message
    pure .reading

def pointOf : Except (Stop IoError) ReaderPoint → ReaderPoint
  | .ok point => point
  | .error e => .ended (.error e)

/-- The session after the action, if it can happen. -/
def step (env : ReaderEnv) (s : Session) : SessionAction → Option Session
  | .call request =>
    if s.managerPoint = .ready then
      some { s.setHandlers (request.register s.calls.length s.handlers) with
        calls := s.calls ++ [request]
        managerPoint := .writing s.calls.length request.command }
    else none
  | .written =>
    match s.managerPoint with
    | .writing f command => some { s with
        managerPoint := .ready
        pending := Function.update s.pending command (s.pending command ++ [f]) }
    | _ => none
  | .flushAndWait notifier =>
    if s.managerPoint = .ready then some (s.setHandlers (s.handlers.flushAndWait notifier).2)
    else none
  | .shutdownAndClose =>
    if s.managerPoint = .ready then
      some { s.setHandlers s.handlers.setShutdown with managerPoint := .closed }
    else none
  | .answer message =>
    match s.pending message.command with
    | f :: rest => some { s with
        pending := Function.update s.pending message.command rest
        inFlight := s.inFlight ++ [⟨some f, message⟩] }
    | [] => none
  | .event event => some { s with inFlight := s.inFlight ++ [⟨none, .eventStream event⟩] }
  | .take =>
    match s.readerPoint, s.inFlight with
    | .reading, sent :: rest =>
      let (point, reader) := arrive env sent.message s.reader
      some { s with
        reader := reader
        readerPoint := pointOf point
        inFlight := rest
        taken := s.taken ++ [sent] }
    | _, _ => none
  | .streamed =>
    match s.readerPoint with
    | .streaming => some { s with reader := (notifyFlush s.reader).2, readerPoint := .reading }
    | _ => none
  | .endOfStream =>
    match s.readerPoint, s.inFlight with
    | .reading, [] => some { s with readerPoint := .ended (readerEnd s.reader).1 }
    | _, _ => none

def run (env : ReaderEnv) : Session → List SessionAction → Option Session := runSteps (step env)

end Session

end DustDevil
