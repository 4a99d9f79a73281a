import DustDevil.Lib.Slice
import DustDevil.Server.Copy
import DustDevil.Server.Logger
import DustDevil.Server.Sandstorm

/-!
# The server's main loop

`run_server_inner` of `server.rs` from the binding of its sockets on, step by step, among the tasks
of the connections that it accepts. What the two kinds of sockets and of connections share has the
kind as a parameter. There is a log sender, and what is sent to the log, by whomever, is one list. A
connection may log any event about itself at any moment while its task runs; `handleSocks5` and
`handleSandstorm` are what the tasks log where no other interferes.
-/

namespace DustDevil

open Wire

/-! ## The tasks -/

section Tasks

def SocksEffect.logged : SocksEffect → Option EventData
  | log event => some event
  | _ => none

def SandstormEffect.logged : SandstormEffect → Option EventData
  | log event => some event
  | _ => none

/-- What a task's inner function logs, the context that it leaves, and what it returns, if it does
before the task is cancelled. -/
structure TaskRun (κ : Type) where
  events : List EventData
  context : κ
  result : Option (Except IoError Unit)

/-- What a computation returns. One that stops without an error waits until it is cancelled, or has
panicked. -/
def returned : Except (Stop IoError) Unit → Option (Except IoError Unit)
  | .ok () => some (.ok ())
  | .error (.err e) => some (.error e)
  | .error _ => none

/-- All that the task logs. -/
def TaskRun.logged {κ : Type} (logFinished : κ → Except IoError Unit → List EventData)
    (run : TaskRun κ) : List EventData :=
  run.events ++ run.result.toList.flatMap (logFinished run.context)

/-- `log_socks_finished!`. -/
def ClientContext.logFinished (cx : ClientContext) (result : Except IoError Unit) :
    List EventData :=
  cx.log (.clientConnectionFinished cx.clientId cx.bytesSent cx.bytesReceived result)

/-- `handle_socks5_inner` with its relay, so many iterations of it. -/
def runSocks5 (env : SocksEnv) (cx : ClientContext) (fuel : ℕ) (halves : Bool → Halves)
    (iterations : ℕ) (reader : BufReader) : TaskRun ClientContext :=
  let (outcome, conn) := handleSocks5Inner env cx fuel ⟨reader, (), []⟩
  let events := conn.effects.filterMap SocksEffect.logged
  match outcome with
  | .ok .closed => ⟨events, cx, some (.ok ())⟩
  | .error e => ⟨events, cx, returned (.error e)⟩
  | .ok (.relaying _) =>
    let relay := (Copying.step halves)^[iterations] (.start cx conn.reader)
    ⟨events ++ relay.events, relay.context, match relay.phase with
      | .returned result => some result
      | _ => none⟩

/-- What `handle_socks5` logs. -/
def handleSocks5 (env : SocksEnv) (cx : ClientContext) (fuel : ℕ) (halves : Bool → Halves)
    (iterations : ℕ) (reader : BufReader) : List EventData :=
  (runSocks5 env cx fuel halves iterations reader).logged ClientContext.logFinished

/-- `log_sandstorm_finished!`. -/
def SandstormContext.logFinished (cx : SandstormContext) (result : Except IoError Unit) :
    List EventData :=
  cx.log (.sandstormConnectionFinished cx.managerId result)

/-- What `handle_responses` comes to. -/
inductive ResponsesEnd where
  | returns
  | waits
  /-- It fails when `handle_requests` has had so many effects, or once that has returned should it
  have fewer. -/
  | fails (after : ℕ) (e : IoError)

/-- The `try_join!` of `handle_requests`, with its effects and what it returns, and
`handle_responses`: the effects that there are before the first of them fails, or both return. -/
def joinResponses (requests : List SandstormEffect) (result : Option (Except IoError Unit)) :
    ResponsesEnd → List SandstormEffect × Option (Except IoError Unit)
  | .returns => (requests, result)
  | .waits => (requests, result.filter fun result => !result.isOk)
  | .fails after e =>
    if after ≤ requests.length then (requests.take after, some (.error e))
    else (requests, result.map fun result => result.bind fun _ => .error e)

def SandstormEffect.isHandleRequests : SandstormEffect → Bool
  | handleRequests => true
  | _ => false

/-- `handle_sandstorm_inner` with both of its halves. -/
def runSandstorm {ρ : Type} [AsyncRead ρ] (env : SandstormEnv) (cx : SandstormContext)
    (fuel : ℕ) (reader : ρ) (responses : ResponsesEnd) : TaskRun SandstormContext :=
  let (outcome, conn) := handleSandstormInner env fuel ⟨reader, cx, []⟩
  let handshake := conn.effects.takeWhile fun effect => !effect.isHandleRequests
  match conn.effects.dropWhile fun effect => !effect.isHandleRequests with
  | [] => ⟨handshake.filterMap SandstormEffect.logged, cx, returned outcome⟩
  | _ :: requests =>
    let (requests, result) := joinResponses requests (returned outcome) responses
    ⟨(handshake ++ requests).filterMap SandstormEffect.logged, cx, result⟩

/-- What `handle_sandstorm` logs. -/
def handleSandstorm {ρ : Type} [AsyncRead ρ] (env : SandstormEnv) (cx : SandstormContext)
    (fuel : ℕ) (reader : ρ) (responses : ResponsesEnd) : List EventData :=
  (runSandstorm env cx fuel reader responses).logged SandstormContext.logFinished

end Tasks

/-- The connection that an event is about. -/
def EventData.connection : EventData → Option (ConnectionKind × ℕ)
  | newClientConnectionAccepted id _ => some (.client, id)
  | clientRequestedUnsupportedVersion id _ => some (.client, id)
  | clientRequestedUnsupportedCommand id _ => some (.client, id)
  | clientRequestedUnsupportedAtyp id _ => some (.client, id)
  | clientSelectedAuthMethod id _ => some (.client, id)
  | clientNoAcceptableAuthMethod id => some (.client, id)
  | clientRequestedUnsupportedUserpassVersion id _ => some (.client, id)
  | clientAuthenticatedWithUserpass id _ _ => some (.client, id)
  | clientSocksRequest id _ => some (.client, id)
  | clientDnsLookup id _ => some (.client, id)
  | clientAttemptingConnect id _ => some (.client, id)
  | clientConnectionAttemptBindFailed id _ => some (.client, id)
  | clientConnectionAttemptConnectFailed id _ => some (.client, id)
  | clientFailedToConnectToDestination id => some (.client, id)
  | clientConnectedToDestination id _ => some (.client, id)
  | clientBytesSent id _ => some (.client, id)
  | clientBytesReceived id _ => some (.client, id)
  | clientSourceShutdown id => some (.client, id)
  | clientDestinationShutdown id => some (.client, id)
  | clientConnectionFinished id _ _ _ => some (.client, id)
  | newSandstormConnectionAccepted id _ => some (.sandstorm, id)
  | sandstormRequestedUnsupportedVersion id _ => some (.sandstorm, id)
  | sandstormAuthenticatedAs id _ _ => some (.sandstorm, id)
  | newSocksSocketRequestedByManager id _ => some (.sandstorm, id)
  | removeSocksSocketRequestedByManager id _ => some (.sandstorm, id)
  | newSandstormSocketRequestedByManager id _ => some (.sandstorm, id)
  | removeSandstormSocketRequestedByManager id _ => some (.sandstorm, id)
  | userRegisteredByManager id _ _ => some (.sandstorm, id)
  | userUpdatedByManager id _ _ _ => some (.sandstorm, id)
  | userDeletedByManager id _ _ => some (.sandstorm, id)
  | authMethodToggledByManager id _ _ => some (.sandstorm, id)
  | bufferSizeChangedByManager id _ => some (.sandstorm, id)
  | sandstormRequestedShutdown id => some (.sandstorm, id)
  | sandstormConnectionFinished id _ => some (.sandstorm, id)
  | _ => none

/-- The connection's task sends the event before it finishes. -/
def EventData.Within (connection : ConnectionKind × ℕ) (event : EventData) : Prop :=
  event.connection = some connection ∧ event.accepted = none ∧ event.finished = none

instance (connection : ConnectionKind × ℕ) (event : EventData) :
    Decidable (event.Within connection) :=
  inferInstanceAs (Decidable (_ ∧ _ ∧ _))

/-! ## The sockets -/

/-- A `TcpListener`, by its `local_addr().ok()`. -/
structure Listener where
  localAddr : Option SocketAddr
  deriving DecidableEq, Repr

namespace ConnectionKind

def newSocket : ConnectionKind → SocketAddr → EventData
  | client => .newSocks5Socket
  | sandstorm => .newSandstormSocket

def failedBind : ConnectionKind → SocketAddr → IoError → EventData
  | client => .failedBindSocks5Socket
  | sandstorm => .failedBindSandstormSocket

def removedSocket : ConnectionKind → SocketAddr → EventData
  | client => .removedSocks5Socket
  | sandstorm => .removedSandstormSocket

def newConnection : ConnectionKind → ℕ → SocketAddr → EventData
  | client => .newClientConnectionAccepted
  | sandstorm => .newSandstormConnectionAccepted

end ConnectionKind

section Sockets

/-- `accept_from_any`, given what polling each of the listeners answers: the first that is ready,
if there is one. -/
def acceptFromAny :
    List Listener → List (Poll (Except IoError SocketAddr)) →
      Option (Except (Listener × IoError) SocketAddr)
  | _ :: listeners, .pending :: polls => acceptFromAny listeners polls
  | _ :: _, .ready (.ok address) :: _ => some (.ok address)
  | listener :: _, .ready (.error e) :: _ => some (.error (listener, e))
  | _, _ => none

/-- `bind_socks_sockets` and `bind_sandstorm_sockets`, given what each of the binds answers. -/
def bindSockets (kind : ConnectionKind) :
    List (SocketAddr × Except IoError Listener) → List Listener × List EventData
  | [] => ([], [])
  | (address, .ok result) :: binds =>
    let (listeners, events) := bindSockets kind binds
    (result :: listeners, kind.newSocket address :: events)
  | (address, .error e) :: binds =>
    let (listeners, events) := bindSockets kind binds
    (listeners, kind.failedBind address e :: events)

/-- What the main loop answers to a message, its lists of addresses as an `α`. -/
inductive MainAnswer (α : Type) where
  | shutdown
  | sockets (addresses : α)
  | added (result : Except IoError Unit)
  | removed (response : RemoveSocketResponse)

def MainAnswer.map {α β : Type} (f : α → β) : MainAnswer α → MainAnswer β
  | shutdown => shutdown
  | sockets addresses => sockets (f addresses)
  | added result => added result
  | removed response => removed response

def portZero : IoError := ⟨.invalidData, "The port may not be zero".toList⟩

def localAddrs (listeners : List Listener) : List SocketAddr :=
  listeners.filterMap Listener.localAddr

/-- `AddSocks5Socket` and `AddSandstormSocket`, given what the bind answers if it is made. -/
def addSocket (kind : ConnectionKind) (address : SocketAddr) (bind : Except IoError Listener)
    (listeners : List Listener) : List Listener × List EventData × MainAnswer (List SocketAddr) :=
  if address.port = 0 then (listeners, [], .added (.error portZero))
  else
    match bind with
    | .ok result => (listeners ++ [result], [kind.newSocket address], .added (.ok ()))
    | .error e => (listeners, [kind.failedBind address e], .added (.error e))

/-- `RemoveSocks5Socket` and `RemoveSandstormSocket`. -/
def removeSocket (kind : ConnectionKind) (address : SocketAddr) (listeners : List Listener) :
    List Listener × List EventData × MainAnswer (List SocketAddr) :=
  match listeners.findIdx? fun l => l.localAddr = some address with
  | some listenerIndex =>
    (swapRemove listeners listenerIndex, [kind.removedSocket address], .removed .ok)
  | none => (listeners, [], .removed .socketNotFound)

end Sockets

/-! ## The loop -/

/-- Where `run_server_inner` is. -/
inductive MainPoint where
  /-- In the `select!`. -/
  | selecting
  | answering (message : MessageType) (answer : MainAnswer (List SocketAddr))
  | exited
  | saving
  | done

structure Server where
  usersFile : Str
  listeners : ConnectionKind → List Listener
  idCounter : ConnectionKind → ℕ
  /-- The connections whose tasks run. -/
  running : ConnectionKind × ℕ → Bool
  /-- The messages that the loop has yet to receive. -/
  channel : List MessageType
  /-- Those that it has received, each with what a bind for it has answered or would have. -/
  received : List (MessageType × Except IoError Listener)
  answers : List (MainAnswer (List SocketAddr))
  events : List EventData
  point : MainPoint
  cancelled : Bool

inductive ServerAction where
  | accept (kind : ConnectionKind) (polls : List (Poll (Except IoError SocketAddr)))
  /-- The loop receives a message; should it bind a socket for it, this is what the bind answers. -/
  | receive (bind : Except IoError Listener)
  | answer
  | interrupt
  /-- The receiver and the listeners are dropped, the tasks' tokens are cancelled, and the users are
  about to be saved. -/
  | cancel
  | saved (result : Except IoError ℕ)
  | log (connection : ConnectionKind × ℕ) (event : EventData)
  | message (managerId : ℕ) (message : MessageType)
  | finish (connection : ConnectionKind × ℕ) (event : EventData)
  /-- A task whose token was cancelled ends. -/
  | stop (connection : ConnectionKind × ℕ)

/-- `MESSAGING_CHANNEL_SIZE`. -/
def messagingChannelSize : ℕ := 8

namespace Server

/-- A server that has loaded its users, with these events, and has bound its sockets. -/
def start (usersFile : Str) (usersEvents : List EventData)
    (socks sandstorm : List (SocketAddr × Except IoError Listener)) : Server :=
  let (socksListeners, socksEvents) := bindSockets .client socks
  let (sandstormListeners, sandstormEvents) := bindSockets .sandstorm sandstorm
  let events := .loadingUsersFromFile usersFile :: usersEvents ++ socksEvents
  if socksListeners = [] then
    ⟨usersFile, fun _ => [], fun _ => 1, fun _ => false, [], [], [],
      events ++ [.failedBindAnySocketAborting], .done, false⟩
  else
    ⟨usersFile, fun
      | .client => socksListeners
      | .sandstorm => sandstormListeners, fun _ => 1, fun _ => false, [], [], [],
      events ++ sandstormEvents, .selecting, false⟩

def send (s : Server) (events : List EventData) : Server := { s with events := s.events ++ events }

def setRunning (s : Server) (connection : ConnectionKind × ℕ) (running : Bool) : Server :=
  { s with running := Function.update s.running connection running }

def setListeners (s : Server) (kind : ConnectionKind) (listeners : List Listener) : Server :=
  { s with listeners := Function.update s.listeners kind listeners }

/-- A connection is accepted, and its task is spawned. -/
def spawn (s : Server) (kind : ConnectionKind) (address : SocketAddr) : Server :=
  { (s.send [kind.newConnection (s.idCounter kind) address]).setRunning (kind, s.idCounter kind)
      true with
    idCounter := Function.update s.idCounter kind (s.idCounter kind + 1) }

/-- An operation on a kind of sockets, for a message that is received. -/
def operate (s : Server) (message : MessageType) (kind : ConnectionKind)
    (result : List Listener × List EventData × MainAnswer (List SocketAddr)) : Server :=
  { (s.setListeners kind result.1).send result.2.1 with point := .answering message result.2.2 }

def listSockets (s : Server) (kind : ConnectionKind) :
    List Listener × List EventData × MainAnswer (List SocketAddr) :=
  (s.listeners kind, [], .sockets (localAddrs (s.listeners kind)))

/-- The match on a message, up to the sending of its answer. -/
def serve (s : Server) (message : MessageType) (bind : Except IoError Listener) : Server :=
  match message with
  | .shutdownRequest => { s with point := .answering message .shutdown }
  | .listSocks5Sockets => s.operate message .client (s.listSockets .client)
  | .addSocks5Socket address =>
    s.operate message .client (addSocket .client address bind (s.listeners .client))
  | .removeSocks5Socket address =>
    s.operate message .client (removeSocket .client address (s.listeners .client))
  | .listSandstormSockets => s.operate message .sandstorm (s.listSockets .sandstorm)
  | .addSandstormSocket address =>
    s.operate message .sandstorm (addSocket .sandstorm address bind (s.listeners .sandstorm))
  | .removeSandstormSocket address =>
    s.operate message .sandstorm (removeSocket .sandstorm address (s.listeners .sandstorm))

/-- The next state after the action, if it can happen. -/
def step (s : Server) : ServerAction → Option Server
  | .accept kind polls =>
    match s.point, acceptFromAny (s.listeners kind) polls with
    | .selecting, some (.ok address) => some (s.spawn kind address)
    -- The same event for both kinds, as the source has it.
    | .selecting, some (.error (listener, e)) =>
      some (s.send [.clientConnectionAcceptFailed listener.localAddr e])
    | _, _ => none
  | .receive bind =>
    match s.point, s.channel with
    | .selecting, message :: channel => some ({ s with
        channel := channel
        received := s.received ++ [(message, bind)] }.serve message bind)
    | _, _ => none
  | .answer =>
    match s.point with
    | .answering message answer => some { s with
        answers := s.answers ++ [answer]
        point := if message = .shutdownRequest then .exited else .selecting }
    | _ => none
  | .interrupt =>
    match s.point with
    | .selecting => some { s.send [.shutdownSignalReceived] with point := .exited }
    | _ => none
  | .cancel =>
    match s.point with
    | .exited => some { s.send [.savingUsersToFile s.usersFile] with
        listeners := fun _ => []
        point := .saving
        cancelled := true }
    | _ => none
  | .saved result =>
    match s.point with
    | .saving => some { s.send [.usersSavedToFile s.usersFile result] with point := .done }
    | _ => none
  | .log connection event =>
    if s.running connection ∧ event.Within connection then some (s.send [event]) else none
  | .message managerId message =>
    if s.running (.sandstorm, managerId) then
      -- Without its receiver the channel takes no messages.
      if s.cancelled then some s
      else if s.channel.length < messagingChannelSize then
        some { s with channel := s.channel ++ [message] }
      else none
    else none
  | .finish connection event =>
    if s.running connection ∧ event.connection = some connection
        ∧ event.finished = some connection then
      some ((s.send [event]).setRunning connection false)
    else none
  | .stop connection =>
    if s.running connection ∧ s.cancelled then some (s.setRunning connection false) else none

end Server

end DustDevil
