import Mathlib.Logic.Function.Basic
import DustDevil.Core.Responses
import DustDevil.Lib.Conn

/-!
# The client's request manager

The client's `sandstorm.rs`: a manager's requests, each of which leaves a handler for its response,
and the task that reads the server's messages and gives each response to a handler. A handler, an
event receiver and the notifier of a flush are numbers that tell them apart, and the handler queues
are one function of the command type.
-/

namespace DustDevil

open Wire

structure ResponseHandlers where
  remaining : ℕ
  wasShutdown : Bool
  flushNotifier : Option ℕ
  /-- The handlers of each command. The source has no queue for `EventStream`. -/
  queue : SandstormCommandType → List ℕ

namespace ResponseHandlers

def new : ResponseHandlers := ⟨0, false, none, fun _ => []⟩

def setQueue (handlers : ResponseHandlers) (command : SandstormCommandType) (queue : List ℕ) :
    ResponseHandlers :=
  { handlers with queue := Function.update handlers.queue command queue }

/-- `push_back(handler)` and `remaining += 1`. -/
def push (handlers : ResponseHandlers) (command : SandstormCommandType) (handler : ℕ) :
    ResponseHandlers :=
  { handlers.setQueue command (handlers.queue command ++ [handler]) with
    remaining := handlers.remaining + 1 }

def setShutdown (handlers : ResponseHandlers) : ResponseHandlers :=
  { handlers with wasShutdown := true }

/-- The end of `reader_task_inner`, once the stream has ended. -/
def finish (handlers : ResponseHandlers) : Except IoError Unit :=
  if handlers.wasShutdown then
    if handlers.remaining = 0 then .ok ()
    else if handlers.remaining = (handlers.queue .shutdown).length then .ok ()
    else .error ⟨.unexpectedEof,
      "The server closed the connection before answering all the requests".toList⟩
  else .error ⟨.connectionReset, "The server closed unexpectedly".toList⟩

end ResponseHandlers

/-! ## The requests -/

structure SandstormRequestManager where
  writer : Sink
  handlers : ResponseHandlers

namespace SandstormRequestManager

def onWriter (write : Proc Sink IoError Unit) : Proc SandstormRequestManager IoError Unit :=
  write.zoom SandstormRequestManager.writer fun manager writer => { manager with writer := writer }

def modifyHandlers (f : ResponseHandlers → ResponseHandlers) :
    Proc SandstormRequestManager IoError Unit :=
  .modify fun manager => { manager with handlers := f manager.handlers }

/-- The handler is left in the command's queue, and then the request is written. -/
def requestFn (command : SandstormCommandType) (write : Proc Sink IoError Unit) (f : ℕ) :
    Proc SandstormRequestManager IoError Unit := do
  modifyHandlers fun handlers => handlers.push command f
  onWriter write

def shutdownFn (f : ℕ) : Proc SandstormRequestManager IoError Unit := do
  modifyHandlers fun handlers => (handlers.push .shutdown f).setShutdown
  onWriter ShutdownRequest.write

def eventStreamConfigFn (status : Bool) :=
  requestFn .eventStreamConfig (EventStreamConfigRequest.write status)

def listSocks5SocketsFn := requestFn .listSocks5Sockets ListSocks5SocketsRequest.write

def addSocks5SocketFn (address : SocketAddr) :=
  requestFn .addSocks5Socket (AddSocks5SocketRequest.write address)

def removeSocks5SocketFn (address : SocketAddr) :=
  requestFn .removeSocks5Socket (RemoveSocks5SocketRequest.write address)

def listSandstormSocketsFn := requestFn .listSandstormSockets ListSandstormSocketsRequest.write

def addSandstormSocketFn (address : SocketAddr) :=
  requestFn .addSandstormSocket (AddSandstormSocketRequest.write address)

def removeSandstormSocketFn (address : SocketAddr) :=
  requestFn .removeSandstormSocket (RemoveSandstormSocketRequest.write address)

def listUsersFn := requestFn .listUsers ListUsersRequest.write

def addUserFn (username password : Str) (role : UserRole) :=
  requestFn .addUser (AddUserRequestRef.write ⟨username, password, role⟩)

def updateUserFn (username : Str) (password : Option Str) (role : Option UserRole) :=
  requestFn .updateUser (UpdateUserRequestRef.write ⟨username, password, role⟩)

def deleteUserFn (username : Str) := requestFn .deleteUser (DeleteUserRequestRef.write ⟨username⟩)

def listAuthMethodsFn := requestFn .listAuthMethods ListAuthMethodsRequest.write

def toggleAuthMethodFn (authMethod : AuthMethod) (status : Bool) :=
  requestFn .toggleAuthMethod (ToggleAuthMethodRequest.write ⟨authMethod, status⟩)

def getMetricsFn := requestFn .requestCurrentMetrics CurrentMetricsRequest.write

def getBufferSizeFn := requestFn .getBufferSize GetBufferSizeRequest.write

def setBufferSizeFn (bufferSize : UInt32) :=
  requestFn .setBufferSize (SetBufferSizeRequest.write bufferSize)

def meowFn := requestFn .meow MeowRequest.write

end SandstormRequestManager

open SandstormRequestManager in
/-- The manager's method for the request, given the handler `f`. -/
def ClientRequest.call : ClientRequest → ℕ → Proc SandstormRequestManager IoError Unit
  | shutdown => shutdownFn
  | eventStreamConfig request => eventStreamConfigFn request
  | listSocks5Sockets => listSocks5SocketsFn
  | addSocks5Socket request => addSocks5SocketFn request
  | removeSocks5Socket request => removeSocks5SocketFn request
  | listSandstormSockets => listSandstormSocketsFn
  | addSandstormSocket request => addSandstormSocketFn request
  | removeSandstormSocket request => removeSandstormSocketFn request
  | listUsers => listUsersFn
  | addUser request => addUserFn request.username request.password request.role
  | updateUser request => updateUserFn request.username request.password request.role
  | deleteUser request => deleteUserFn request.username
  | listAuthMethods => listAuthMethodsFn
  | toggleAuthMethod request => toggleAuthMethodFn request.authMethod request.state
  | requestCurrentMetrics => getMetricsFn
  | getBufferSize => getBufferSizeFn
  | setBufferSize request => setBufferSizeFn request
  | meow => meowFn

/-- What that method does to the handlers before it writes. -/
def ClientRequest.register : ClientRequest → ℕ → ResponseHandlers → ResponseHandlers
  | shutdown, f, handlers => (handlers.push .shutdown f).setShutdown
  | request, f, handlers => handlers.push request.command f

/-- `flush_and_wait` once the writer is flushed: whether it returns at once, or else waits for its
notifier. -/
def ResponseHandlers.flushAndWait (handlers : ResponseHandlers) (notifier : ℕ) :
    Bool × ResponseHandlers :=
  if handlers.remaining ≠ 0 then (false, { handlers with flushNotifier := some notifier })
  else (true, handlers)

/-- A call, or whatever else changes the handlers between two calls: the task that reads, or a
flush. -/
inductive ManagerStep where
  | call (request : ClientRequest) (f : ℕ)
  | others (handlers : ResponseHandlers)

/-- A call that was made. -/
structure CallRecord where
  request : ClientRequest
  before : SandstormRequestManager
  result : Except (Stop IoError) Unit
  after : SandstormRequestManager

/-- The calls that are made in these steps, and the manager that they leave. -/
def runCalls (manager : SandstormRequestManager) :
    List ManagerStep → List CallRecord × SandstormRequestManager
  | [] => ([], manager)
  | .call request f :: steps =>
    let (result, after) := request.call f manager
    let (records, final) := runCalls after steps
    (⟨request, manager, result, after⟩ :: records, final)
  | .others handlers :: steps => runCalls { manager with handlers := handlers } steps

/-! ## The task that reads -/

inductive EventStreamReceiver where
  | function (f : ℕ)
  | channel (s : ℕ)
  deriving DecidableEq, Repr

/-- What the reading task's surroundings decide: the receiver that a handler of an
`EventStreamConfig` response returns, and whether a channel still takes an event, given how many
effects there have been. -/
structure ReaderEnv where
  receiver : ℕ → EventStreamConfigResponse → Option EventStreamReceiver
  channelOpen : ℕ → Bool

structure ReaderState where
  handlers : ResponseHandlers
  eventStreamSender : Option EventStreamReceiver

/-- What the reading task does. `received` marks a message that has been read. -/
inductive ReaderEffect where
  | received (message : ServerMessage)
  | handle (f : ℕ) (message : ServerMessage)
  | event (receiver : EventStreamReceiver) (event : Event)
  | flushed (notifier : ℕ)

abbrev ReaderConn (ρ : Type) : Type := Conn ρ ReaderState ReaderEffect

section Reader

variable {ρ α : Type} [AsyncRead ρ] (env : ReaderEnv)

def setHandlers (handlers : ResponseHandlers) : Proc (ReaderConn ρ) IoError Unit :=
  .modify fun conn => { conn with state := { conn.state with handlers := handlers } }

def setSender (sender : Option EventStreamReceiver) : Proc (ReaderConn ρ) IoError Unit :=
  .modify fun conn => { conn with state := { conn.state with eventStreamSender := sender } }

/-- The `pop_front` of an arm and its `remaining -= 1`. -/
def takeHandler (command : SandstormCommandType) : Proc (ReaderConn ρ) IoError ℕ := do
  let conn ← .get
  let handlers := conn.state.handlers
  match handlers.queue command with
  | f :: queue => do
    setHandlers (handlers.setQueue command queue)
    if handlers.remaining = 0 then .stop .panic
    else do
      setHandlers { handlers.setQueue command queue with remaining := handlers.remaining - 1 }
      pure f
  | [] => .throw (invalidData ("Received unexpected " ++ command.debug ++ " response"))

/-- The response goes to the first handler of its command. -/
def giveToHandler (message : ServerMessage) : Proc (ReaderConn ρ) IoError ℕ := do
  let f ← takeHandler message.command
  Conn.perform [.handle f message]
  pure f

def streamEvent (event : Event) : Proc (ReaderConn ρ) IoError Unit := do
  let conn ← .get
  match conn.state.eventStreamSender with
  | some (.function f) => Conn.perform [.event (.function f) event]
  | some (.channel s) =>
    if env.channelOpen conn.effects.length then Conn.perform [.event (.channel s) event]
    else setSender none
  | none => pure ()

/-- What the arm of a message does with it once it is read. -/
def deliver : ServerMessage → Proc (ReaderConn ρ) IoError Unit
  | .eventStream event => streamEvent env event
  | .eventStreamConfig result => do
    let f ← giveToHandler (.eventStreamConfig result)
    setSender (env.receiver f result)
  | message => do
    let _ ← giveToHandler message
    pure ()

/-- An arm: the message is read, and delivered. -/
def readAndDeliver [ByteRead α] (message : α → ServerMessage) :
    Proc (ReaderConn ρ) IoError Unit := do
  let result ← Conn.read ByteRead.read
  Conn.perform [.received (message result)]
  deliver env (message result)

def readerArm : SandstormCommandType → Proc (ReaderConn ρ) IoError Unit
  | .shutdown => readAndDeliver env fun _ : ShutdownResponse => .shutdown
  | .eventStreamConfig => readAndDeliver env .eventStreamConfig
  | .eventStream => readAndDeliver env .eventStream
  | .listSocks5Sockets => readAndDeliver env .listSocks5Sockets
  | .addSocks5Socket => readAndDeliver env .addSocks5Socket
  | .removeSocks5Socket => readAndDeliver env .removeSocks5Socket
  | .listSandstormSockets => readAndDeliver env .listSandstormSockets
  | .addSandstormSocket => readAndDeliver env .addSandstormSocket
  | .removeSandstormSocket => readAndDeliver env .removeSandstormSocket
  | .listUsers => readAndDeliver env .listUsers
  | .addUser => readAndDeliver env .addUser
  | .updateUser => readAndDeliver env .updateUser
  | .deleteUser => readAndDeliver env .deleteUser
  | .listAuthMethods => readAndDeliver env .listAuthMethods
  | .toggleAuthMethod => readAndDeliver env .toggleAuthMethod
  | .requestCurrentMetrics => readAndDeliver env .requestCurrentMetrics
  | .getBufferSize => readAndDeliver env .getBufferSize
  | .setBufferSize => readAndDeliver env .setBufferSize
  | .meow => readAndDeliver env fun _ : MeowResponse => .meow

/-- The end of a round of the loop: with nothing remaining, a flush that waits is told. -/
def notifyFlush : Proc (ReaderConn ρ) IoError Unit := do
  let conn ← .get
  let handlers := conn.state.handlers
  if handlers.remaining = 0 then
    match handlers.flushNotifier with
    | some sender => do
      setHandlers { handlers with flushNotifier := none }
      Conn.perform [.flushed sender]
    | none => pure ()
  else pure ()

/-- A round of the loop, once its message is read. -/
def receive (message : ServerMessage) : Proc (ReaderConn ρ) IoError Unit := do
  Conn.perform [.received message]
  deliver env message
  notifyFlush

def readerLoop : ℕ → Proc (ReaderConn ρ) IoError Unit
  | 0 => .stop .running
  | fuel + 1 => do
    let command ← (Conn.read ByteRead.read).attempt
    match command with
    | .ok command => do
      readerArm env command
      notifyFlush
      readerLoop fuel
    | .error e => if e.kind = .unexpectedEof then pure () else .throw e

/-- What is left to do once the stream has ended. -/
def readerEnd : Proc (ReaderConn ρ) IoError Unit := do
  let conn ← .get
  .ofExcept conn.state.handlers.finish

def readerTaskInner (fuel : ℕ) : Proc (ReaderConn ρ) IoError Unit := do
  readerLoop env fuel
  readerEnd

end Reader

end DustDevil
