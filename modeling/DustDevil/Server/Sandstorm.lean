import DustDevil.Lib.Conn
import DustDevil.Server.Context

/-!
# A Sandstorm connection

`sandstorm/mod.rs` and `request_handler.rs`: the handshake and the task that reads requests and runs
their commands, which tells the task that writes the responses what to answer through a
`ResponseNotification`. The connection's context holds the server's state, which here only the
connection's own commands change. The receivers for answers of the main loop are left out.
-/

namespace DustDevil

open Wire

inductive ResponseNotification where
  | shutdown
  | logEventConfig (enabled : Bool)
  | listSocks5Sockets
  | addSocks5Socket
  | removeSocks5Socket
  | listSandstormSockets
  | addSandstormSocket
  | removeSandstormSocket
  | listUsers (snapshot : Multiset (Str × UserRole))
  | addUser (result : AddUserResponse)
  | updateUser (result : UpdateUserResponse)
  | deleteUser (result : DeleteUserResponse)
  | listAuthMethods (authMethods : List (AuthMethod × Bool))
  | toggleAuthMethod (result : Bool)
  /-- Whether there is a receiver. -/
  | requestCurrentMetrics (maybeReceiver : Bool)
  | getBufferSize (bufferSize : UInt32)
  | setBufferSize (result : Bool)
  | meow

/-- What a connection meets outside the server, given how many effects it has had. -/
structure SandstormEnv where
  writeStatus : Except IoError Unit
  notifierOpen : ℕ → Bool
  metricsOpen : ℕ → Bool

/-- What a connection does, in order. `handleRequests` and `runCommand` mark the calls of those
functions. -/
inductive SandstormEffect where
  | log (event : EventData)
  | write (bytes : List UInt8)
  | shutdown
  | handleRequests
  | runCommand (command : SandstormCommandType)
  | message (message : MessageType)
  | requestMetrics
  | notify (notification : ResponseNotification)

abbrev SandstormConn (ρ : Type) : Type := Conn ρ SandstormContext SandstormEffect

section Commands

variable {ρ α ε : Type} [AsyncRead ρ] (env : SandstormEnv)

/-- `response_notifier.send(notification).await.map_err_to_io()?`. -/
def notify (notification : ResponseNotification) : Proc (SandstormConn ρ) IoError Unit := do
  let conn ← .get
  Conn.perform [.notify notification]
  if env.notifierOpen conn.effects.length then pure ()
  else .throw ⟨.other, "Response notifier closed".toList⟩

def askMainLoop (operation : SandstormContext → MessageType × List EventData) :
    Proc (SandstormConn ρ) IoError Unit := do
  let conn ← .get
  let (message, events) := operation conn.state
  Conn.perform (events.map .log ++ [.message message])

def operate (operation : SandstormContext → α × ServerState × List EventData) :
    Proc (SandstormConn ρ) IoError α := do
  let conn ← .get
  let (answer, state, events) := operation conn.state
  .modify fun conn => { conn with state := { conn.state with state := state } }
  Conn.perform (events.map .log)
  pure answer

/-- `SandstormContext::request_metrics`: whether it gives a receiver. -/
def requestMetrics : Proc (SandstormConn ρ) IoError Bool := do
  let conn ← .get
  if conn.state.state.metricsEnabled then do
    Conn.perform [.requestMetrics]
    pure (env.metricsOpen conn.effects.length)
  else pure false

/-- An arm of `run_command`: the request is read, acted on and answered. -/
def answerRequest [ByteRead α] (act : α → Proc (SandstormConn ρ) IoError ResponseNotification) :
    Proc (SandstormConn ρ) IoError Unit := do
  let request ← Conn.read ByteRead.read
  let notification ← act request
  notify env notification

def passOn [ByteRead α] (operation : α → SandstormContext → MessageType × List EventData)
    (notification : ResponseNotification) : Proc (SandstormConn ρ) IoError Unit :=
  answerRequest env fun request : α => do
    askMainLoop (operation request)
    pure notification

def runCommand (command : SandstormCommandType) : Proc (SandstormConn ρ) IoError Unit := do
  Conn.perform [.runCommand command]
  match command with
  | .shutdown =>
    passOn env (fun (_ : ShutdownRequest) cx => cx.requestShutdown) .shutdown
  | .eventStreamConfig =>
    answerRequest env fun request : EventStreamConfigRequest => pure (.logEventConfig request)
  | .listSocks5Sockets =>
    passOn env (fun (_ : ListSocks5SocketsRequest) _ => SandstormContext.listSocks5Sockets)
      .listSocks5Sockets
  | .addSocks5Socket =>
    passOn env (fun (request : AddSocks5SocketRequest) cx => cx.addSocks5Socket request)
      .addSocks5Socket
  | .removeSocks5Socket =>
    passOn env (fun (request : RemoveSocks5SocketRequest) cx => cx.removeSocks5Socket request)
      .removeSocks5Socket
  | .listSandstormSockets =>
    passOn env (fun (_ : ListSandstormSocketsRequest) _ => SandstormContext.listSandstormSockets)
      .listSandstormSockets
  | .addSandstormSocket =>
    passOn env (fun (request : AddSandstormSocketRequest) cx => cx.addSandstormSocket request)
      .addSandstormSocket
  | .removeSandstormSocket =>
    passOn env (fun (request : RemoveSandstormSocketRequest) cx =>
      cx.removeSandstormSocket request) .removeSandstormSocket
  | .listUsers =>
    answerRequest env fun _ : ListUsersRequest => do
      let conn ← .get
      pure (.listUsers conn.state.getUsersSnapshot)
  | .addUser =>
    answerRequest env fun request : AddUserRequest => do
      let result ← operate fun cx => cx.addUser request.username request.password request.role
      pure (.addUser result)
  | .updateUser =>
    answerRequest env fun request : UpdateUserRequest => do
      let result ← operate fun cx => cx.updateUser request.username request.password request.role
      pure (.updateUser result)
  | .deleteUser =>
    answerRequest env fun request : DeleteUserRequest => do
      let result ← operate fun cx => cx.deleteUser request.username
      pure (.deleteUser result)
  | .listAuthMethods =>
    answerRequest env fun _ : ListAuthMethodsRequest => do
      let conn ← .get
      pure (.listAuthMethods conn.state.getAuthMethods)
  | .toggleAuthMethod =>
    answerRequest env fun request : ToggleAuthMethodRequest => do
      let result ← operate fun cx => cx.toggleAuthMethod request.authMethod request.state
      pure (.toggleAuthMethod result)
  | .requestCurrentMetrics =>
    answerRequest env fun _ : CurrentMetricsRequest => do
      let receiver ← requestMetrics env
      pure (.requestCurrentMetrics receiver)
  | .getBufferSize =>
    answerRequest env fun _ : GetBufferSizeRequest => do
      let conn ← .get
      pure (.getBufferSize conn.state.getBufferSize)
  | .setBufferSize =>
    answerRequest env fun request : SetBufferSizeRequest => do
      let result ← operate fun cx => cx.setBufferSize request
      pure (.setBufferSize result)
  | .meow => answerRequest env fun _ : MeowRequest => pure .meow
  | .eventStream =>
    .throw ⟨.unsupported, ("Unsupported or invalid sandstorm command "
      ++ command.debug).toList⟩

/-- `handle_requests`, with `fuel` rounds of its loop. -/
def handleRequests : ℕ → Proc (SandstormConn ρ) IoError Unit
  | 0 => .stop .running
  | fuel + 1 => do
    let command ← (Conn.read (ByteRead.read : Proc ρ IoError SandstormCommandType)).attempt
    match command with
    | .ok command => do
      runCommand env command
      handleRequests fuel
    | .error e => if e.kind = .unexpectedEof then pure () else .throw e

end Commands

section Handshake

variable {ρ : Type} [AsyncRead ρ] (env : SandstormEnv)

def logSandstorm (event : ℕ → EventData) : Proc (SandstormConn ρ) IoError Unit := do
  let conn ← .get
  Conn.perform ((conn.state.log (event conn.state.managerId)).map .log)

def writeStatus (status : SandstormHandshakeStatus) : Proc (SandstormConn ρ) IoError Unit := do
  Conn.perform [.write [status.intoU8]]
  .ofExcept env.writeStatus

def handshakeStatus : Option Bool → SandstormHandshakeStatus
  | some true => .ok
  | some false => .permissionDenied
  | none => .invalidUsernameOrPassword

/-- `handle_sandstorm_inner`, with `fuel` rounds of `handle_requests`. -/
def handleSandstormInner (fuel : ℕ) : Proc (SandstormConn ρ) IoError Unit := do
  let handshake ← (Conn.read SandstormHandshake.readWithVersionCheck).attempt
  match handshake with
  | .error (.io e) => .throw e
  | .error (.invalidVersion ver) => do
    logSandstorm fun managerId => .sandstormRequestedUnsupportedVersion managerId ver
    writeStatus env .unsupportedVersion
    Conn.perform [.shutdown]
  | .ok handshake => do
    let conn ← .get
    let success := conn.state.tryLogin handshake.username handshake.password
    logSandstorm fun managerId =>
      .sandstormAuthenticatedAs managerId handshake.username (success = some true)
    writeStatus env (handshakeStatus success)
    Conn.perform [.handleRequests]
    handleRequests env fuel

end Handshake

end DustDevil
