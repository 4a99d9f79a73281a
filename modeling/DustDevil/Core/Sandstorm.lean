import DustDevil.Core.Serialize

/-!
# The Sandstorm protocol

The handshake, the command types and the client's requests, from `dust_devil_core::sandstorm`. A
request's own bytes come after its command type byte. A request that is one value and nothing more
is that value's type, and a request without any is `Unit`.
-/

namespace DustDevil

open Wire

section Handshake

/-- A Sandstorm handshake client request, implicitly version 1. -/
structure SandstormHandshake where
  username : Str
  password : Str
  deriving DecidableEq, Repr

/-- A borrowed version of `SandstormHandshake`. -/
structure SandstormHandshakeRef where
  username : Str
  password : Str
  deriving DecidableEq, Repr

def SandstormHandshake.asRef (handshake : SandstormHandshake) : SandstormHandshakeRef :=
  ⟨handshake.username, handshake.password⟩

instance : ByteWrite SandstormHandshakeRef where
  write handshake := ByteWrite.write
    ((0x01 : UInt8), SmallWriteString.mk handshake.username,
      SmallWriteString.mk handshake.password)

instance : ByteWrite SandstormHandshake := ⟨fun handshake => ByteWrite.write handshake.asRef⟩

inductive ParseHandshakeError where
  | invalidVersion (version : UInt8)
  | io (e : IoError)
  deriving DecidableEq, Repr

def SandstormHandshake.readWithVersionCheck {ρ : Type} [AsyncRead ρ] :
    Proc ρ ParseHandshakeError SandstormHandshake := do
  let version ← readU8.mapErr .io
  if version ≠ 1 then .throw (.invalidVersion version)
  else do
    let username ← (ByteRead.read : Proc ρ _ SmallReadString).mapErr .io
    let password ← (ByteRead.read : Proc ρ _ SmallReadString).mapErr .io
    pure ⟨username.val, password.val⟩

inductive SandstormHandshakeStatus where
  | ok
  | unsupportedVersion
  | invalidUsernameOrPassword
  | permissionDenied
  | unspecifiedError
  deriving DecidableEq, Repr

namespace SandstormHandshakeStatus

def fromU8 (value : UInt8) : Option SandstormHandshakeStatus :=
  if value = 0x00 then some .ok
  else if value = 0x01 then some .unsupportedVersion
  else if value = 0x02 then some .invalidUsernameOrPassword
  else if value = 0x03 then some .permissionDenied
  else none

def intoU8 : SandstormHandshakeStatus → UInt8
  | .ok => 0x00
  | .unsupportedVersion => 0x01
  | .invalidUsernameOrPassword => 0x02
  | .permissionDenied => 0x03
  | .unspecifiedError => 0xFF

end SandstormHandshakeStatus

instance : ByteRead SandstormHandshakeStatus where
  read := do
    let b ← readU8
    orInvalid "Invalid SandstormHandshakeStatus type byte" (SandstormHandshakeStatus.fromU8 b)
  refines := readU8_refines.bind fun _ => orInvalid_refines _ _

instance : ByteWrite SandstormHandshakeStatus := ⟨fun status => writeU8 status.intoU8⟩

end Handshake

section Commands

inductive SandstormCommandType where
  | shutdown | eventStreamConfig | eventStream | listSocks5Sockets | addSocks5Socket
  | removeSocks5Socket | listSandstormSockets | addSandstormSocket | removeSandstormSocket
  | listUsers | addUser | updateUser | deleteUser | listAuthMethods | toggleAuthMethod
  | requestCurrentMetrics | getBufferSize | setBufferSize | meow
  deriving DecidableEq, Repr

namespace SandstormCommandType

def intoU8 : SandstormCommandType → UInt8
  | .shutdown => 0x00
  | .eventStreamConfig => 0x01
  | .eventStream => 0x02
  | .listSocks5Sockets => 0x03
  | .addSocks5Socket => 0x04
  | .removeSocks5Socket => 0x05
  | .listSandstormSockets => 0x06
  | .addSandstormSocket => 0x07
  | .removeSandstormSocket => 0x08
  | .listUsers => 0x09
  | .addUser => 0x0A
  | .updateUser => 0x0B
  | .deleteUser => 0x0C
  | .listAuthMethods => 0x0D
  | .toggleAuthMethod => 0x0E
  | .requestCurrentMetrics => 0x0F
  | .getBufferSize => 0x10
  | .setBufferSize => 0x11
  | .meow => 0xFF

def fromU8 (value : UInt8) : Option SandstormCommandType :=
  if value = 0x00 then some .shutdown
  else if value = 0x01 then some .eventStreamConfig
  else if value = 0x02 then some .eventStream
  else if value = 0x03 then some .listSocks5Sockets
  else if value = 0x04 then some .addSocks5Socket
  else if value = 0x05 then some .removeSocks5Socket
  else if value = 0x06 then some .listSandstormSockets
  else if value = 0x07 then some .addSandstormSocket
  else if value = 0x08 then some .removeSandstormSocket
  else if value = 0x09 then some .listUsers
  else if value = 0x0A then some .addUser
  else if value = 0x0B then some .updateUser
  else if value = 0x0C then some .deleteUser
  else if value = 0x0D then some .listAuthMethods
  else if value = 0x0E then some .toggleAuthMethod
  else if value = 0x0F then some .requestCurrentMetrics
  else if value = 0x10 then some .getBufferSize
  else if value = 0x11 then some .setBufferSize
  else if value = 0xFF then some .meow
  else none

theorem fromU8_intoU8 (c : SandstormCommandType) : fromU8 c.intoU8 = some c := by
  cases c <;> rfl

/-- The name `{c:?}` prints. -/
def debug : SandstormCommandType → String
  | .shutdown => "Shutdown"
  | .eventStreamConfig => "EventStreamConfig"
  | .eventStream => "EventStream"
  | .listSocks5Sockets => "ListSocks5Sockets"
  | .addSocks5Socket => "AddSocks5Socket"
  | .removeSocks5Socket => "RemoveSocks5Socket"
  | .listSandstormSockets => "ListSandstormSockets"
  | .addSandstormSocket => "AddSandstormSocket"
  | .removeSandstormSocket => "RemoveSandstormSocket"
  | .listUsers => "ListUsers"
  | .addUser => "AddUser"
  | .updateUser => "UpdateUser"
  | .deleteUser => "DeleteUser"
  | .listAuthMethods => "ListAuthMethods"
  | .toggleAuthMethod => "ToggleAuthMethod"
  | .requestCurrentMetrics => "RequestCurrentMetrics"
  | .getBufferSize => "GetBufferSize"
  | .setBufferSize => "SetBufferSize"
  | .meow => "Meow"

end SandstormCommandType

instance : ByteRead SandstormCommandType where
  read := do
    let b ← readU8
    orInvalid "Invalid SandstormCommandType type byte" (SandstormCommandType.fromU8 b)
  refines := readU8_refines.bind fun _ => orInvalid_refines _ _

instance : ByteWrite SandstormCommandType := ⟨fun command => writeU8 command.intoU8⟩

end Commands

section Requests

abbrev ShutdownRequest := Unit

def ShutdownRequest.write : Proc Sink IoError Unit := ByteWrite.write SandstormCommandType.shutdown

abbrev EventStreamConfigRequest := Bool

def EventStreamConfigRequest.write (request : EventStreamConfigRequest) : Proc Sink IoError Unit :=
  ByteWrite.write (SandstormCommandType.eventStreamConfig, request)

abbrev ListSocks5SocketsRequest := Unit

def ListSocks5SocketsRequest.write : Proc Sink IoError Unit :=
  ByteWrite.write SandstormCommandType.listSocks5Sockets

abbrev AddSocks5SocketRequest := SocketAddr

def AddSocks5SocketRequest.write (request : AddSocks5SocketRequest) : Proc Sink IoError Unit :=
  ByteWrite.write (SandstormCommandType.addSocks5Socket, request)

abbrev RemoveSocks5SocketRequest := SocketAddr

def RemoveSocks5SocketRequest.write (request : RemoveSocks5SocketRequest) :
    Proc Sink IoError Unit :=
  ByteWrite.write (SandstormCommandType.removeSocks5Socket, request)

abbrev ListSandstormSocketsRequest := Unit

def ListSandstormSocketsRequest.write : Proc Sink IoError Unit :=
  ByteWrite.write SandstormCommandType.listSandstormSockets

abbrev AddSandstormSocketRequest := SocketAddr

def AddSandstormSocketRequest.write (request : AddSandstormSocketRequest) :
    Proc Sink IoError Unit :=
  ByteWrite.write (SandstormCommandType.addSandstormSocket, request)

abbrev RemoveSandstormSocketRequest := SocketAddr

def RemoveSandstormSocketRequest.write (request : RemoveSandstormSocketRequest) :
    Proc Sink IoError Unit :=
  ByteWrite.write (SandstormCommandType.removeSandstormSocket, request)

abbrev ListUsersRequest := Unit

def ListUsersRequest.write : Proc Sink IoError Unit :=
  ByteWrite.write SandstormCommandType.listUsers

structure AddUserRequest where
  username : Str
  password : Str
  role : UserRole
  deriving DecidableEq, Repr

instance : ByteRead AddUserRequest where
  read {ρ _} := do
    let username ← (ByteRead.read : Proc ρ _ SmallReadString)
    let password ← (ByteRead.read : Proc ρ _ SmallReadString)
    let role ← ByteRead.read
    pure ⟨username.val, password.val, role⟩
  refines := ByteRead.refines.bind fun _ => ByteRead.refines.bind fun _ =>
    ByteRead.refines.bind fun _ => .pure _

structure AddUserRequestRef where
  username : Str
  password : Str
  role : UserRole

def AddUserRequest.asRef (request : AddUserRequest) : AddUserRequestRef :=
  ⟨request.username, request.password, request.role⟩

def AddUserRequestRef.write (request : AddUserRequestRef) : Proc Sink IoError Unit :=
  ByteWrite.write (SandstormCommandType.addUser, SmallWriteString.mk request.username,
    SmallWriteString.mk request.password, request.role)

def AddUserRequest.write (request : AddUserRequest) : Proc Sink IoError Unit :=
  request.asRef.write

structure UpdateUserRequest where
  username : Str
  password : Option Str
  role : Option UserRole
  deriving DecidableEq, Repr

instance : ByteRead UpdateUserRequest where
  read {ρ _} := do
    let username ← (ByteRead.read : Proc ρ _ SmallReadString)
    let password ← (ByteRead.read : Proc ρ _ (Option SmallReadString))
    let role ← ByteRead.read
    pure ⟨username.val, password.map SmallReadString.val, role⟩
  refines := ByteRead.refines.bind fun _ => ByteRead.refines.bind fun _ =>
    ByteRead.refines.bind fun _ => .pure _

structure UpdateUserRequestRef where
  username : Str
  password : Option Str
  role : Option UserRole

def UpdateUserRequest.asRef (request : UpdateUserRequest) : UpdateUserRequestRef :=
  ⟨request.username, request.password, request.role⟩

def UpdateUserRequest.write (request : UpdateUserRequest) : Proc Sink IoError Unit :=
  ByteWrite.write (SandstormCommandType.updateUser, SmallWriteString.mk request.username,
    request.password.map SmallWriteString.mk, request.role)

def UpdateUserRequestRef.write (request : UpdateUserRequestRef) : Proc Sink IoError Unit :=
  ByteWrite.write (SandstormCommandType.updateUser, SmallWriteString.mk request.username,
    request.password.map SmallWriteString.mk, request.role)

structure DeleteUserRequest where
  username : Str
  deriving DecidableEq, Repr

instance : ByteRead DeleteUserRequest where
  read {ρ _} := do
    let username ← (ByteRead.read : Proc ρ _ SmallReadString)
    pure ⟨username.val⟩
  refines := ByteRead.refines.bind fun _ => .pure _

structure DeleteUserRequestRef where
  username : Str

def DeleteUserRequest.asRef (request : DeleteUserRequest) : DeleteUserRequestRef :=
  ⟨request.username⟩

def DeleteUserRequestRef.write (request : DeleteUserRequestRef) : Proc Sink IoError Unit :=
  ByteWrite.write (SandstormCommandType.deleteUser, SmallWriteString.mk request.username)

def DeleteUserRequest.write (request : DeleteUserRequest) : Proc Sink IoError Unit :=
  request.asRef.write

abbrev ListAuthMethodsRequest := Unit

def ListAuthMethodsRequest.write : Proc Sink IoError Unit :=
  ByteWrite.write SandstormCommandType.listAuthMethods

structure ToggleAuthMethodRequest where
  authMethod : AuthMethod
  state : Bool
  deriving DecidableEq, Repr

instance : ByteRead ToggleAuthMethodRequest where
  read := do
    let authMethod ← ByteRead.read
    let state ← ByteRead.read
    pure ⟨authMethod, state⟩
  refines := ByteRead.refines.bind fun _ => ByteRead.refines.bind fun _ => .pure _

def ToggleAuthMethodRequest.write (request : ToggleAuthMethodRequest) : Proc Sink IoError Unit :=
  ByteWrite.write (SandstormCommandType.toggleAuthMethod, request.authMethod, request.state)

abbrev CurrentMetricsRequest := Unit

def CurrentMetricsRequest.write : Proc Sink IoError Unit :=
  ByteWrite.write SandstormCommandType.requestCurrentMetrics

abbrev GetBufferSizeRequest := Unit

def GetBufferSizeRequest.write : Proc Sink IoError Unit :=
  ByteWrite.write SandstormCommandType.getBufferSize

abbrev SetBufferSizeRequest := UInt32

def SetBufferSizeRequest.write (request : SetBufferSizeRequest) : Proc Sink IoError Unit :=
  ByteWrite.write (SandstormCommandType.setBufferSize, request)

abbrev MeowRequest := Unit

def MeowRequest.write : Proc Sink IoError Unit := ByteWrite.write SandstormCommandType.meow

/-- Any request that a client can send. -/
inductive ClientRequest where
  | shutdown
  | eventStreamConfig (request : EventStreamConfigRequest)
  | listSocks5Sockets
  | addSocks5Socket (request : AddSocks5SocketRequest)
  | removeSocks5Socket (request : RemoveSocks5SocketRequest)
  | listSandstormSockets
  | addSandstormSocket (request : AddSandstormSocketRequest)
  | removeSandstormSocket (request : RemoveSandstormSocketRequest)
  | listUsers
  | addUser (request : AddUserRequest)
  | updateUser (request : UpdateUserRequest)
  | deleteUser (request : DeleteUserRequest)
  | listAuthMethods
  | toggleAuthMethod (request : ToggleAuthMethodRequest)
  | requestCurrentMetrics
  | getBufferSize
  | setBufferSize (request : SetBufferSizeRequest)
  | meow
  deriving DecidableEq, Repr

namespace ClientRequest

def command : ClientRequest → SandstormCommandType
  | shutdown => .shutdown
  | eventStreamConfig _ => .eventStreamConfig
  | listSocks5Sockets => .listSocks5Sockets
  | addSocks5Socket _ => .addSocks5Socket
  | removeSocks5Socket _ => .removeSocks5Socket
  | listSandstormSockets => .listSandstormSockets
  | addSandstormSocket _ => .addSandstormSocket
  | removeSandstormSocket _ => .removeSandstormSocket
  | listUsers => .listUsers
  | addUser _ => .addUser
  | updateUser _ => .updateUser
  | deleteUser _ => .deleteUser
  | listAuthMethods => .listAuthMethods
  | toggleAuthMethod _ => .toggleAuthMethod
  | requestCurrentMetrics => .requestCurrentMetrics
  | getBufferSize => .getBufferSize
  | setBufferSize _ => .setBufferSize
  | meow => .meow

def write : ClientRequest → Proc Sink IoError Unit
  | shutdown => ShutdownRequest.write
  | eventStreamConfig request => EventStreamConfigRequest.write request
  | listSocks5Sockets => ListSocks5SocketsRequest.write
  | addSocks5Socket request => AddSocks5SocketRequest.write request
  | removeSocks5Socket request => RemoveSocks5SocketRequest.write request
  | listSandstormSockets => ListSandstormSocketsRequest.write
  | addSandstormSocket request => AddSandstormSocketRequest.write request
  | removeSandstormSocket request => RemoveSandstormSocketRequest.write request
  | listUsers => ListUsersRequest.write
  | addUser request => request.write
  | updateUser request => request.write
  | deleteUser request => request.write
  | listAuthMethods => ListAuthMethodsRequest.write
  | toggleAuthMethod request => request.write
  | requestCurrentMetrics => CurrentMetricsRequest.write
  | getBufferSize => GetBufferSizeRequest.write
  | setBufferSize request => SetBufferSizeRequest.write request
  | meow => MeowRequest.write

/-- The write of the request's `Ref` type, where there is one. -/
def writeRef : ClientRequest → Proc Sink IoError Unit
  | addUser request => request.asRef.write
  | updateUser request => request.asRef.write
  | deleteUser request => request.asRef.write
  | request => request.write

end ClientRequest

end Requests

section Responses

inductive AddUserResponse where
  | ok
  | alreadyExists
  | invalidValues
  deriving DecidableEq, Repr

inductive UpdateUserResponse where
  | ok
  | userNotFound
  | cannotDeleteOnlyAdmin
  | nothingWasRequested
  deriving DecidableEq, Repr

inductive DeleteUserResponse where
  | ok
  | userNotFound
  | cannotDeleteOnlyAdmin
  deriving DecidableEq, Repr

end Responses

end DustDevil
