import DustDevil.Core.Logging
import DustDevil.Core.Sandstorm

/-!
# What the server sends

The responses of `dust_devil_core::sandstorm`. The write of a response begins with its command type
byte, which is not part of what is read back as the response. A response that is one value and
nothing more is that value's type, and a response without any is `Unit`.
-/

namespace DustDevil

open Wire

section Metrics

/-- A snapshot of metrics measured by the server about incoming connections, bytes sent, etc. -/
structure Metrics where
  currentClientConnections : UInt32
  historicClientConnections : UInt64
  clientBytesSent : UInt64
  clientBytesReceived : UInt64
  currentSandstormConnections : UInt32
  historicSandstormConnections : UInt64
  deriving DecidableEq, Repr

instance : ByteRead Metrics where
  read := do
    let currentClientConnections ← ByteRead.read
    let historicClientConnections ← ByteRead.read
    let clientBytesSent ← ByteRead.read
    let clientBytesReceived ← ByteRead.read
    let currentSandstormConnections ← ByteRead.read
    let historicSandstormConnections ← ByteRead.read
    pure ⟨currentClientConnections, historicClientConnections, clientBytesSent, clientBytesReceived,
      currentSandstormConnections, historicSandstormConnections⟩
  refines := ByteRead.refines.bind fun _ => ByteRead.refines.bind fun _ =>
    ByteRead.refines.bind fun _ => ByteRead.refines.bind fun _ => ByteRead.refines.bind fun _ =>
    ByteRead.refines.bind fun _ => .pure _

instance : ByteWrite Metrics where
  write metrics := do
    ByteWrite.write metrics.currentClientConnections
    ByteWrite.write metrics.historicClientConnections
    ByteWrite.write metrics.clientBytesSent
    ByteWrite.write metrics.clientBytesReceived
    ByteWrite.write metrics.currentSandstormConnections
    ByteWrite.write metrics.historicSandstormConnections

inductive EventStreamConfigResponse where
  /-- The event stream is now disabled. -/
  | disabled
  /-- The event stream is now enabled, with the metrics at that time. -/
  | enabled (metrics : Metrics)
  | wasAlreadyEnabled
  deriving DecidableEq, Repr

instance : ByteRead EventStreamConfigResponse where
  read := do
    let value ← readU8
    match value with
    | 0x00 => pure .disabled
    | 0x01 => do
      let metrics ← ByteRead.read
      pure (.enabled metrics)
    | 0x02 => pure .wasAlreadyEnabled
    | _ => .throw (invalidData "Invalid EventStreamConfigResponse type byte")
  refines := readU8_refines.bind fun t => by
    split
    · exact .pure _
    · exact ByteRead.refines.bind fun _ => .pure _
    · exact .pure _
    · exact .throw _

def EventStreamConfigResponse.typeByte : EventStreamConfigResponse → UInt8
  | disabled => 0x00
  | enabled _ => 0x01
  | wasAlreadyEnabled => 0x02

def EventStreamConfigResponse.write (response : EventStreamConfigResponse) :
    Proc Sink IoError Unit := do
  ByteWrite.write SandstormCommandType.eventStreamConfig
  writeU8 response.typeByte
  match response with
  | enabled metrics => ByteWrite.write metrics
  | _ => pure ()

abbrev CurrentMetricsResponse := Option Metrics

def CurrentMetricsResponse.write (response : CurrentMetricsResponse) : Proc Sink IoError Unit :=
  ByteWrite.write (SandstormCommandType.requestCurrentMetrics, response)

end Metrics

section Events

abbrev EventStreamResponse := Event

abbrev EventStreamResponseRef := Event

def EventStreamResponseRef.write (response : EventStreamResponseRef) : Proc Sink IoError Unit :=
  ByteWrite.write (SandstormCommandType.eventStream, response)

def EventStreamResponse.write (response : EventStreamResponse) : Proc Sink IoError Unit :=
  EventStreamResponseRef.write response

end Events

section Sockets

inductive RemoveSocketResponse where
  | ok
  | socketNotFound
  deriving DecidableEq, Repr

namespace RemoveSocketResponse

def fromU8 (value : UInt8) : Option RemoveSocketResponse :=
  if value = 0x00 then some .ok
  else if value = 0x01 then some .socketNotFound
  else none

def intoU8 : RemoveSocketResponse → UInt8
  | ok => 0x00
  | socketNotFound => 0x01

end RemoveSocketResponse

instance : ByteRead RemoveSocketResponse where
  read := do
    let b ← readU8
    orInvalid "Invalid RemoveSocketResponse type byte" (RemoveSocketResponse.fromU8 b)
  refines := readU8_refines.bind fun _ => orInvalid_refines _ _

instance : ByteWrite RemoveSocketResponse := ⟨fun response => writeU8 response.intoU8⟩

abbrev ListSocks5SocketsResponse := Vec SocketAddr

abbrev ListSocks5SocketsResponseRef := Vec SocketAddr

def ListSocks5SocketsResponseRef.write (response : ListSocks5SocketsResponseRef) :
    Proc Sink IoError Unit :=
  ByteWrite.write (SandstormCommandType.listSocks5Sockets, response)

def ListSocks5SocketsResponse.write (response : ListSocks5SocketsResponse) :
    Proc Sink IoError Unit :=
  ListSocks5SocketsResponseRef.write response

abbrev AddSocks5SocketResponse := Except IoError Unit

abbrev AddSocks5SocketResponseRef := Except IoError Unit

def AddSocks5SocketResponseRef.write (response : AddSocks5SocketResponseRef) :
    Proc Sink IoError Unit :=
  ByteWrite.write (SandstormCommandType.addSocks5Socket, response)

def AddSocks5SocketResponse.write (response : AddSocks5SocketResponse) : Proc Sink IoError Unit :=
  AddSocks5SocketResponseRef.write (response.map fun _ => ())

abbrev RemoveSocks5SocketResponse := RemoveSocketResponse

def RemoveSocks5SocketResponse.write (response : RemoveSocks5SocketResponse) :
    Proc Sink IoError Unit :=
  ByteWrite.write (SandstormCommandType.removeSocks5Socket, response)

abbrev ListSandstormSocketsResponse := Vec SocketAddr

abbrev ListSandstormSocketsResponseRef := Vec SocketAddr

def ListSandstormSocketsResponseRef.write (response : ListSandstormSocketsResponseRef) :
    Proc Sink IoError Unit :=
  ByteWrite.write (SandstormCommandType.listSandstormSockets, response)

def ListSandstormSocketsResponse.write (response : ListSandstormSocketsResponse) :
    Proc Sink IoError Unit :=
  ListSandstormSocketsResponseRef.write response

abbrev AddSandstormSocketResponse := Except IoError Unit

abbrev AddSandstormSocketResponseRef := Except IoError Unit

def AddSandstormSocketResponseRef.write (response : AddSandstormSocketResponseRef) :
    Proc Sink IoError Unit :=
  ByteWrite.write (SandstormCommandType.addSandstormSocket, response)

def AddSandstormSocketResponse.write (response : AddSandstormSocketResponse) :
    Proc Sink IoError Unit :=
  AddSandstormSocketResponseRef.write (response.map fun _ => ())

abbrev RemoveSandstormSocketResponse := RemoveSocketResponse

def RemoveSandstormSocketResponse.write (response : RemoveSandstormSocketResponse) :
    Proc Sink IoError Unit :=
  ByteWrite.write (SandstormCommandType.removeSandstormSocket, response)

end Sockets

section Users

abbrev ListUsersResponse := Vec (Str × UserRole)

abbrev ListUsersResponseRef := Vec (Str × UserRole)

def ListUsersResponseRef.write (response : ListUsersResponseRef) : Proc Sink IoError Unit :=
  ByteWrite.write (SandstormCommandType.listUsers, response)

def ListUsersResponse.write (response : ListUsersResponse) : Proc Sink IoError Unit :=
  ListUsersResponseRef.write response

namespace AddUserResponse

def fromU8 (value : UInt8) : Option AddUserResponse :=
  if value = 0x00 then some .ok
  else if value = 0x01 then some .alreadyExists
  else if value = 0x02 then some .invalidValues
  else none

def intoU8 : AddUserResponse → UInt8
  | ok => 0x00
  | alreadyExists => 0x01
  | invalidValues => 0x02

def write (response : AddUserResponse) : Proc Sink IoError Unit :=
  ByteWrite.write (SandstormCommandType.addUser, response.intoU8)

end AddUserResponse

instance : ByteRead AddUserResponse where
  read := do
    let b ← readU8
    orInvalid "Invalid AddUserResponse type byte" (AddUserResponse.fromU8 b)
  refines := readU8_refines.bind fun _ => orInvalid_refines _ _

namespace UpdateUserResponse

def fromU8 (value : UInt8) : Option UpdateUserResponse :=
  if value = 0x00 then some .ok
  else if value = 0x01 then some .userNotFound
  else if value = 0x02 then some .cannotDeleteOnlyAdmin
  else if value = 0x03 then some .nothingWasRequested
  else none

def intoU8 : UpdateUserResponse → UInt8
  | ok => 0x00
  | userNotFound => 0x01
  | cannotDeleteOnlyAdmin => 0x02
  | nothingWasRequested => 0x03

def write (response : UpdateUserResponse) : Proc Sink IoError Unit :=
  ByteWrite.write (SandstormCommandType.updateUser, response.intoU8)

end UpdateUserResponse

instance : ByteRead UpdateUserResponse where
  read := do
    let b ← readU8
    orInvalid "Invalid UpdateUserResponse type byte" (UpdateUserResponse.fromU8 b)
  refines := readU8_refines.bind fun _ => orInvalid_refines _ _

namespace DeleteUserResponse

def fromU8 (value : UInt8) : Option DeleteUserResponse :=
  if value = 0x00 then some .ok
  else if value = 0x01 then some .userNotFound
  else if value = 0x02 then some .cannotDeleteOnlyAdmin
  else none

def intoU8 : DeleteUserResponse → UInt8
  | ok => 0x00
  | userNotFound => 0x01
  | cannotDeleteOnlyAdmin => 0x02

def write (response : DeleteUserResponse) : Proc Sink IoError Unit :=
  ByteWrite.write (SandstormCommandType.deleteUser, response.intoU8)

end DeleteUserResponse

instance : ByteRead DeleteUserResponse where
  read := do
    let b ← readU8
    -- the source's own text, which names the other response
    orInvalid "Invalid UpdateUserResponse type byte" (DeleteUserResponse.fromU8 b)
  refines := readU8_refines.bind fun _ => orInvalid_refines _ _

end Users

section Others

structure ListAuthMethodsResponse where
  authMethods : List (AuthMethod × Bool)
  deriving DecidableEq, Repr

structure ListAuthMethodsResponseRef where
  authMethods : List (AuthMethod × Bool)

def ListAuthMethodsResponse.asRef (response : ListAuthMethodsResponse) :
    ListAuthMethodsResponseRef :=
  ⟨response.authMethods⟩

instance : ByteRead ListAuthMethodsResponse where
  read {ρ _} := do
    let list ← (ByteRead.read : Proc ρ _ (SmallReadList (AuthMethod × Bool)))
    pure ⟨list.val⟩
  refines := ByteRead.refines.bind fun _ => .pure _

def ListAuthMethodsResponseRef.write (response : ListAuthMethodsResponseRef) :
    Proc Sink IoError Unit :=
  ByteWrite.write (SandstormCommandType.listAuthMethods, SmallWriteList.mk response.authMethods)

def ListAuthMethodsResponse.write (response : ListAuthMethodsResponse) : Proc Sink IoError Unit :=
  response.asRef.write

abbrev ToggleAuthMethodResponse := Bool

def ToggleAuthMethodResponse.write (response : ToggleAuthMethodResponse) :
    Proc Sink IoError Unit :=
  ByteWrite.write (SandstormCommandType.toggleAuthMethod, response)

abbrev GetBufferSizeResponse := UInt32

def GetBufferSizeResponse.write (response : GetBufferSizeResponse) : Proc Sink IoError Unit :=
  ByteWrite.write (SandstormCommandType.getBufferSize, response)

abbrev SetBufferSizeResponse := Bool

def SetBufferSizeResponse.write (response : SetBufferSizeResponse) : Proc Sink IoError Unit :=
  ByteWrite.write (SandstormCommandType.setBufferSize, response)

structure MeowResponse where
  deriving DecidableEq, Repr

/-- The bytes of `MEOW`. -/
def meowBytes : List UInt8 := [0x4D, 0x45, 0x4F, 0x57]

instance : ByteRead MeowResponse where
  read := do
    let meow ← readExact 4
    if meow = meowBytes then pure ⟨⟩
    else .throw (invalidData "Server responded to meow, but did not say MEOW!")
  refines := (readExact_refines 4).bind fun _ => by
    split_ifs
    · exact .pure _
    · exact .throw _

def MeowResponse.write : Proc Sink IoError Unit :=
  ByteWrite.write (SandstormCommandType.meow, (0x4D : UInt8), (0x45 : UInt8), (0x4F : UInt8),
    (0x57 : UInt8))

abbrev ShutdownResponse := Unit

def ShutdownResponse.write : Proc Sink IoError Unit := ByteWrite.write SandstormCommandType.shutdown

end Others

/-- Any message that the server can send. -/
inductive ServerMessage where
  | shutdown
  | eventStreamConfig (response : EventStreamConfigResponse)
  | eventStream (response : EventStreamResponse)
  | listSocks5Sockets (response : ListSocks5SocketsResponse)
  | addSocks5Socket (response : AddSocks5SocketResponse)
  | removeSocks5Socket (response : RemoveSocks5SocketResponse)
  | listSandstormSockets (response : ListSandstormSocketsResponse)
  | addSandstormSocket (response : AddSandstormSocketResponse)
  | removeSandstormSocket (response : RemoveSandstormSocketResponse)
  | listUsers (response : ListUsersResponse)
  | addUser (response : AddUserResponse)
  | updateUser (response : UpdateUserResponse)
  | deleteUser (response : DeleteUserResponse)
  | listAuthMethods (response : ListAuthMethodsResponse)
  | toggleAuthMethod (response : ToggleAuthMethodResponse)
  | requestCurrentMetrics (response : CurrentMetricsResponse)
  | getBufferSize (response : GetBufferSizeResponse)
  | setBufferSize (response : SetBufferSizeResponse)
  | meow

namespace ServerMessage

def command : ServerMessage → SandstormCommandType
  | shutdown => .shutdown
  | eventStreamConfig _ => .eventStreamConfig
  | eventStream _ => .eventStream
  | listSocks5Sockets _ => .listSocks5Sockets
  | addSocks5Socket _ => .addSocks5Socket
  | removeSocks5Socket _ => .removeSocks5Socket
  | listSandstormSockets _ => .listSandstormSockets
  | addSandstormSocket _ => .addSandstormSocket
  | removeSandstormSocket _ => .removeSandstormSocket
  | listUsers _ => .listUsers
  | addUser _ => .addUser
  | updateUser _ => .updateUser
  | deleteUser _ => .deleteUser
  | listAuthMethods _ => .listAuthMethods
  | toggleAuthMethod _ => .toggleAuthMethod
  | requestCurrentMetrics _ => .requestCurrentMetrics
  | getBufferSize _ => .getBufferSize
  | setBufferSize _ => .setBufferSize
  | meow => .meow

theorem command_eq_eventStream {message : ServerMessage} (h : message.command = .eventStream) :
    ∃ event, message = eventStream event := by
  cases message <;> first | exact ⟨_, rfl⟩ | cases h

/-- As the owned type of the response writes it. -/
def write : ServerMessage → Proc Sink IoError Unit
  | shutdown => ShutdownResponse.write
  | eventStreamConfig response => response.write
  | eventStream response => EventStreamResponse.write response
  | listSocks5Sockets response => ListSocks5SocketsResponse.write response
  | addSocks5Socket response => AddSocks5SocketResponse.write response
  | removeSocks5Socket response => RemoveSocks5SocketResponse.write response
  | listSandstormSockets response => ListSandstormSocketsResponse.write response
  | addSandstormSocket response => AddSandstormSocketResponse.write response
  | removeSandstormSocket response => RemoveSandstormSocketResponse.write response
  | listUsers response => ListUsersResponse.write response
  | addUser response => response.write
  | updateUser response => response.write
  | deleteUser response => response.write
  | listAuthMethods response => response.write
  | toggleAuthMethod response => ToggleAuthMethodResponse.write response
  | requestCurrentMetrics response => CurrentMetricsResponse.write response
  | getBufferSize response => GetBufferSizeResponse.write response
  | setBufferSize response => SetBufferSizeResponse.write response
  | meow => MeowResponse.write

/-- As the borrowed type of the response writes it, where there is one. -/
def writeRef : ServerMessage → Proc Sink IoError Unit
  | eventStream response => EventStreamResponseRef.write response
  | listSocks5Sockets response => ListSocks5SocketsResponseRef.write response
  | addSocks5Socket response => AddSocks5SocketResponseRef.write (response.map fun _ => ())
  | listSandstormSockets response => ListSandstormSocketsResponseRef.write response
  | addSandstormSocket response => AddSandstormSocketResponseRef.write (response.map fun _ => ())
  | listUsers response => ListUsersResponseRef.write response
  | listAuthMethods response => response.asRef.write
  | message => message.write

end ServerMessage

end DustDevil
