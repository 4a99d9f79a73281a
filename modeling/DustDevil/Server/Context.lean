import DustDevil.Core.Logging
import DustDevil.Core.Sandstorm
import DustDevil.Server.Users

/-!
# What a connection sees of the server

`context.rs`: the server's state, and the operations on it that a Sandstorm connection asks for. An
operation returns its answer, the new state and the events it sends, which are none when there is no
log sender. The operations that are left to the server's main loop are messages.
-/

namespace DustDevil

open Wire

structure ServerState where
  users : UserManager
  noAuthEnabled : Bool
  userpassAuthEnabled : Bool
  bufferSize : UInt32
  /-- Whether there is a metrics requester. -/
  metricsEnabled : Bool

/-- The request in a message to the main loop; the sender for its answer is left out. -/
inductive MessageType where
  | shutdownRequest
  | listSocks5Sockets
  | addSocks5Socket (address : SocketAddr)
  | removeSocks5Socket (address : SocketAddr)
  | listSandstormSockets
  | addSandstormSocket (address : SocketAddr)
  | removeSandstormSocket (address : SocketAddr)
  deriving DecidableEq, Repr

/-- `char::is_control`: the characters of the general category `Cc`. -/
def isControl (c : Char) : Bool := c.toNat ≤ 0x1F ∨ (0x7F ≤ c.toNat ∧ c.toNat ≤ 0x9F)

def isAscii (c : Char) : Bool := c.toNat ≤ 0x7F

def isAsciiGraphic (c : Char) : Bool := 0x21 ≤ c.toNat ∧ c.toNat ≤ 0x7E

structure SandstormContext where
  managerId : ℕ
  state : ServerState
  /-- Whether there is a log sender. -/
  logging : Bool

namespace SandstormContext

variable (cx : SandstormContext)

/-- `log!`. -/
def log (event : EventData) : List EventData := if cx.logging then [event] else []

def setUsers (users : UserManager) : ServerState := { cx.state with users := users }

def tryLogin (username password : Str) : Option Bool :=
  (cx.state.users.tryLogin username password).map fun u => u = .admin

section Messages

def requestShutdown : MessageType × List EventData :=
  (.shutdownRequest, cx.log (.sandstormRequestedShutdown cx.managerId))

def listSocks5Sockets : MessageType × List EventData := (.listSocks5Sockets, [])

def addSocks5Socket (address : SocketAddr) : MessageType × List EventData :=
  (.addSocks5Socket address, cx.log (.newSocksSocketRequestedByManager cx.managerId address))

def removeSocks5Socket (address : SocketAddr) : MessageType × List EventData :=
  (.removeSocks5Socket address, cx.log (.removeSocksSocketRequestedByManager cx.managerId address))

def listSandstormSockets : MessageType × List EventData := (.listSandstormSockets, [])

def addSandstormSocket (address : SocketAddr) : MessageType × List EventData :=
  (.addSandstormSocket address,
    cx.log (.newSandstormSocketRequestedByManager cx.managerId address))

def removeSandstormSocket (address : SocketAddr) : MessageType × List EventData :=
  (.removeSandstormSocket address,
    cx.log (.removeSandstormSocketRequestedByManager cx.managerId address))

end Messages

section Operations

def getUsersSnapshot : Multiset (Str × UserRole) := cx.state.users.takeSnapshot

def addUser (username password : Str) (role : UserRole) :
    AddUserResponse × ServerState × List EventData :=
  if username.any fun c => isControl c || (isAscii c && !isAsciiGraphic c) then
    (.invalidValues, cx.state, [])
  else
    match cx.state.users.insert username password role with
    | (true, users) =>
      (.ok, cx.setUsers users, cx.log (.userRegisteredByManager cx.managerId username role))
    | (false, users) => (.alreadyExists, cx.setUsers users, [])

def updateUser (username : Str) (password : Option Str) (role : Option UserRole) :
    UpdateUserResponse × ServerState × List EventData :=
  if password.isNone && role.isNone then (.nothingWasRequested, cx.state, [])
  else
    match cx.state.users.update username password role with
    | (.ok (some role), users) =>
      (.ok, cx.setUsers users,
        cx.log (.userUpdatedByManager cx.managerId username role password.isSome))
    | (.ok none, users) => (.cannotDeleteOnlyAdmin, cx.setUsers users, [])
    | (.error _, users) => (.userNotFound, cx.setUsers users, [])

def deleteUser (username : Str) : DeleteUserResponse × ServerState × List EventData :=
  match cx.state.users.delete username with
  | (.ok (some (username, role)), users) =>
    (.ok, cx.setUsers users, cx.log (.userDeletedByManager cx.managerId username role))
  | (.ok none, users) => (.cannotDeleteOnlyAdmin, cx.setUsers users, [])
  | (.error _, users) => (.userNotFound, cx.setUsers users, [])

def getAuthMethods : List (AuthMethod × Bool) :=
  [(.noAuth, cx.state.noAuthEnabled), (.usernameAndPassword, cx.state.userpassAuthEnabled)]

def toggleAuthMethod (authMethod : AuthMethod) (state : Bool) :
    Bool × ServerState × List EventData :=
  (true, match authMethod with
    | .noAuth => { cx.state with noAuthEnabled := state }
    | .usernameAndPassword => { cx.state with userpassAuthEnabled := state },
    cx.log (.authMethodToggledByManager cx.managerId authMethod state))

def getBufferSize : UInt32 := cx.state.bufferSize

def setBufferSize (value : UInt32) : Bool × ServerState × List EventData :=
  if value = 0 then (false, cx.state, [])
  else (true, { cx.state with bufferSize := value },
    cx.log (.bufferSizeChangedByManager cx.managerId value))

end Operations

end SandstormContext

structure ClientContext where
  clientId : ℕ
  bytesSent : ℕ
  bytesReceived : ℕ
  state : ServerState
  /-- Whether there is a log sender. -/
  logging : Bool

namespace ClientContext

variable (cx : ClientContext)

/-- `log!`. -/
def log (event : EventData) : List EventData := if cx.logging then [event] else []

def create (clientId : ℕ) (state : ServerState) (logging : Bool) : ClientContext :=
  ⟨clientId, 0, 0, state, logging⟩

def bufferSize : ℕ := cx.state.bufferSize.toNat

def isNoauthEnabled : Bool := cx.state.noAuthEnabled

def isUserpassEnabled : Bool := cx.state.userpassAuthEnabled

def tryLogin (username password : Str) : Bool :=
  (cx.state.users.tryLogin username password).isSome

def registerBytesSent (count : ℕ) : ClientContext × List EventData :=
  ({ cx with bytesSent := cx.bytesSent + count }, cx.log (.clientBytesSent cx.clientId count))

def registerBytesReceived (count : ℕ) : ClientContext × List EventData :=
  ({ cx with bytesReceived := cx.bytesReceived + count },
    cx.log (.clientBytesReceived cx.clientId count))

end ClientContext

end DustDevil
