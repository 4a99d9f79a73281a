import DustDevil.Core.Serialize

/-!
# Server events

`dust_devil_core::logging`: all the events the server can report, and how they are put on the wire.
-/

namespace DustDevil

open Wire

/-- All the possible server events that can be reported. -/
inductive EventData where
  | newSocks5Socket (address : SocketAddr)
  | failedBindSocks5Socket (address : SocketAddr) (e : IoError)
  | failedBindAnySocketAborting
  | removedSocks5Socket (address : SocketAddr)
  | newSandstormSocket (address : SocketAddr)
  | failedBindSandstormSocket (address : SocketAddr) (e : IoError)
  | removedSandstormSocket (address : SocketAddr)
  | loadingUsersFromFile (filename : Str)
  | usersLoadedFromFile (filename : Str) (result : Except UsersLoadingError ℕ)
  | startingUpWithSingleDefaultUser (userpass : Str)
  | savingUsersToFile (filename : Str)
  | usersSavedToFile (filename : Str) (result : Except IoError ℕ)
  | userRegisteredByArgs (username : Str) (role : UserRole)
  | userReplacedByArgs (username : Str) (role : UserRole)
  | newClientConnectionAccepted (clientId : ℕ) (address : SocketAddr)
  | clientConnectionAcceptFailed (address : Option SocketAddr) (e : IoError)
  | clientRequestedUnsupportedVersion (clientId : ℕ) (version : UInt8)
  | clientRequestedUnsupportedCommand (clientId : ℕ) (command : UInt8)
  | clientRequestedUnsupportedAtyp (clientId : ℕ) (atyp : UInt8)
  | clientSelectedAuthMethod (clientId : ℕ) (authMethod : AuthMethod)
  | clientNoAcceptableAuthMethod (clientId : ℕ)
  | clientRequestedUnsupportedUserpassVersion (clientId : ℕ) (version : UInt8)
  | clientAuthenticatedWithUserpass (clientId : ℕ) (username : Str) (success : Bool)
  | clientSocksRequest (clientId : ℕ) (request : SocksRequest)
  | clientDnsLookup (clientId : ℕ) (domainname : Str)
  | clientAttemptingConnect (clientId : ℕ) (address : SocketAddr)
  | clientConnectionAttemptBindFailed (clientId : ℕ) (e : IoError)
  | clientConnectionAttemptConnectFailed (clientId : ℕ) (e : IoError)
  | clientFailedToConnectToDestination (clientId : ℕ)
  | clientConnectedToDestination (clientId : ℕ) (address : SocketAddr)
  | clientBytesSent (clientId : ℕ) (count : ℕ)
  | clientBytesReceived (clientId : ℕ) (count : ℕ)
  | clientSourceShutdown (clientId : ℕ)
  | clientDestinationShutdown (clientId : ℕ)
  | clientConnectionFinished (clientId bytesSent bytesReceived : ℕ) (result : Except IoError Unit)
  | newSandstormConnectionAccepted (managerId : ℕ) (address : SocketAddr)
  | sandstormConnectionAcceptFailed (address : Option SocketAddr) (e : IoError)
  | sandstormRequestedUnsupportedVersion (managerId : ℕ) (version : UInt8)
  | sandstormAuthenticatedAs (managerId : ℕ) (username : Str) (success : Bool)
  | newSocksSocketRequestedByManager (managerId : ℕ) (address : SocketAddr)
  | removeSocksSocketRequestedByManager (managerId : ℕ) (address : SocketAddr)
  | newSandstormSocketRequestedByManager (managerId : ℕ) (address : SocketAddr)
  | removeSandstormSocketRequestedByManager (managerId : ℕ) (address : SocketAddr)
  | userRegisteredByManager (managerId : ℕ) (username : Str) (role : UserRole)
  | userUpdatedByManager (managerId : ℕ) (username : Str) (role : UserRole) (hasPassword : Bool)
  | userDeletedByManager (managerId : ℕ) (username : Str) (role : UserRole)
  | authMethodToggledByManager (managerId : ℕ) (authMethod : AuthMethod) (state : Bool)
  | bufferSizeChangedByManager (managerId : ℕ) (bufferSize : UInt32)
  | sandstormRequestedShutdown (managerId : ℕ)
  | sandstormConnectionFinished (managerId : ℕ) (result : Except IoError Unit)
  | shutdownSignalReceived

/-- A server event, consisting of a UNIX timestamp and an `EventData` describing the event. -/
structure Event where
  timestamp : Int64
  data : EventData

section Read

variable {ρ : Type} [AsyncRead ρ]

/-- What `EventData::read` reads after the type byte `t`. -/
def EventData.readFields (t : UInt8) : Proc ρ IoError EventData :=
  match t with
  | 0x01 => do
    let address ← ByteRead.read
    pure (.newSocks5Socket address)
  | 0x02 => do
    let address ← ByteRead.read
    let e ← ByteRead.read
    pure (.failedBindSocks5Socket address e)
  | 0x03 => pure .failedBindAnySocketAborting
  | 0x04 => do
    let address ← ByteRead.read
    pure (.removedSocks5Socket address)
  | 0x05 => do
    let address ← ByteRead.read
    pure (.newSandstormSocket address)
  | 0x06 => do
    let address ← ByteRead.read
    let e ← ByteRead.read
    pure (.failedBindSandstormSocket address e)
  | 0x07 => do
    let address ← ByteRead.read
    pure (.removedSandstormSocket address)
  | 0x08 => do
    let filename ← ByteRead.read
    pure (.loadingUsersFromFile filename)
  | 0x09 => do
    let filename ← ByteRead.read
    let result : Except _ UInt64 ← ByteRead.read
    pure (.usersLoadedFromFile filename (result.map UInt64.toNat))
  | 0x0A => do
    let userpass ← ByteRead.read
    pure (.startingUpWithSingleDefaultUser userpass)
  | 0x0B => do
    let filename ← ByteRead.read
    pure (.savingUsersToFile filename)
  | 0x0C => do
    let filename ← ByteRead.read
    let result : Except _ UInt64 ← ByteRead.read
    pure (.usersSavedToFile filename (result.map UInt64.toNat))
  | 0x0D => do
    let username : SmallReadString ← ByteRead.read
    let role ← ByteRead.read
    pure (.userRegisteredByArgs username.val role)
  | 0x0E => do
    let username : SmallReadString ← ByteRead.read
    let role ← ByteRead.read
    pure (.userReplacedByArgs username.val role)
  | 0x0F => do
    let clientId ← readNat64
    let address ← ByteRead.read
    pure (.newClientConnectionAccepted clientId address)
  | 0x10 => do
    let address ← ByteRead.read
    let e ← ByteRead.read
    pure (.clientConnectionAcceptFailed address e)
  | 0x11 => do
    let clientId ← readNat64
    let version ← ByteRead.read
    pure (.clientRequestedUnsupportedVersion clientId version)
  | 0x12 => do
    let clientId ← readNat64
    let command ← ByteRead.read
    pure (.clientRequestedUnsupportedCommand clientId command)
  | 0x13 => do
    let clientId ← readNat64
    let atyp ← ByteRead.read
    pure (.clientRequestedUnsupportedAtyp clientId atyp)
  | 0x14 => do
    let clientId ← readNat64
    let authMethod ← ByteRead.read
    pure (.clientSelectedAuthMethod clientId authMethod)
  | 0x15 => do
    let clientId ← readNat64
    pure (.clientNoAcceptableAuthMethod clientId)
  | 0x16 => do
    let clientId ← readNat64
    let version ← ByteRead.read
    pure (.clientRequestedUnsupportedUserpassVersion clientId version)
  | 0x17 => do
    let clientId ← readNat64
    let username : SmallReadString ← ByteRead.read
    let success ← ByteRead.read
    pure (.clientAuthenticatedWithUserpass clientId username.val success)
  | 0x18 => do
    let clientId ← readNat64
    let request ← ByteRead.read
    pure (.clientSocksRequest clientId request)
  | 0x19 => do
    let clientId ← readNat64
    let domainname : SmallReadString ← ByteRead.read
    pure (.clientDnsLookup clientId domainname.val)
  | 0x1A => do
    let clientId ← readNat64
    let address ← ByteRead.read
    pure (.clientAttemptingConnect clientId address)
  | 0x1B => do
    let clientId ← readNat64
    let e ← ByteRead.read
    pure (.clientConnectionAttemptBindFailed clientId e)
  | 0x1C => do
    let clientId ← readNat64
    let e ← ByteRead.read
    pure (.clientConnectionAttemptConnectFailed clientId e)
  | 0x1D => do
    let clientId ← readNat64
    pure (.clientFailedToConnectToDestination clientId)
  | 0x1E => do
    let clientId ← readNat64
    let address ← ByteRead.read
    pure (.clientConnectedToDestination clientId address)
  | 0x1F => do
    let clientId ← readNat64
    let count ← readNat64
    pure (.clientBytesSent clientId count)
  | 0x20 => do
    let clientId ← readNat64
    let count ← readNat64
    pure (.clientBytesReceived clientId count)
  | 0x21 => do
    let clientId ← readNat64
    pure (.clientSourceShutdown clientId)
  | 0x22 => do
    let clientId ← readNat64
    pure (.clientDestinationShutdown clientId)
  | 0x23 => do
    let clientId ← readNat64
    let bytesSent ← readNat64
    let bytesReceived ← readNat64
    let result ← ByteRead.read
    pure (.clientConnectionFinished clientId bytesSent bytesReceived result)
  | 0x24 => do
    let managerId ← readNat64
    let address ← ByteRead.read
    pure (.newSandstormConnectionAccepted managerId address)
  | 0x25 => do
    let address ← ByteRead.read
    let e ← ByteRead.read
    pure (.sandstormConnectionAcceptFailed address e)
  | 0x26 => do
    let managerId ← readNat64
    let version ← ByteRead.read
    pure (.sandstormRequestedUnsupportedVersion managerId version)
  | 0x27 => do
    let managerId ← readNat64
    let username ← ByteRead.read
    let success ← ByteRead.read
    pure (.sandstormAuthenticatedAs managerId username success)
  | 0x28 => do
    let managerId ← readNat64
    let address ← ByteRead.read
    pure (.newSocksSocketRequestedByManager managerId address)
  | 0x29 => do
    let managerId ← readNat64
    let address ← ByteRead.read
    pure (.removeSocksSocketRequestedByManager managerId address)
  | 0x2A => do
    let managerId ← readNat64
    let address ← ByteRead.read
    pure (.newSandstormSocketRequestedByManager managerId address)
  | 0x2B => do
    let managerId ← readNat64
    let address ← ByteRead.read
    pure (.removeSandstormSocketRequestedByManager managerId address)
  | 0x2C => do
    let managerId ← readNat64
    let username ← ByteRead.read
    let role ← ByteRead.read
    pure (.userRegisteredByManager managerId username role)
  | 0x2D => do
    let managerId ← readNat64
    let username ← ByteRead.read
    let role ← ByteRead.read
    let hasPassword ← ByteRead.read
    pure (.userUpdatedByManager managerId username role hasPassword)
  | 0x2E => do
    let managerId ← readNat64
    let username ← ByteRead.read
    let role ← ByteRead.read
    pure (.userDeletedByManager managerId username role)
  | 0x2F => do
    let managerId ← readNat64
    let authMethod ← ByteRead.read
    let state ← ByteRead.read
    pure (.authMethodToggledByManager managerId authMethod state)
  | 0x30 => do
    let managerId ← readNat64
    let bufferSize ← ByteRead.read
    pure (.bufferSizeChangedByManager managerId bufferSize)
  | 0x31 => do
    let managerId ← readNat64
    pure (.sandstormRequestedShutdown managerId)
  | 0x32 => do
    let managerId ← readNat64
    let result ← ByteRead.read
    pure (.sandstormConnectionFinished managerId result)
  | 0x33 => pure .shutdownSignalReceived
  | _ => .throw (invalidData "Invalid EventData type byte")

theorem EventData.readFields_refines (t : UInt8) :
    Refines (EventData.readFields t : Proc ρ _ _) (EventData.readFields t) := by
  unfold EventData.readFields
  split
  all_goals
    repeat'
      with_reducible first
      | refine Refines.bind ?_ fun _ => ?_
      | exact readNat64_refines
      | exact ByteRead.refines
      | exact .pure _
      | exact .throw _

instance : ByteRead EventData where
  read := do
    let t ← readU8
    EventData.readFields t
  refines := readU8_refines.bind fun _ => EventData.readFields_refines _

instance : ByteRead Event where
  read := do
    let timestamp ← ByteRead.read
    let data ← ByteRead.read
    pure ⟨timestamp, data⟩
  refines := ByteRead.refines.bind fun _ => ByteRead.refines.bind fun _ => .pure _

end Read

section Write

instance : ByteWrite EventData where
  write
    | .newSocks5Socket address => ByteWrite.write ((0x01 : UInt8), address)
    | .failedBindSocks5Socket address e => ByteWrite.write ((0x02 : UInt8), address, e)
    | .failedBindAnySocketAborting => writeU8 0x03
    | .removedSocks5Socket address => ByteWrite.write ((0x04 : UInt8), address)
    | .newSandstormSocket address => ByteWrite.write ((0x05 : UInt8), address)
    | .failedBindSandstormSocket address e => ByteWrite.write ((0x06 : UInt8), address, e)
    | .removedSandstormSocket address => ByteWrite.write ((0x07 : UInt8), address)
    | .loadingUsersFromFile filename => ByteWrite.write ((0x08 : UInt8), filename)
    | .usersLoadedFromFile filename result =>
      ByteWrite.write ((0x09 : UInt8), filename, result.map UInt64.ofNat)
    | .startingUpWithSingleDefaultUser userpass => ByteWrite.write ((0x0A : UInt8), userpass)
    | .savingUsersToFile filename => ByteWrite.write ((0x0B : UInt8), filename)
    | .usersSavedToFile filename result =>
      ByteWrite.write ((0x0C : UInt8), filename, result.map UInt64.ofNat)
    | .userRegisteredByArgs username role =>
      ByteWrite.write ((0x0D : UInt8), SmallWriteString.mk username, role)
    | .userReplacedByArgs username role =>
      ByteWrite.write ((0x0E : UInt8), SmallWriteString.mk username, role)
    | .newClientConnectionAccepted clientId address =>
      ByteWrite.write ((0x0F : UInt8), UInt64.ofNat clientId, address)
    | .clientConnectionAcceptFailed address e => ByteWrite.write ((0x10 : UInt8), address, e)
    | .clientRequestedUnsupportedVersion clientId version =>
      ByteWrite.write ((0x11 : UInt8), UInt64.ofNat clientId, version)
    | .clientRequestedUnsupportedCommand clientId command =>
      ByteWrite.write ((0x12 : UInt8), UInt64.ofNat clientId, command)
    | .clientRequestedUnsupportedAtyp clientId atyp =>
      ByteWrite.write ((0x13 : UInt8), UInt64.ofNat clientId, atyp)
    | .clientSelectedAuthMethod clientId authMethod =>
      ByteWrite.write ((0x14 : UInt8), UInt64.ofNat clientId, authMethod)
    | .clientNoAcceptableAuthMethod clientId =>
      ByteWrite.write ((0x15 : UInt8), UInt64.ofNat clientId)
    | .clientRequestedUnsupportedUserpassVersion clientId version =>
      ByteWrite.write ((0x16 : UInt8), UInt64.ofNat clientId, version)
    | .clientAuthenticatedWithUserpass clientId username success =>
      ByteWrite.write ((0x17 : UInt8), UInt64.ofNat clientId, SmallWriteString.mk username, success)
    | .clientSocksRequest clientId request =>
      ByteWrite.write ((0x18 : UInt8), UInt64.ofNat clientId, request)
    | .clientDnsLookup clientId domainname =>
      ByteWrite.write ((0x19 : UInt8), UInt64.ofNat clientId, SmallWriteString.mk domainname)
    | .clientAttemptingConnect clientId address =>
      ByteWrite.write ((0x1A : UInt8), UInt64.ofNat clientId, address)
    | .clientConnectionAttemptBindFailed clientId e =>
      ByteWrite.write ((0x1B : UInt8), UInt64.ofNat clientId, e)
    | .clientConnectionAttemptConnectFailed clientId e =>
      ByteWrite.write ((0x1C : UInt8), UInt64.ofNat clientId, e)
    | .clientFailedToConnectToDestination clientId =>
      ByteWrite.write ((0x1D : UInt8), UInt64.ofNat clientId)
    | .clientConnectedToDestination clientId address =>
      ByteWrite.write ((0x1E : UInt8), UInt64.ofNat clientId, address)
    | .clientBytesSent clientId count =>
      ByteWrite.write ((0x1F : UInt8), UInt64.ofNat clientId, UInt64.ofNat count)
    | .clientBytesReceived clientId count =>
      ByteWrite.write ((0x20 : UInt8), UInt64.ofNat clientId, UInt64.ofNat count)
    | .clientSourceShutdown clientId => ByteWrite.write ((0x21 : UInt8), UInt64.ofNat clientId)
    | .clientDestinationShutdown clientId => ByteWrite.write ((0x22 : UInt8), UInt64.ofNat clientId)
    | .clientConnectionFinished clientId bytesSent bytesReceived result =>
      ByteWrite.write ((0x23 : UInt8), UInt64.ofNat clientId, UInt64.ofNat bytesSent,
        UInt64.ofNat bytesReceived, result)
    | .newSandstormConnectionAccepted managerId address =>
      ByteWrite.write ((0x24 : UInt8), UInt64.ofNat managerId, address)
    | .sandstormConnectionAcceptFailed address e => ByteWrite.write ((0x25 : UInt8), address, e)
    | .sandstormRequestedUnsupportedVersion managerId version =>
      ByteWrite.write ((0x26 : UInt8), UInt64.ofNat managerId, version)
    | .sandstormAuthenticatedAs managerId username success =>
      ByteWrite.write ((0x27 : UInt8), UInt64.ofNat managerId, username, success)
    | .newSocksSocketRequestedByManager managerId address =>
      ByteWrite.write ((0x28 : UInt8), UInt64.ofNat managerId, address)
    | .removeSocksSocketRequestedByManager managerId address =>
      ByteWrite.write ((0x29 : UInt8), UInt64.ofNat managerId, address)
    | .newSandstormSocketRequestedByManager managerId address =>
      ByteWrite.write ((0x2A : UInt8), UInt64.ofNat managerId, address)
    | .removeSandstormSocketRequestedByManager managerId address =>
      ByteWrite.write ((0x2B : UInt8), UInt64.ofNat managerId, address)
    | .userRegisteredByManager managerId username role =>
      ByteWrite.write ((0x2C : UInt8), UInt64.ofNat managerId, username, role)
    | .userUpdatedByManager managerId username role hasPassword =>
      ByteWrite.write ((0x2D : UInt8), UInt64.ofNat managerId, username, role, hasPassword)
    | .userDeletedByManager managerId username role =>
      ByteWrite.write ((0x2E : UInt8), UInt64.ofNat managerId, username, role)
    | .authMethodToggledByManager managerId authMethod state =>
      ByteWrite.write ((0x2F : UInt8), UInt64.ofNat managerId, authMethod, state)
    | .bufferSizeChangedByManager managerId bufferSize =>
      ByteWrite.write ((0x30 : UInt8), UInt64.ofNat managerId, bufferSize)
    | .sandstormRequestedShutdown managerId =>
      ByteWrite.write ((0x31 : UInt8), UInt64.ofNat managerId)
    | .sandstormConnectionFinished managerId result =>
      ByteWrite.write ((0x32 : UInt8), UInt64.ofNat managerId, result)
    | .shutdownSignalReceived => writeU8 0x33

instance : ByteWrite Event where
  write event := do
    ByteWrite.write event.timestamp
    ByteWrite.write event.data

end Write

end DustDevil
