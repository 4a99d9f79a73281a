import DustDevil.Core.Logging
import DustDevil.Lib.Display

/-!
# The text of an event

The `fmt::Display` implementations of `logging.rs`, `users.rs` and `socks5.rs`, and the line that
stands for an event: in the server's logs and where a client writes the event stream. The local time
of a timestamp is a parameter.
-/

namespace DustDevil

open Wire

open Display (fmt)

/-! ## Users and authentication -/

def UserRole.toStr : UserRole → Str
  | .admin => "admin".toList
  | .regular => "regular".toList

instance : Display UserRole := ⟨UserRole.toStr⟩

def AuthMethod.toStr : AuthMethod → Str
  | .noAuth => "noauth".toList
  | .usernameAndPassword => "userpass".toList

instance : Display AuthMethod := ⟨AuthMethod.toStr⟩

instance : Display UsersLoadingError where
  fmt
    | .io e => "IO error: ".toList ++ fmt e
    | .invalidUtf8 lineNumber byteAt =>
      "Invalid UTF-8 at ".toList ++ fmt lineNumber ++ " byte ".toList ++ fmt byteAt
    | .lineTooLong lineNumber _ => "Line ".toList ++ fmt lineNumber ++ " is too long".toList
    | .expectedRoleCharGotEOF lineNumber charAt =>
      "Expected role char, got EOF at ".toList ++ fmt lineNumber ++ ":".toList ++ fmt charAt
    | .invalidRoleChar lineNumber charAt char =>
      "Expected role char ('".toList ++ adminPrefixChar :: "' or '".toList
        ++ regularPrefixChar :: "'), got '".toList ++ char :: "' at ".toList ++ fmt lineNumber
        ++ ":".toList ++ fmt charAt
    | .expectedColonGotEOF lineNumber charAt =>
      "Unexpected EOF (expected colon ':' after name) at ".toList ++ fmt lineNumber
        ++ ":".toList ++ fmt charAt
    | .emptyUsername lineNumber charAt =>
      "Empty username field at ".toList ++ fmt lineNumber ++ ":".toList ++ fmt charAt
    | .usernameTooLong lineNumber charAt =>
      "Username too long at ".toList ++ fmt lineNumber ++ ":".toList ++ fmt charAt
    | .emptyPassword lineNumber charAt =>
      "Empty password field at ".toList ++ fmt lineNumber ++ ":".toList ++ fmt charAt
    | .passwordTooLong lineNumber charAt =>
      "Password too long at ".toList ++ fmt lineNumber ++ ":".toList ++ fmt charAt
    | .noUsers => "No users".toList

/-! ## Events -/

def EventData.toText : EventData → Str
  | .newSocks5Socket address =>
    "Listening for socks5 client connections at ".toList ++ fmt address
  | .failedBindSocks5Socket address e =>
    "Failed to set up socks5 socket at ".toList ++ fmt address ++ ": ".toList ++ fmt e
  | .failedBindAnySocketAborting => "Failed to bind any socks5 socket! Aborting".toList
  | .removedSocks5Socket address =>
    "Will no longer listen for socks5 client connections at ".toList ++ fmt address
  | .newSandstormSocket address =>
    "Listening for Sandstorm connections at ".toList ++ fmt address
  | .failedBindSandstormSocket address e =>
    "Failed to set up Sandstorm socket at ".toList ++ fmt address ++ ": ".toList
      ++ fmt e
  | .removedSandstormSocket address =>
    "Will no longer listen for Sandstorm connections at ".toList ++ fmt address
  | .loadingUsersFromFile filename => "Loading users from file ".toList ++ fmt filename
  | .usersLoadedFromFile filename (.ok userCount) =>
    "Loaded ".toList ++ fmt userCount ++ " users from file ".toList ++ fmt filename
  | .usersLoadedFromFile filename (.error e) =>
    "Error while loading users from file ".toList ++ fmt filename ++ ": ".toList
      ++ fmt e
  | .startingUpWithSingleDefaultUser userpass =>
    "Starting up with single default user ".toList ++ fmt userpass
  | .savingUsersToFile filename => "Saving users to file ".toList ++ fmt filename
  | .usersSavedToFile filename (.ok amount) =>
    "Successfully saved ".toList ++ fmt amount ++ " users to file ".toList ++ fmt filename
  | .usersSavedToFile filename (.error e) =>
    "Failed to save users to file ".toList ++ fmt filename ++ ": ".toList ++ fmt e
  | .userRegisteredByArgs username role =>
    "Registered new ".toList ++ fmt role ++ " user ".toList ++ fmt username
      ++ " specified via argument".toList
  | .userReplacedByArgs username role =>
    "Replaced user loaded from file ".toList ++ fmt username ++ " with new ".toList ++ fmt role
      ++ " user specified via argument".toList
  | .newClientConnectionAccepted clientId address =>
    "New client connection from ".toList ++ fmt address ++ " assigned ID ".toList
      ++ fmt clientId
  | .clientConnectionAcceptFailed (some address) e =>
    "Failed to accept incoming socks connection from socket ".toList ++ fmt address
      ++ ": ".toList ++ fmt e
  | .clientConnectionAcceptFailed none e =>
    "Failed to accept incoming socks connection from unknown socket: ".toList ++ fmt e
  | .clientRequestedUnsupportedVersion clientId version =>
    "Client ".toList ++ fmt clientId ++ " requested unsupported socks version: ".toList
      ++ fmt version
  | .clientRequestedUnsupportedCommand clientId command =>
    "Client ".toList ++ fmt clientId ++ " requested unsupported socks command: ".toList
      ++ fmt command
  | .clientRequestedUnsupportedAtyp clientId atyp =>
    "Client ".toList ++ fmt clientId ++ " requested unsupported socks ATYP: ".toList ++ fmt atyp
  | .clientSelectedAuthMethod clientId authMethod =>
    "Client ".toList ++ fmt clientId ++ " will use auth method ".toList ++ fmt authMethod
  | .clientNoAcceptableAuthMethod clientId =>
    "Client ".toList ++ fmt clientId ++ " no acceptable authentication method found".toList
  | .clientRequestedUnsupportedUserpassVersion clientId version =>
    "Client ".toList ++ fmt clientId ++ " requested unsupported userpass version: ".toList
      ++ fmt version
  | .clientAuthenticatedWithUserpass clientId username true =>
    "Client ".toList ++ fmt clientId ++ " successfully authenticated as ".toList ++ fmt username
  | .clientAuthenticatedWithUserpass clientId username false =>
    "Client ".toList ++ fmt clientId ++ " unsuccessfully authenticated as ".toList ++ fmt username
  | .clientSocksRequest clientId request =>
    "Client ".toList ++ fmt clientId ++ " requested to connect to ".toList
      ++ match request.destination with
        | .ipv4 ipv4 => "IPv4 ".toList ++ fmt ipv4 ++ ":".toList ++ fmt request.port
        | .ipv6 ipv6 => "IPv6 [".toList ++ fmt ipv6 ++ "]:".toList ++ fmt request.port
        | .domainname domainname =>
          "domainname ".toList ++ fmt domainname ++ ":".toList ++ fmt request.port
  | .clientDnsLookup clientId domainname =>
    "Client ".toList ++ fmt clientId ++ " performing DNS lookup for ".toList ++ fmt domainname
  | .clientAttemptingConnect clientId address =>
    "Client ".toList ++ fmt clientId ++ " attempting to connect to destination at ".toList
      ++ fmt address
  | .clientConnectionAttemptBindFailed clientId e =>
    "Client ".toList ++ fmt clientId ++ " failed to bind local socket: ".toList ++ fmt e
  | .clientConnectionAttemptConnectFailed clientId e =>
    "Client ".toList ++ fmt clientId ++ " failed to connect to destination: ".toList ++ fmt e
  | .clientFailedToConnectToDestination clientId =>
    "Client ".toList ++ fmt clientId
      ++ " failed to connect to destination, sending error response".toList
  | .clientConnectedToDestination clientId address =>
    "Client ".toList ++ fmt clientId
      ++ " successfully established connection to destination at ".toList ++ fmt address
  | .clientBytesSent clientId count =>
    "Client ".toList ++ fmt clientId ++ " sent ".toList ++ fmt count ++ " bytes".toList
  | .clientBytesReceived clientId count =>
    "Client ".toList ++ fmt clientId ++ " received ".toList ++ fmt count ++ " bytes".toList
  | .clientSourceShutdown clientId =>
    "Client ".toList ++ fmt clientId ++ " source socket shutdown".toList
  | .clientDestinationShutdown clientId =>
    "Client ".toList ++ fmt clientId ++ " destination socket shutdown".toList
  | .clientConnectionFinished clientId bytesSent bytesReceived (.ok _) =>
    "Client ".toList ++ fmt clientId ++ " finished after ".toList ++ fmt bytesSent
      ++ " bytes sent and ".toList ++ fmt bytesReceived ++ " bytes received".toList
  | .clientConnectionFinished clientId bytesSent bytesReceived (.error e) =>
    "Client ".toList ++ fmt clientId ++ " closed with IO error after ".toList ++ fmt bytesSent
      ++ " bytes sent and ".toList ++ fmt bytesReceived ++ " bytes received: ".toList
      ++ fmt e
  | .newSandstormConnectionAccepted managerId address =>
    "New management connection from ".toList ++ fmt address ++ " assigned ID ".toList
      ++ fmt managerId
  | .sandstormConnectionAcceptFailed (some address) e =>
    "Failed to accept incoming management connection from socket ".toList ++ fmt address
      ++ ": ".toList ++ fmt e
  | .sandstormConnectionAcceptFailed none e =>
    "Failed to accept incoming management connection from unknown socket: ".toList ++ fmt e
  | .sandstormRequestedUnsupportedVersion managerId version =>
    "Manager ".toList ++ fmt managerId ++ " requested unsupported sandstorm version: ".toList
      ++ fmt version
  | .sandstormAuthenticatedAs managerId username true =>
    "Manager ".toList ++ fmt managerId ++ " successfully authenticated as ".toList ++ fmt username
  | .sandstormAuthenticatedAs managerId username false =>
    "Manager ".toList ++ fmt managerId ++ " unsuccessfully authenticated as ".toList ++ fmt username
  | .newSocksSocketRequestedByManager managerId address =>
    "Manager ".toList ++ fmt managerId ++ " requested opening a new socks5 socket at ".toList
      ++ fmt address
  | .removeSocksSocketRequestedByManager managerId address =>
    "Manager ".toList ++ fmt managerId ++ " requested closing socks5 socket at ".toList
      ++ fmt address
  | .newSandstormSocketRequestedByManager managerId address =>
    "Manager ".toList ++ fmt managerId ++ " requested opening a new sandstorm socket at ".toList
      ++ fmt address
  | .removeSandstormSocketRequestedByManager managerId address =>
    "Manager ".toList ++ fmt managerId ++ " requested closing sandstorm socket at ".toList
      ++ fmt address
  | .userRegisteredByManager managerId username role =>
    "Manager ".toList ++ fmt managerId ++ " registered new ".toList ++ fmt role ++ " user ".toList
      ++ fmt username
  | .userUpdatedByManager managerId username role false =>
    "Manager ".toList ++ fmt managerId ++ " updated role of user ".toList ++ fmt username
      ++ " to ".toList ++ fmt role
  | .userUpdatedByManager managerId username role true =>
    "Manager ".toList ++ fmt managerId ++ " updated user ".toList ++ fmt username
      ++ " with role ".toList ++ fmt role ++ " and new password".toList
  | .userDeletedByManager managerId username role =>
    "Manager ".toList ++ fmt managerId ++ " deleted ".toList ++ fmt role ++ " user ".toList
      ++ fmt username
  | .authMethodToggledByManager managerId authMethod false =>
    "Manager ".toList ++ fmt managerId ++ " disabled authentication method ".toList
      ++ fmt authMethod
  | .authMethodToggledByManager managerId authMethod true =>
    "Manager ".toList ++ fmt managerId ++ " enabled authentication method ".toList ++ fmt authMethod
  | .bufferSizeChangedByManager managerId bufferSize =>
    "Manager ".toList ++ fmt managerId ++ " set client buffer size to ".toList ++ fmt bufferSize
  | .sandstormRequestedShutdown managerId =>
    "Manager ".toList ++ fmt managerId ++ " requested the server shuts down".toList
  | .sandstormConnectionFinished managerId (.ok _) =>
    "Manager ".toList ++ fmt managerId ++ " finished".toList
  | .sandstormConnectionFinished managerId (.error e) =>
    "Manager ".toList ++ fmt managerId ++ " closed with IO error: ".toList ++ fmt e
  | .shutdownSignalReceived => "Shutdown signal received".toList

instance : Display EventData := ⟨EventData.toText⟩

/-- An `OffsetDateTime`, as far as it is shown. -/
structure DateTime where
  year : ℤ
  month : ℕ
  day : ℕ
  hour : ℕ
  minute : ℕ
  second : ℕ
  deriving DecidableEq, Repr

/-- The time of a timestamp at the local offset, or the epoch where it has none. -/
abbrev LocalDateTime := ℤ → DateTime

/-- `{:0width}`. -/
def zeroPadded (width : ℕ) : ℤ → Str
  | .ofNat n => (Nat.toDigits 10 n).leftpad width '0'
  | .negSucc n => '-' :: (Nat.toDigits 10 (n + 1)).leftpad (width - 1) '0'

/-- `[{:04}-{:02}-{:02} {:02}:{:02}:{:02}]`. -/
def DateTime.bracketed (t : DateTime) : Str :=
  '[' :: zeroPadded 4 t.year ++ '-' :: zeroPadded 2 t.month ++ '-' :: zeroPadded 2 t.day
    ++ ' ' :: zeroPadded 2 t.hour ++ ':' :: zeroPadded 2 t.minute ++ ':' :: zeroPadded 2 t.second
    ++ [']']

/-- What `logger_task` and the client's `handle_output` write for an event, up to the newline. -/
def Event.line (localDateTime : LocalDateTime) (event : Event) : Str :=
  (localDateTime event.timestamp.toInt).bracketed ++ ' ' :: fmt event.data

end DustDevil
