import DustDevil.Client.LongList
import DustDevil.Core.EventText

/-!
# Coloured logs

The client's `main_view/colored_logs.rs`: the spans that an event is shown as.
-/

namespace DustDevil

open Wire
open Display (fmt)

/-! ## Styles -/

inductive LogColor where
  | reset
  | darkGray
  | gray
  | yellow
  | red
  | lightYellow
  | lightCyan
  | lightBlue
  | lightGreen
  | lightMagenta
  | lightRed
  deriving DecidableEq, Repr

/-- A `Style`, its modifiers as whether it is bold and italic. -/
structure LogStyle where
  fg : LogColor
  bg : Option LogColor
  boldItalic : Bool
  deriving DecidableEq, Repr

section Styles

/-- `Style::reset().fg(..)`. -/
def resetStyle (fg : LogColor) : LogStyle := ⟨fg, some .reset, false⟩

def boldItalic (fg : LogColor) : LogStyle := ⟨fg, some .reset, true⟩

def defaultStyle : LogStyle := resetStyle .reset

def timestampStyle : LogStyle := resetStyle .darkGray

def socketAddressStyle : LogStyle := resetStyle .lightYellow

def filenameStyle : LogStyle := resetStyle .lightCyan

def usernameStyle : LogStyle := resetStyle .lightBlue

def userroleStyle : LogStyle := usernameStyle

def authMethodStyle : LogStyle := usernameStyle

def clientIdStyle : LogStyle := resetStyle .lightGreen

def clientAddressStyle : LogStyle := socketAddressStyle

def destinationAddressStyle : LogStyle := socketAddressStyle

def managerIdStyle : LogStyle := resetStyle .lightMagenta

def managerAddressStyle : LogStyle := socketAddressStyle

def bufferSizeStyle : LogStyle := resetStyle .lightRed

def shutdownRequestStyle : LogStyle := boldItalic .red

def warningStyle : LogStyle := resetStyle .yellow

def errorStyle : LogStyle := resetStyle .red

def shutdownSignalStyle : LogStyle := boldItalic .red

end Styles

/-! ## Spans -/

abbrev LogSpan := StaticString × LogStyle

section Spans

def staticText (s : Str) (style : LogStyle) : LogSpan := (.static s, style)

def text (s : String) (style : LogStyle) : LogSpan := staticText s.toList style

/-- A `String`. -/
def formatted (s : Str) (style : LogStyle) : LogSpan := (.owned s, style)

/-- The match of `log_event_to_single_line` on an event. -/
def eventSpans : EventData → List LogSpan
  | .newSocks5Socket address =>
    [text " Listening for socks5 client connections at " defaultStyle,
      formatted (fmt address) socketAddressStyle]
  | .failedBindSocks5Socket address e =>
    [text " Failed to set up socks5 socket at " defaultStyle,
      formatted (fmt address) socketAddressStyle, text ": " defaultStyle,
      formatted (fmt e) errorStyle]
  | .failedBindAnySocketAborting =>
    [text " Failed to bind any socks5 socket! Aborting" errorStyle]
  | .removedSocks5Socket address =>
    [text " Will no longer listen for socks5 client connections at " defaultStyle,
      formatted (fmt address) socketAddressStyle]
  | .newSandstormSocket address =>
    [text " Listening for Sandstorm connections at " defaultStyle,
      formatted (fmt address) socketAddressStyle]
  | .failedBindSandstormSocket address e =>
    [text " Failed to set up Sandstorm socket at " defaultStyle,
      formatted (fmt address) socketAddressStyle, text ": " defaultStyle,
      formatted (fmt e) errorStyle]
  | .removedSandstormSocket address =>
    [text " Will no longer listen for Sandstorm connections at " defaultStyle,
      formatted (fmt address) socketAddressStyle]
  | .loadingUsersFromFile filename =>
    [text " Loading users from file " defaultStyle, formatted filename filenameStyle]
  | .usersLoadedFromFile filename (.ok userCount) =>
    [text " Loaded " defaultStyle, formatted (fmt userCount) defaultStyle,
      text " users from file " defaultStyle, formatted filename filenameStyle]
  | .usersLoadedFromFile filename (.error e) =>
    [text " Error while loading users from file " defaultStyle, formatted filename filenameStyle,
      text ": " defaultStyle, formatted (fmt e) errorStyle]
  | .startingUpWithSingleDefaultUser userpass =>
    [text " Starting up with single default user " defaultStyle, formatted userpass usernameStyle]
  | .savingUsersToFile filename =>
    [text " Saving users to file " defaultStyle, formatted filename filenameStyle]
  | .usersSavedToFile filename (.ok amount) =>
    [text " Successfully saved " defaultStyle, formatted (fmt amount) defaultStyle,
      text " users to file " defaultStyle, formatted filename filenameStyle]
  | .usersSavedToFile filename (.error e) =>
    [text " Failed to save users to file " defaultStyle, formatted filename filenameStyle,
      text ": " defaultStyle, formatted (fmt e) errorStyle]
  | .userRegisteredByArgs username role =>
    [text " Registered new " defaultStyle, staticText role.toStr userroleStyle,
      text " user " defaultStyle, formatted username usernameStyle,
      text " specified via argument" defaultStyle]
  | .userReplacedByArgs username role =>
    [text " Replaced user loaded from file " defaultStyle, formatted username usernameStyle,
      text " with new " defaultStyle, staticText role.toStr userroleStyle,
      text " user specified via argument" defaultStyle]
  | .newClientConnectionAccepted clientId address =>
    [text " New client connection from " defaultStyle,
      formatted (fmt address) clientAddressStyle, text " assigned " defaultStyle,
      formatted ("ID ".toList ++ fmt clientId) clientIdStyle]
  | .clientConnectionAcceptFailed (some address) e =>
    [text " Failed to accept incoming socks connection from socket " defaultStyle,
      formatted (fmt address) clientAddressStyle, text ": " defaultStyle,
      formatted (fmt e) errorStyle]
  | .clientConnectionAcceptFailed none e =>
    [text " Failed to accept incoming socks connection from unknown socket: " defaultStyle,
      formatted (fmt e) errorStyle]
  | .clientRequestedUnsupportedVersion clientId version =>
    [text " Client " clientIdStyle, formatted (fmt clientId) clientIdStyle,
      text " requested " defaultStyle, text "unsupported socks version: " warningStyle,
      formatted (fmt version) warningStyle]
  | .clientRequestedUnsupportedCommand clientId command =>
    [text " Client " clientIdStyle, formatted (fmt clientId) clientIdStyle,
      text " requested " defaultStyle, text "unsupported socks command: " warningStyle,
      formatted (fmt command) warningStyle]
  | .clientRequestedUnsupportedAtyp clientId atyp =>
    [text " Client " clientIdStyle, formatted (fmt clientId) clientIdStyle,
      text " requested " defaultStyle, text "unsupported socks ATYP: " warningStyle,
      formatted (fmt atyp) warningStyle]
  | .clientSelectedAuthMethod clientId authMethod =>
    [text " Client " clientIdStyle, formatted (fmt clientId) clientIdStyle,
      text " will use auth method " defaultStyle, staticText authMethod.toStr authMethodStyle]
  | .clientNoAcceptableAuthMethod clientId =>
    [text " Client " clientIdStyle, formatted (fmt clientId) clientIdStyle,
      text " no acceptable authentication method found" warningStyle]
  | .clientRequestedUnsupportedUserpassVersion clientId version =>
    [text " Client " clientIdStyle, formatted (fmt clientId) clientIdStyle,
      text " requested " defaultStyle, text "unsupported userpass version: " warningStyle,
      formatted (fmt version) warningStyle]
  | .clientAuthenticatedWithUserpass clientId username true =>
    [text " Client " clientIdStyle, formatted (fmt clientId) clientIdStyle,
      text " successfully authenticated as " defaultStyle, formatted username usernameStyle]
  | .clientAuthenticatedWithUserpass clientId username false =>
    [text " Client " clientIdStyle, formatted (fmt clientId) clientIdStyle,
      text " unsuccessfully authenticated as " warningStyle, formatted username usernameStyle]
  | .clientSocksRequest clientId request =>
    [text " Client " clientIdStyle, formatted (fmt clientId) clientIdStyle,
      text " requested to connect to " defaultStyle]
      ++ match request.destination with
        | .ipv4 ipv4 => [text "IPv4 " defaultStyle,
          formatted (fmt ipv4 ++ ":".toList ++ fmt request.port) destinationAddressStyle]
        | .ipv6 ipv6 => [text "IPv6 " defaultStyle,
          formatted ("[".toList ++ fmt ipv6 ++ "]:".toList ++ fmt request.port)
            destinationAddressStyle]
        | .domainname domainname => [text "domainname " defaultStyle,
          formatted (domainname ++ ":".toList ++ fmt request.port) destinationAddressStyle]
  | .clientDnsLookup clientId domainname =>
    [text " Client " clientIdStyle, formatted (fmt clientId) clientIdStyle,
      text " performing DNS lookup for " defaultStyle,
      formatted domainname destinationAddressStyle]
  | .clientAttemptingConnect clientId address =>
    [text " Client " clientIdStyle, formatted (fmt clientId) clientIdStyle,
      text " attempting to connect to destination at " defaultStyle,
      formatted (fmt address) destinationAddressStyle]
  | .clientConnectionAttemptBindFailed clientId e =>
    [text " Client " clientIdStyle, formatted (fmt clientId) clientIdStyle,
      text " failed to bind local socket: " defaultStyle, formatted (fmt e) errorStyle]
  | .clientConnectionAttemptConnectFailed clientId e =>
    [text " Client " clientIdStyle, formatted (fmt clientId) clientIdStyle,
      text " failed to connect to destination: " defaultStyle, formatted (fmt e) errorStyle]
  | .clientFailedToConnectToDestination clientId =>
    [text " Client " clientIdStyle, formatted (fmt clientId) clientIdStyle,
      text " failed to connect to destination, " defaultStyle,
      text "sending error response" errorStyle]
  | .clientConnectedToDestination clientId address =>
    [text " Client " clientIdStyle, formatted (fmt clientId) clientIdStyle,
      text " successfully established connection to destination at " defaultStyle,
      formatted (fmt address) destinationAddressStyle]
  | .clientBytesSent clientId count =>
    [text " Client " clientIdStyle, formatted (fmt clientId) clientIdStyle,
      text " sent " defaultStyle, formatted (fmt count) defaultStyle, text " bytes" defaultStyle]
  | .clientBytesReceived clientId count =>
    [text " Client " clientIdStyle, formatted (fmt clientId) clientIdStyle,
      text " received " defaultStyle, formatted (fmt count) defaultStyle,
      text " bytes" defaultStyle]
  | .clientSourceShutdown clientId =>
    [text " Client " clientIdStyle, formatted (fmt clientId) clientIdStyle,
      text " source socket shutdown" defaultStyle]
  | .clientDestinationShutdown clientId =>
    [text " Client " clientIdStyle, formatted (fmt clientId) clientIdStyle,
      text " destination socket shutdown" defaultStyle]
  | .clientConnectionFinished clientId bytesSent bytesReceived (.ok _) =>
    [text " Client " clientIdStyle, formatted (fmt clientId) clientIdStyle,
      text " finished after " defaultStyle, formatted (fmt bytesSent) defaultStyle,
      text " bytes sent and " defaultStyle, formatted (fmt bytesReceived) defaultStyle,
      text " bytes received" defaultStyle]
  | .clientConnectionFinished clientId bytesSent bytesReceived (.error e) =>
    [text " Client " clientIdStyle, formatted (fmt clientId) clientIdStyle,
      text " closed with IO error after " defaultStyle,
      formatted (fmt bytesSent) defaultStyle, text " bytes sent and " defaultStyle,
      formatted (fmt bytesReceived) defaultStyle, text " bytes received: " defaultStyle,
      formatted (fmt e) errorStyle]
  | .newSandstormConnectionAccepted managerId address =>
    [text " New management connection from " defaultStyle,
      formatted (fmt address) managerAddressStyle, text " assigned " defaultStyle,
      formatted ("ID ".toList ++ fmt managerId) managerIdStyle]
  | .sandstormConnectionAcceptFailed (some address) e =>
    [text " Failed to accept incoming management connection from socket " defaultStyle,
      formatted (fmt address) managerAddressStyle, text ": " defaultStyle,
      formatted (fmt e) errorStyle]
  | .sandstormConnectionAcceptFailed none e =>
    [text " Failed to accept incoming management connection from unknown socket: " defaultStyle,
      formatted (fmt e) errorStyle]
  | .sandstormRequestedUnsupportedVersion managerId version =>
    [text " Manager " managerIdStyle, formatted (fmt managerId) managerIdStyle,
      text " requested " defaultStyle, text "unsupported sandstorm version: " warningStyle,
      formatted (fmt version) warningStyle]
  | .sandstormAuthenticatedAs managerId username true =>
    [text " Manager " managerIdStyle, formatted (fmt managerId) managerIdStyle,
      text " successfully authenticated as " defaultStyle, formatted username usernameStyle]
  | .sandstormAuthenticatedAs managerId username false =>
    [text " Manager " managerIdStyle, formatted (fmt managerId) managerIdStyle,
      text " unsuccessfully authenticated as " warningStyle, formatted username defaultStyle]
  | .newSocksSocketRequestedByManager managerId address =>
    [text " Manager " managerIdStyle, formatted (fmt managerId) managerIdStyle,
      text " requested opening a new socks5 socket at " defaultStyle,
      formatted (fmt address) socketAddressStyle]
  | .removeSocksSocketRequestedByManager managerId address =>
    [text " Manager " managerIdStyle, formatted (fmt managerId) managerIdStyle,
      text " requested closing socks5 socket at " defaultStyle,
      formatted (fmt address) socketAddressStyle]
  | .newSandstormSocketRequestedByManager managerId address =>
    [text " Manager " managerIdStyle, formatted (fmt managerId) managerIdStyle,
      text " requested opening a new sandstorm socket at " defaultStyle,
      formatted (fmt address) socketAddressStyle]
  | .removeSandstormSocketRequestedByManager managerId address =>
    [text " Manager " managerIdStyle, formatted (fmt managerId) managerIdStyle,
      text " requested closing sandstorm socket at " defaultStyle,
      formatted (fmt address) socketAddressStyle]
  | .userRegisteredByManager managerId username role =>
    [text " Manager " managerIdStyle, formatted (fmt managerId) managerIdStyle,
      text " registered new " defaultStyle, staticText role.toStr userroleStyle,
      text " user " defaultStyle, formatted username usernameStyle]
  | .userUpdatedByManager managerId username role false =>
    [text " Manager " managerIdStyle, formatted (fmt managerId) managerIdStyle,
      text " updated role of user " defaultStyle, formatted username usernameStyle,
      text " to " defaultStyle, staticText role.toStr userroleStyle]
  | .userUpdatedByManager managerId username role true =>
    [text " Manager " managerIdStyle, formatted (fmt managerId) managerIdStyle,
      text " updated user " defaultStyle, formatted username usernameStyle,
      text " with role " defaultStyle, staticText role.toStr userroleStyle,
      text " and new password" defaultStyle]
  | .userDeletedByManager managerId username role =>
    [text " Manager " managerIdStyle, formatted (fmt managerId) managerIdStyle,
      text " deleted " defaultStyle, staticText role.toStr userroleStyle,
      text " user " defaultStyle, formatted username usernameStyle]
  | .authMethodToggledByManager managerId authMethod enabled =>
    [text " Manager " managerIdStyle, formatted (fmt managerId) managerIdStyle,
      text (if enabled then " enabled" else " disabled") defaultStyle,
      text " authentication method " defaultStyle, staticText authMethod.toStr authMethodStyle]
  | .bufferSizeChangedByManager managerId bufferSize =>
    [text " Manager " managerIdStyle, formatted (fmt managerId) managerIdStyle,
      text " set client buffer size to " defaultStyle, formatted (fmt bufferSize) bufferSizeStyle]
  | .sandstormRequestedShutdown managerId =>
    [text " Manager " managerIdStyle, formatted (fmt managerId) managerIdStyle,
      text " requested the server shuts down" shutdownRequestStyle]
  | .sandstormConnectionFinished managerId (.ok _) =>
    [text " Manager " managerIdStyle, formatted (fmt managerId) managerIdStyle,
      text " finished" defaultStyle]
  | .sandstormConnectionFinished managerId (.error e) =>
    [text " Manager " managerIdStyle, formatted (fmt managerId) managerIdStyle,
      text " closed with IO error: " defaultStyle, formatted (fmt e) errorStyle]
  | .shutdownSignalReceived =>
    [text " Shutdown signal received" shutdownSignalStyle]

def logEventToSingleLine (localDateTime : LocalDateTime) (event : Event) : List LogSpan :=
  formatted (localDateTime event.timestamp.toInt).bracketed timestampStyle :: eventSpans event.data

end Spans

end DustDevil
