import DustDevil.Lib.Conn
import DustDevil.Server.ChunkReader
import DustDevil.Server.Context

/-!
# A socks5 connection

`socks5/parsers.rs`, `auth.rs`, `responses.rs` and `mod.rs`, up to the moment the relay begins. What
is outside the server (whether a write succeeds, what a name resolves to, which sockets can be made
and connected) is a `SocksEnv`; what the connection does is a list of `SocksEffect`s. The context's
state holds each of its fields as it is when the connection reads it, which it does once.
-/

namespace DustDevil

open Wire

/-! ## Parsers -/

section Parsers

variable {ρ : Type} [AsyncRead ρ]

inductive SocksHandshakeError where
  | invalidVersion (ver : UInt8)
  | io (e : IoError)
  deriving DecidableEq, Repr

structure SocksHandshake where
  methods : List UInt8
  deriving DecidableEq, Repr

def parseHandshake : Proc ρ SocksHandshakeError SocksHandshake := do
  let ver ← readU8.mapErr .io
  if ver ≠ 5 then .throw (.invalidVersion ver)
  else do
    let nmethods ← readU8.mapErr .io
    let methods ← (readExact nmethods.toNat).mapErr .io
    pure ⟨methods⟩

inductive ParseRequestError where
  | invalidVersion (ver : UInt8)
  | commandNotSupported (cmd : UInt8)
  | invalidATYP (atyp : UInt8)
  | io (e : IoError)
  deriving DecidableEq, Repr

def parseIpv4 : Proc ρ IoError SocksRequest := do
  let octets ← readExact 4
  let port ← readU16
  pure (.fromIpv4 (.ofOctets octets) port)

def parseDomainname (fuel : ℕ) : Proc ρ IoError SocksRequest := do
  let domainname ← readDomainname fuel
  let port ← readU16
  pure (.fromDomainname domainname port)

def parseIpv6 : Proc ρ IoError SocksRequest := do
  let octets ← readExact 16
  let port ← readU16
  pure (.fromIpv6 (.ofOctets octets) port)

def parseDestination (fuel : ℕ) (atyp : UInt8) : Proc ρ ParseRequestError SocksRequest :=
  if atyp = 1 then parseIpv4.mapErr .io
  else if atyp = 3 then (parseDomainname fuel).mapErr .io
  else if atyp = 4 then parseIpv6.mapErr .io
  else .throw (.invalidATYP atyp)

/-- `parse_request`, with `fuel` reads for a domain name. -/
def parseRequest (fuel : ℕ) : Proc ρ ParseRequestError SocksRequest := do
  let ver ← readU8.mapErr .io
  if ver ≠ 5 then .throw (.invalidVersion ver)
  else do
    let cmd ← readU8.mapErr .io
    if cmd ≠ 1 then .throw (.commandNotSupported cmd)
    else do
      let _rsv ← readU8.mapErr .io
      let atyp ← readU8.mapErr .io
      parseDestination fuel atyp

end Parsers

/-! ## Responses -/

section Responses

inductive SocksStatus where
  | success
  | generalFailure
  | connectionNotAllowed
  | networkUnreachable
  | hostUnreachable
  | connectionRefused
  | commandNotSupported
  | addressTypeNotSupported
  deriving DecidableEq, Repr

namespace SocksStatus

def intoU8 : SocksStatus → UInt8
  | success => 0
  | generalFailure => 1
  | connectionNotAllowed => 2
  | networkUnreachable => 3
  | hostUnreachable => 4
  | connectionRefused => 5
  | commandNotSupported => 7
  | addressTypeNotSupported => 8

def fromError (e : IoError) : SocksStatus :=
  match e.kind with
  | .connectionAborted | .connectionRefused | .connectionReset => connectionRefused
  | .notConnected => networkUnreachable
  | .permissionDenied => connectionNotAllowed
  | .timedOut => hostUnreachable
  | .addrNotAvailable | .unsupported => addressTypeNotSupported
  | _ => generalFailure

def fromParseError : ParseRequestError → SocksStatus
  | .commandNotSupported _ => commandNotSupported
  | .invalidATYP _ => addressTypeNotSupported
  | .io e => fromError e
  | .invalidVersion _ => generalFailure

end SocksStatus

def handshakeResponse (method : Option AuthMethod) : List UInt8 :=
  [0x05, (method.map AuthMethod.intoU8).getD 0xFF]

def portBytes (port : UInt16) : List UInt8 := [(port >>> 8).toUInt8, (port &&& 0x00FF).toUInt8]

def requestResponse (status : SocksStatus) (socketBound : Option SocketAddr) : List UInt8 :=
  [5, status.intoU8, 0] ++ match socketBound with
    | some (.v4 addr) => 1 :: addr.ip.octets ++ portBytes addr.port
    | some (.v6 addr) => 4 :: addr.ip.octets ++ portBytes addr.port
    | none => 1 :: [0, 0, 0, 0, 0, 0]

end Responses

/-! ## The connection -/

/-- What a connection meets outside the server. `i` counts the addresses tried before. -/
structure SocksEnv where
  writeHandshake : Except IoError Unit
  writeAuth : Except IoError Unit
  writeRequest : Except IoError Unit
  lookupHost : Str → Except IoError (List SocketAddr)
  newSocket : (i : ℕ) → SocketAddr → Except IoError Unit
  /-- The new stream's local address. -/
  connect : (i : ℕ) → SocketAddr → Except IoError (Option SocketAddr)

/-- What a connection does, in order. A write is all the bytes it is asked to write, and
`parseRequest` marks the call of that function. -/
inductive SocksEffect where
  | log (event : EventData)
  | write (bytes : List UInt8)
  | parseRequest
  | lookupHost (host : Str)
  | newSocket (address : SocketAddr)
  | connect (address : SocketAddr)

abbrev SocksConn (ρ : Type) : Type := Conn ρ Unit SocksEffect

/-- How `handle_socks5_inner` goes on: it returns, or it relays. -/
inductive SocksOutcome where
  | closed
  | relaying (address : SocketAddr)
  deriving DecidableEq, Repr

section Connection

variable {ρ ε α : Type} [AsyncRead ρ] (env : SocksEnv) (cx : ClientContext)

def logSocks (event : EventData) : Proc (SocksConn ρ) ε Unit :=
  Conn.perform ((cx.log event).map .log)

/-- `writer.write_all(&bytes).await?`. -/
def writeToClient (result : Except IoError Unit) (bytes : List UInt8) :
    Proc (SocksConn ρ) IoError Unit := do
  Conn.perform [.write bytes]
  .ofExcept result

def sendHandshakeResponse (method : Option AuthMethod) : Proc (SocksConn ρ) IoError Unit :=
  writeToClient env.writeHandshake (handshakeResponse method)

def sendRequestResponse (status : SocksStatus) (socketBound : Option SocketAddr) :
    Proc (SocksConn ρ) IoError Unit :=
  writeToClient env.writeRequest (requestResponse status socketBound)

def selectAuthMethod (methods : List UInt8) : Option AuthMethod :=
  if cx.isNoauthEnabled ∧ AuthMethod.noAuth.intoU8 ∈ methods then some .noAuth
  else if cx.isUserpassEnabled ∧ AuthMethod.usernameAndPassword.intoU8 ∈ methods then
    some .usernameAndPassword
  else none

/-- The part of `handle_userpass_auth` that finds the status. -/
def userpassStatus : Proc (SocksConn ρ) IoError Bool := do
  let ver ← Conn.read readU8
  if ver ≠ 1 then do
    logSocks cx (.clientRequestedUnsupportedUserpassVersion cx.clientId ver)
    pure false
  else do
    let username ← Conn.read readChunkedUtf8String
    let password ← Conn.read readChunkedUtf8String
    let status := cx.tryLogin username password
    logSocks cx (.clientAuthenticatedWithUserpass cx.clientId username status)
    pure status

def handleUserpassAuth : Proc (SocksConn ρ) IoError Bool := do
  let status ← userpassStatus cx
  writeToClient env.writeAuth [1, if status then 0 else 1]
  pure status

def authenticate : Option AuthMethod → Proc (SocksConn ρ) IoError Bool
  | some .noAuth => pure true
  | some .usernameAndPassword => handleUserpassAuth env cx
  | none => pure false

def selectedAuthEvent : Option AuthMethod → EventData
  | some method => .clientSelectedAuthMethod cx.clientId method
  | none => .clientNoAcceptableAuthMethod cx.clientId

/-- The first part of `handle_socks5_inner`: whether the client may go on to its request. -/
def negotiate : Proc (SocksConn ρ) IoError Bool := do
  let handshake ← (Conn.read parseHandshake).attempt
  match handshake with
  | .error (.io e) => .throw e
  | .error (.invalidVersion ver) => do
    logSocks cx (.clientRequestedUnsupportedVersion cx.clientId ver)
    sendHandshakeResponse env none
    pure false
  | .ok handshake => do
    let maybeAuthMethod := selectAuthMethod cx handshake.methods
    logSocks cx (selectedAuthEvent cx maybeAuthMethod)
    sendHandshakeResponse env maybeAuthMethod
    authenticate env cx maybeAuthMethod

def requestAddresses (request : SocksRequest) : Proc (SocksConn ρ) IoError (List SocketAddr) :=
  match request.destination with
  | .ipv4 ipv4 => pure [.v4 ⟨ipv4, request.port⟩]
  | .ipv6 ipv6 => pure [.v6 ⟨ipv6, request.port, 0, 0⟩]
  | .domainname domainname => do
    logSocks cx (.clientDnsLookup cx.clientId domainname)
    Conn.perform [.lookupHost (domainname ++ [':', '0'])]
    let addresses ← .ofExcept (env.lookupHost (domainname ++ [':', '0']))
    pure (addresses.map (SocketAddr.setPort request.port))

/-- `connect_socket` from the `i`-th address on: the stream's remote and local addresses, or the
status to reply with. -/
def connectSocket : ℕ → Option SocksStatus → List SocketAddr →
    Proc (SocksConn ρ) IoError (Except SocksStatus (SocketAddr × Option SocketAddr))
  | _, lastError, [] => pure (.error (lastError.getD .hostUnreachable))
  | i, lastError, address :: addresses => do
    logSocks cx (.clientAttemptingConnect cx.clientId address)
    Conn.perform [.newSocket address]
    match env.newSocket i address with
    | .error e => do
      logSocks cx (.clientConnectionAttemptBindFailed cx.clientId e)
      connectSocket (i + 1) lastError addresses
    | .ok _ => do
      Conn.perform [.connect address]
      match env.connect i address with
      | .error e => do
        logSocks cx (.clientConnectionAttemptConnectFailed cx.clientId e)
        connectSocket (i + 1) (some (.fromError e)) addresses
      | .ok localAddr => do
        logSocks cx (.clientConnectedToDestination cx.clientId address)
        pure (.ok (address, localAddr))

def parseErrorEvents : ParseRequestError → List EventData
  | .io _ => []
  | .invalidVersion ver => [.clientRequestedUnsupportedVersion cx.clientId ver]
  | .commandNotSupported cmd => [.clientRequestedUnsupportedCommand cx.clientId cmd]
  | .invalidATYP atyp => [.clientRequestedUnsupportedAtyp cx.clientId atyp]

/-- Connecting to the addresses of a request, and the reply. -/
def connectAndReply (addresses : List SocketAddr) : Proc (SocksConn ρ) IoError SocksOutcome := do
  let connected ← connectSocket env cx 0 none addresses
  match connected with
  | .error status => do
    logSocks cx (.clientFailedToConnectToDestination cx.clientId)
    sendRequestResponse env status none
    pure .closed
  | .ok (address, localAddr) => do
    sendRequestResponse env .success localAddr
    pure (.relaying address)

/-- The rest of `handle_socks5_inner`, up to `copy_bidirectional`. -/
def serveRequest (fuel : ℕ) : Proc (SocksConn ρ) IoError SocksOutcome := do
  Conn.perform [.parseRequest]
  let parsed ← (Conn.read (parseRequest fuel)).attempt
  match parsed with
  | .error (.io e) => .throw e
  | .error e => do
    Conn.perform (((parseErrorEvents cx e).flatMap cx.log).map .log)
    sendRequestResponse env (.fromParseError e) none
    pure .closed
  | .ok request => do
    let addresses ← requestAddresses env cx request
    connectAndReply env cx addresses

def handleSocks5Inner (fuel : ℕ) : Proc (SocksConn ρ) IoError SocksOutcome := do
  let authStatus ← negotiate env cx
  if authStatus then serveRequest env cx fuel else pure .closed

end Connection

end DustDevil
