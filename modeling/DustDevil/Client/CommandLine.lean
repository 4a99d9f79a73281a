import DustDevil.Client.Args
import DustDevil.Client.Manager
import DustDevil.Server.Args

/-!
# The client's command line

The rest of the client's `args.rs`, and what `client.rs` and `handle_requests.rs` do with it: the
handshake, and then a request for each that the command line gives. `parse_socket_arg` is the
server's.
-/

namespace DustDevil

open Wire

namespace Sandstorm

inductive CommandRequest where
  | shutdown
  | listSocks5Sockets
  | addSocks5Socket (address : SocketAddr)
  | removeSocks5Socket (address : SocketAddr)
  | listSandstormSockets
  | addSandstormSocket (address : SocketAddr)
  | removeSandstormSocket (address : SocketAddr)
  | listUsers
  | addUser (username password : Str) (role : UserRole)
  | updateUser (username : Str) (maybePassword : Option Str) (maybeRole : Option UserRole)
  | deleteUser (username : Str)
  | listAuthMethods
  | toggleAuthMethod (authMethod : AuthMethod) (status : Bool)
  | getMetrics
  | getBufferSize
  | setBufferSize (bufferSize : UInt32)
  | meow
  deriving DecidableEq

structure StartupArguments where
  verbose : Bool
  silent : Bool
  serverAddress : List SocketAddr
  loginCredentials : Str × Str
  requests : List CommandRequest
  outputLogs : Bool
  interactive : Bool

namespace StartupArguments

def empty : StartupArguments where
  verbose := false
  silent := false
  serverAddress := []
  loginCredentials := ([], [])
  requests := []
  outputLogs := false
  interactive := false

/-- `[::1]` and `127.0.0.1` at a port. -/
def localhost (port : UInt16) : List SocketAddr :=
  [.v6 ⟨⟨1⟩, port, 0, 0⟩, .v4 ⟨⟨0x7F000001⟩, port⟩]

def fillEmptyFieldsWithDefaults (args : StartupArguments) : StartupArguments :=
  { args with
    serverAddress :=
      if args.serverAddress = [] then localhost defaultSandstormPort else args.serverAddress }

/-- `requests.push`, of each of them. -/
def pushRequests (args : StartupArguments) (requests : List CommandRequest) : StartupArguments :=
  { args with requests := args.requests ++ requests }

end StartupArguments

inductive ArgumentsRequest where
  | help
  | version
  | run (args : StartupArguments)

/-! ## The arguments of the options -/

inductive CredentialsErrorType where
  | unexpectedEnd (arg : Str)
  | alreadySpecified (arg : Str)
  | empty (arg : Str)
  | dontSpecifyRoleChar (arg : Str) (roleChar : Char)
  | emptyUsername (arg : Str)
  | usernameTooLong (arg : Str)
  | emptyPassword (arg : Str)
  | passwordTooLong (arg : Str)
  deriving DecidableEq, Repr

inductive EnvCredentialsErrorType where
  | empty
  | notUnicode
  | dontSpecifyRoleChar (roleChar : Char)
  | emptyUsername
  | usernameTooLong
  | emptyPassword
  | passwordTooLong
  deriving DecidableEq, Repr

inductive AddUserErrorType where
  | unexpectedEnd (arg : Str)
  | empty (arg : Str)
  | missingPassword (arg : Str)
  | invalidRoleChar (arg : Str) (roleChar : Char)
  | emptyUsername (arg : Str)
  | usernameTooLong (arg : Str)
  | emptyPassword (arg : Str)
  | passwordTooLong (arg : Str)
  deriving DecidableEq, Repr

inductive UpdateUserErrorType where
  | unexpectedEnd (arg : Str)
  | empty (arg : Str)
  | nothingWasSpecified (arg : Str)
  | invalidRoleChar (arg : Str) (roleChar : Char)
  | emptyUsername (arg : Str)
  | usernameTooLong (arg : Str)
  | emptyPassword (arg : Str)
  | passwordTooLong (arg : Str)
  deriving DecidableEq, Repr

inductive DeleteUserErrorType where
  | unexpectedEnd (arg : Str)
  | empty (arg : Str)
  | usernameTooLong (arg : Str)
  deriving DecidableEq, Repr

inductive BufferSizeErrorType where
  | unexpectedEnd (arg : Str)
  | empty (arg : Str)
  | cannotBeZero (arg : Str)
  | invalidFormat (arg arg2 : Str)
  | invalidCharacters (arg arg2 : Str)
  | tooLarge (arg arg2 : Str)
  deriving DecidableEq, Repr

inductive ArgumentsError where
  | unknownArgument (arg : Str)
  | hostError (e : SocketErrorType)
  | credentialsError (e : CredentialsErrorType)
  | envCredentialsError (e : EnvCredentialsErrorType)
  | noCredentialsSpecified
  | addSocks5Error (e : SocketErrorType)
  | removeSocks5Error (e : SocketErrorType)
  | addSandstormError (e : SocketErrorType)
  | removeSandstormError (e : SocketErrorType)
  | addUserError (e : AddUserErrorType)
  | updateUserError (e : UpdateUserErrorType)
  | deleteUserError (e : DeleteUserErrorType)
  | authToggleError (e : AuthToggleErrorType)
  | bufferSizeError (e : BufferSizeErrorType)
  | cantMixOutputAndInteractive
  deriving DecidableEq, Repr

inductive VarError where
  | notPresent
  | notUnicode
  deriving DecidableEq, Repr

/-- What is outside the program, its texts and the variable `SANDSTORM_USER`. -/
structure ArgsEnv extends DustDevil.ArgsEnv where
  credentials : Except VarError Str

section Options

variable (env : ArgsEnv) (arg : Str)

def credentialsError : ParseIntoUserError → CredentialsErrorType
  | .empty => .empty arg
  | .invalidRoleChar roleChar => .dontSpecifyRoleChar arg roleChar
  | .emptyUsername => .emptyUsername arg
  | .usernameTooLong => .usernameTooLong arg
  | .emptyPassword => .emptyPassword arg
  | .passwordTooLong => .passwordTooLong arg

def parseCredentials (result : Str × Str) (maybeArg2 : Option Str) :
    Except CredentialsErrorType (Str × Str) :=
  if result.1 ≠ [] then .error (.alreadySpecified arg)
  else
    match maybeArg2 with
    | none => .error (.unexpectedEnd arg)
    | some credentials =>
      match parseIntoUser env.alphanumeric credentials with
      | .ok (username, some password, none) => .ok (username, password)
      | .ok (_, _, some role) => .error (.dontSpecifyRoleChar arg role.intoRoleChar)
      | .ok (_, none, _) => .error (.emptyPassword arg)
      | .error e => .error (credentialsError arg e)

def envCredentialsError : ParseIntoUserError → EnvCredentialsErrorType
  | .empty => .empty
  | .invalidRoleChar roleChar => .dontSpecifyRoleChar roleChar
  | .emptyUsername => .emptyUsername
  | .usernameTooLong => .usernameTooLong
  | .emptyPassword => .emptyPassword
  | .passwordTooLong => .passwordTooLong

def parseEnvCredentials : Except EnvCredentialsErrorType (Option (Str × Str)) :=
  match env.credentials with
  | .error .notPresent => .ok none
  | .error .notUnicode => .error .notUnicode
  | .ok credentials =>
    match parseIntoUser env.alphanumeric credentials with
    | .ok (username, some password, none) => .ok (some (username, password))
    | .ok (_, _, some role) => .error (.dontSpecifyRoleChar role.intoRoleChar)
    | .ok (_, none, _) => .error .emptyPassword
    | .error e => .error (envCredentialsError e)

def addUserError : ParseIntoUserError → AddUserErrorType
  | .empty => .empty arg
  | .invalidRoleChar roleChar => .invalidRoleChar arg roleChar
  | .emptyUsername => .emptyUsername arg
  | .usernameTooLong => .usernameTooLong arg
  | .emptyPassword => .emptyPassword arg
  | .passwordTooLong => .passwordTooLong arg

def parseAddUser : Option Str → Except AddUserErrorType (Str × Str × UserRole)
  | none => .error (.unexpectedEnd arg)
  | some userString =>
    match parseIntoUser env.alphanumeric userString with
    | .ok (username, some password, maybeRole) =>
      .ok (username, password, maybeRole.getD .regular)
    | .ok (_, none, _) => .error (.missingPassword arg)
    | .error e => .error (addUserError arg e)

def updateUserError : ParseIntoUserError → UpdateUserErrorType
  | .empty => .empty arg
  | .invalidRoleChar roleChar => .invalidRoleChar arg roleChar
  | .emptyUsername => .emptyUsername arg
  | .usernameTooLong => .usernameTooLong arg
  | .emptyPassword => .emptyPassword arg
  | .passwordTooLong => .passwordTooLong arg

def parseUpdateUser :
    Option Str → Except UpdateUserErrorType (Str × Option Str × Option UserRole)
  | none => .error (.unexpectedEnd arg)
  | some userString =>
    match parseIntoUser env.alphanumeric userString with
    | .ok (_, none, none) => .error (.nothingWasSpecified arg)
    | .ok (username, maybePassword, maybeRole) => .ok (username, maybePassword, maybeRole)
    | .error e => .error (updateUserError arg e)

def parseDeleteUser : Option Str → Except DeleteUserErrorType Str
  | none => .error (.unexpectedEnd arg)
  | some username =>
    if username = [] then .error (.empty arg)
    else if 255 < (utf8 username).length then .error (.usernameTooLong arg)
    else .ok username

def parseAuthArg : Option Str → Except AuthToggleErrorType AuthMethod
  | none => .error (.unexpectedEnd arg)
  | some arg2 =>
    if eqIgnoreAsciiCase arg2 "noauth".toList then .ok .noAuth
    else if eqIgnoreAsciiCase arg2 "userpass".toList then .ok .usernameAndPassword
    else .error (.invalidAuthType arg arg2)

def bufferSizeError (arg2 : Str) : PrettyBufferSizeParseError → BufferSizeErrorType
  | .empty => .empty arg
  | .zero => .cannotBeZero arg
  | .invalidFormat => .invalidFormat arg arg2
  | .invalidCharacters => .invalidCharacters arg arg2
  | .tooLarge => .tooLarge arg arg2

def parseBufferSizeArg : Option Str → Except (Stop BufferSizeErrorType) UInt32
  | none => .error (.err (.unexpectedEnd arg))
  | some arg2 =>
    match parsePrettyBufferSize arg2 with
    | .ok size => .ok size
    | .error e => .error (e.map (bufferSizeError arg arg2))

end Options

/-! ## The options -/

inductive Argument where
  | help
  | version
  | verbose
  | silent
  | host
  | shutdown
  | credentials
  | listSocks5
  | addSocks5
  | removeSocks5
  | listSandstr
  | addSandstr
  | removeSandstr
  | listUsers
  | addUser
  | updateUser
  | deleteUser
  | listAuth
  | authEnable
  | authDisable
  | getMetrics
  | getBufferSize
  | setBufferSize
  | meow
  | outputLogs
  | interactive
  deriving DecidableEq, Repr

namespace Argument

/-- How an option is written: shortly, and in full. -/
def texts : Argument → String × String
  | help => ("-h", "--help")
  | version => ("-V", "--version")
  | verbose => ("-v", "--verbose")
  | silent => ("-s", "--silent")
  | host => ("-x", "--host")
  | shutdown => ("-S", "--shutdown")
  | credentials => ("-c", "--credentials")
  | listSocks5 => ("-l", "--list-socks5")
  | addSocks5 => ("-k", "--add-socks5")
  | removeSocks5 => ("-r", "--remove-socks5")
  | listSandstr => ("-L", "--list-sandstr")
  | addSandstr => ("-K", "--add-sandstr")
  | removeSandstr => ("-R", "--remove-sandstr")
  | listUsers => ("-t", "--list-users")
  | addUser => ("-u", "--add-user")
  | updateUser => ("-p", "--update-user")
  | deleteUser => ("-d", "--delete-user")
  | listAuth => ("-z", "--list-auth")
  | authEnable => ("-A", "--auth-enable")
  | authDisable => ("-a", "--auth-disable")
  | getMetrics => ("-m", "--get-metrics")
  | getBufferSize => ("-B", "--get-buffer-size")
  | setBufferSize => ("-b", "--set-buffer-size")
  | meow => ("-w", "--meow")
  | outputLogs => ("-o", "--output-logs")
  | interactive => ("-i", "--interactive")

/-- Only the full text may be in either case. -/
def isText (argument : Argument) (arg : Str) : Bool :=
  arg = argument.texts.1.toList ∨ eqIgnoreAsciiCase arg argument.texts.2.toList

/-- The comparisons, in the order they are made in. -/
def ofText (arg : Str) : Option Argument :=
  [help, version, verbose, silent, host, shutdown, credentials, listSocks5, addSocks5, removeSocks5,
    listSandstr, addSandstr, removeSandstr, listUsers, addUser, updateUser, deleteUser, listAuth,
    authEnable, authDisable, getMetrics, getBufferSize, setBufferSize, meow, outputLogs,
    interactive].find? (isText · arg)

/-- Whether the option takes the next argument, if there is one. -/
def takesNext : Argument → Bool
  | host | credentials | addSocks5 | removeSocks5 | addSandstr | removeSandstr | addUser
  | updateUser | deleteUser | authEnable | authDisable | setBufferSize => true
  | _ => false

/-- A request for each address of the argument. -/
def socketRequests (env : ArgsEnv) (arg : Str) (arg2 : Option Str) (defaultPort : UInt16)
    (request : SocketAddr → CommandRequest) : Except SocketErrorType (List CommandRequest) :=
  (parseSocketArg env.toArgsEnv arg [] arg2 defaultPort).map (·.map request)

/-- The requests that an option asks for. -/
def requests (env : ArgsEnv) (arg : Str) (arg2 : Option Str) :
    Argument → Except (Stop ArgumentsError) (List CommandRequest)
  | shutdown => .ok [.shutdown]
  | listSocks5 => .ok [.listSocks5Sockets]
  | addSocks5 => (socketRequests env arg arg2 defaultSocks5Port .addSocks5Socket).mapError
      fun e => .err (.addSocks5Error e)
  | removeSocks5 => (socketRequests env arg arg2 defaultSocks5Port .removeSocks5Socket).mapError
      fun e => .err (.removeSocks5Error e)
  | listSandstr => .ok [.listSandstormSockets]
  | addSandstr => (socketRequests env arg arg2 defaultSandstormPort .addSandstormSocket).mapError
      fun e => .err (.addSandstormError e)
  | removeSandstr =>
    (socketRequests env arg arg2 defaultSandstormPort .removeSandstormSocket).mapError
      fun e => .err (.removeSandstormError e)
  | listUsers => .ok [.listUsers]
  | addUser =>
    match parseAddUser env arg arg2 with
    | .ok (username, password, role) => .ok [.addUser username password role]
    | .error e => .error (.err (.addUserError e))
  | updateUser =>
    match parseUpdateUser env arg arg2 with
    | .ok (username, maybePassword, maybeRole) =>
      .ok [.updateUser username maybePassword maybeRole]
    | .error e => .error (.err (.updateUserError e))
  | deleteUser =>
    match parseDeleteUser arg arg2 with
    | .ok username => .ok [.deleteUser username]
    | .error e => .error (.err (.deleteUserError e))
  | listAuth => .ok [.listAuthMethods]
  | authEnable =>
    match parseAuthArg arg arg2 with
    | .ok authMethod => .ok [.toggleAuthMethod authMethod true]
    | .error e => .error (.err (.authToggleError e))
  | authDisable =>
    match parseAuthArg arg arg2 with
    | .ok authMethod => .ok [.toggleAuthMethod authMethod false]
    | .error e => .error (.err (.authToggleError e))
  | getMetrics => .ok [.getMetrics]
  | getBufferSize => .ok [.getBufferSize]
  | setBufferSize =>
    match parseBufferSizeArg arg arg2 with
    | .ok bufferSize => .ok [.setBufferSize bufferSize]
    | .error e => .error (e.map .bufferSizeError)
  | meow => .ok [.meow]
  | help | version | verbose | silent | host | credentials | outputLogs | interactive => .ok []

/-- What an option other than `-h` and `-V` does to the arguments so far. -/
def apply (env : ArgsEnv) (result : StartupArguments) (arg : Str) (arg2 : Option Str) :
    Argument → Except (Stop ArgumentsError) StartupArguments
  | help | version => .ok result
  | verbose => .ok { result with verbose := true }
  | silent => .ok { result with silent := true }
  | host =>
    match parseSocketArg env.toArgsEnv arg result.serverAddress arg2 defaultSandstormPort with
    | .ok serverAddress => .ok { result with serverAddress := serverAddress }
    | .error e => .error (.err (.hostError e))
  | credentials =>
    match parseCredentials env arg result.loginCredentials arg2 with
    | .ok loginCredentials => .ok { result with loginCredentials := loginCredentials }
    | .error e => .error (.err (.credentialsError e))
  | outputLogs =>
    if result.interactive then .error (.err .cantMixOutputAndInteractive)
    else .ok { result with outputLogs := true }
  | interactive =>
    if result.outputLogs then .error (.err .cantMixOutputAndInteractive)
    else .ok { result with interactive := true }
  | argument => (argument.requests env arg arg2).map result.pushRequests

end Argument

section Parse

variable (env : ArgsEnv)

/-- What follows the loop over the arguments. -/
def finishArguments (result : StartupArguments) : Except (Stop ArgumentsError) ArgumentsRequest :=
  if result.loginCredentials.1 = [] then
    match parseEnvCredentials env with
    | .ok (some credentials) =>
      .ok (.run { result with loginCredentials := credentials }.fillEmptyFieldsWithDefaults)
    | .ok none => .error (.err .noCredentialsSpecified)
    | .error e => .error (.err (.envCredentialsError e))
  else .ok (.run result.fillEmptyFieldsWithDefaults)

/-- The loop over the arguments. -/
def parseArgumentsLoop : StartupArguments → List Str → Except (Stop ArgumentsError) ArgumentsRequest
  | result, [] => finishArguments env result
  | result, [] :: args => parseArgumentsLoop result args
  | result, (c :: s) :: args =>
    match Argument.ofText (c :: s) with
    | none => .error (.err (.unknownArgument (c :: s)))
    | some .help => .ok .help
    | some .version => .ok .version
    | some argument =>
      match argument.apply env result (c :: s) args.head? with
      | .error e => .error e
      | .ok result =>
        match args with
        | [] => parseArgumentsLoop result []
        | next :: args =>
          if argument.takesNext then parseArgumentsLoop result args
          else parseArgumentsLoop result (next :: args)

/-- The first argument is the name of the program. -/
def parseArguments (args : List Str) : Except (Stop ArgumentsError) ArgumentsRequest :=
  parseArgumentsLoop env .empty args.tail

end Parse

/-! ## The requests of a command line -/

/-- The request that the manager's method for the command makes. -/
def CommandRequest.toRequest : CommandRequest → ClientRequest
  | shutdown => .shutdown
  | listSocks5Sockets => .listSocks5Sockets
  | addSocks5Socket address => .addSocks5Socket address
  | removeSocks5Socket address => .removeSocks5Socket address
  | listSandstormSockets => .listSandstormSockets
  | addSandstormSocket address => .addSandstormSocket address
  | removeSandstormSocket address => .removeSandstormSocket address
  | listUsers => .listUsers
  | addUser username password role => .addUser ⟨username, password, role⟩
  | updateUser username maybePassword maybeRole => .updateUser ⟨username, maybePassword, maybeRole⟩
  | deleteUser username => .deleteUser ⟨username⟩
  | listAuthMethods => .listAuthMethods
  | toggleAuthMethod authMethod status => .toggleAuthMethod ⟨authMethod, status⟩
  | getMetrics => .requestCurrentMetrics
  | getBufferSize => .getBufferSize
  | setBufferSize bufferSize => .setBufferSize bufferSize
  | meow => .meow

/-- The calls of `handle_requests`. The `n`-th handler prints the `n`-th result. -/
def handleRequests : List CommandRequest → ℕ → Proc SandstormRequestManager IoError Unit
  | [], _ => pure ()
  | request :: requests, n => do
    request.toRequest.call n
    handleRequests requests (n + 1)

/-- A client's connection. The manager is there from the start, without handlers. -/
structure ClientConn (ρ : Type) where
  reader : ρ
  manager : SandstormRequestManager

section Client

variable {ρ : Type} [AsyncRead ρ]

def ClientConn.onReader {α : Type} (read : Proc ρ IoError α) : Proc (ClientConn ρ) IoError α :=
  read.zoom ClientConn.reader fun conn reader => { conn with reader := reader }

def ClientConn.onManager (p : Proc SandstormRequestManager IoError Unit) :
    Proc (ClientConn ρ) IoError Unit :=
  p.zoom ClientConn.manager fun conn manager => { conn with manager := manager }

/-- What a client meets of its connection: how its handshake is written, and, if the connection
ends while it sends, after how many requests, and what the write that fails then or the task that
reads gives. -/
structure ClientEnv where
  writeHandshake : Except IoError Unit
  ends : Option (ℕ × Except IoError Unit)

/-- `handshake`: whether the status it reads is `Ok`. -/
def handshake (env : ClientEnv) (username password : Str) : Proc (ClientConn ρ) IoError Bool := do
  ClientConn.onManager (SandstormRequestManager.onWriter
    (ByteWrite.write (SandstormHandshakeRef.mk username password)))
  .ofExcept env.writeHandshake
  let result ← ClientConn.onReader (ByteRead.read : Proc ρ IoError SandstormHandshakeStatus)
  pure (result = .ok)

/-- `handle_requests` in the `select!` with the end of the task that reads. What is left in the
manager of a request at which the connection ends is not in it here, as it is dropped. -/
def handleRequestsUntil (ends : Option (ℕ × Except IoError Unit)) (requests : List CommandRequest) :
    Proc SandstormRequestManager IoError Unit :=
  match ends with
  | some (sent, result) =>
    if sent < requests.length then do
      handleRequests (requests.take sent) 0
      .ofExcept result
    else handleRequests requests 0
  | none => handleRequests requests 0

/-- `run_client_inner` from its connection to the end of `handle_requests`. -/
def runClientInner (env : ClientEnv) (startupArgs : StartupArguments) :
    Proc (ClientConn ρ) IoError Unit := do
  let handshakeStatus ←
    handshake env startupArgs.loginCredentials.1 startupArgs.loginCredentials.2
  if handshakeStatus then
    ClientConn.onManager (handleRequestsUntil env.ends startupArgs.requests)
  else pure ()

end Client

end Sandstorm

end DustDevil
