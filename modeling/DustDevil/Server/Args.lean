import DustDevil.Core.BufferSize
import DustDevil.Server.Users

/-!
# The server's command line

`args.rs`. What `to_socket_addrs` gives for a text is a parameter, and so are the alphanumeric
characters.
-/

namespace DustDevil

open Wire

def defaultUsersFile : Str := "users.txt".toList

def defaultSocks5Port : UInt16 := 1080

def defaultSandstormPort : UInt16 := 2222

def defaultBufferSize : UInt32 := 0x2000

structure StartupArguments where
  socks5BindSockets : List SocketAddr
  sandstormBindSockets : List SocketAddr
  verbose : Bool
  silent : Bool
  eventsEnabled : Bool
  logFile : Option Str
  usersFile : Str
  users : UserMap
  noAuthEnabled : Bool
  userpassAuthEnabled : Bool
  bufferSize : UInt32

namespace StartupArguments

def empty : StartupArguments where
  socks5BindSockets := []
  sandstormBindSockets := []
  verbose := false
  silent := false
  eventsEnabled := true
  logFile := none
  usersFile := []
  users := ∅
  noAuthEnabled := true
  userpassAuthEnabled := true
  bufferSize := 0

/-- The unspecified addresses, `[::]` and `0.0.0.0`, at a port. -/
def unspecified (port : UInt16) : List SocketAddr := [.v6 ⟨⟨0⟩, port, 0, 0⟩, .v4 ⟨⟨0⟩, port⟩]

def fillEmptyFieldsWithDefaults (args : StartupArguments) : StartupArguments :=
  { args with
    socks5BindSockets :=
      if args.socks5BindSockets = [] then unspecified defaultSocks5Port else args.socks5BindSockets
    sandstormBindSockets :=
      if args.sandstormBindSockets = [] then unspecified defaultSandstormPort
      else args.sandstormBindSockets
    usersFile := if args.usersFile = [] then defaultUsersFile else args.usersFile
    bufferSize := if args.bufferSize = 0 then defaultBufferSize else args.bufferSize }

end StartupArguments

inductive ArgumentsRequest where
  | help
  | version
  | run (args : StartupArguments)

/-! ## The arguments of the options -/

inductive FileErrorType where
  | unexpectedEnd (arg : Str)
  | alreadySpecified (arg : Str)
  | emptyPath (arg : Str)
  deriving DecidableEq, Repr

inductive SocketErrorType where
  | unexpectedEnd (arg : Str)
  | invalidSocketAddress (arg addr : Str)
  deriving DecidableEq, Repr

inductive NewUserErrorType where
  | unexpectedEnd (arg : Str)
  | duplicateUsername (arg arg2 : Str)
  | invalidUserSpecification (arg arg2 : Str)
  deriving DecidableEq, Repr

inductive AuthToggleErrorType where
  | unexpectedEnd (arg : Str)
  | invalidAuthType (arg arg2 : Str)
  deriving DecidableEq, Repr

inductive BufferSizeErrorType where
  | unexpectedEnd (arg : Str)
  | empty (arg : Str)
  | alreadySpecified (arg : Str)
  | cannotBeZero (arg : Str)
  | invalidFormat (arg arg2 : Str)
  | invalidCharacters (arg arg2 : Str)
  | tooLarge (arg arg2 : Str)
  deriving DecidableEq, Repr

inductive ArgumentsError where
  | unknownArgument (arg : Str)
  | cannotLogWithEventsDisabled
  | logFileError (e : FileErrorType)
  | socks5ListenError (e : SocketErrorType)
  | sandstormListenError (e : SocketErrorType)
  | usersFileError (e : FileErrorType)
  | newUserError (e : NewUserErrorType)
  | authToggleError (e : AuthToggleErrorType)
  | bufferSizeError (e : BufferSizeErrorType)
  deriving DecidableEq, Repr

/-- What is outside the program and its texts. -/
structure ArgsEnv where
  alphanumeric : Alphanumeric
  toSocketAddrs : Str → Except IoError (List SocketAddr)

section Options

variable (env : ArgsEnv) (result : StartupArguments) (arg : Str)

def parseFileArg (path : Str) : Option Str → Except FileErrorType Str
  | none => .error (.unexpectedEnd arg)
  | some arg2 =>
    if arg2 = [] then .error (.emptyPath arg)
    else if path ≠ [] then .error (.alreadySpecified arg)
    else .ok arg2

/-- The addresses that are added are those not there yet. -/
def pushNew (sockets : List SocketAddr) (addrs : List SocketAddr) : List SocketAddr :=
  addrs.foldl (fun sockets addr => if addr ∈ sockets then sockets else sockets ++ [addr]) sockets

def parseSocketArg (sockets : List SocketAddr) (arg2 : Option Str) (defaultPort : UInt16) :
    Except SocketErrorType (List SocketAddr) :=
  match arg2 with
  | none => .error (.unexpectedEnd arg)
  | some arg2 =>
    match env.toSocketAddrs arg2 with
    | .ok addrs => .ok (pushNew sockets addrs)
    | .error e =>
      if e.kind = .invalidInput then
        match env.toSocketAddrs (arg2 ++ ':' :: Nat.toDigits 10 defaultPort.toNat) with
        | .ok addrs => .ok (pushNew sockets addrs)
        | .error _ => .error (.invalidSocketAddress arg arg2)
      else .error (.invalidSocketAddress arg arg2)

def parseNewUserArg : Option Str → Except NewUserErrorType StartupArguments
  | none => .error (.unexpectedEnd arg)
  | some arg2 =>
    let trimmed := trim arg2
    let startsWithAlphanumeric := trimmed.head?.any env.alphanumeric.test
    let parsed :=
      if startsWithAlphanumeric then parseLineIntoUser (regularPrefixChar :: trimmed) 1 1
      else parseLineIntoUser trimmed 1 0
    match parsed with
    | .ok (some (username, user)) =>
      if (result.users.lookup username).isSome then .error (.duplicateUsername arg arg2)
      else .ok { result with users := result.users.insert username user }
    | _ => .error (.invalidUserSpecification arg arg2)

def parseAuthArg (enable : Bool) : Option Str → Except AuthToggleErrorType StartupArguments
  | none => .error (.unexpectedEnd arg)
  | some arg2 =>
    if eqIgnoreAsciiCase arg2 "noauth".toList then .ok { result with noAuthEnabled := enable }
    else if eqIgnoreAsciiCase arg2 "userpass".toList then
      .ok { result with userpassAuthEnabled := enable }
    else .error (.invalidAuthType arg arg2)

/-- The error of an option's argument that is no buffer size. -/
def bufferSizeError (arg2 : Str) : PrettyBufferSizeParseError → BufferSizeErrorType
  | .empty => .empty arg
  | .zero => .cannotBeZero arg
  | .invalidFormat => .invalidFormat arg arg2
  | .invalidCharacters => .invalidCharacters arg arg2
  | .tooLarge => .tooLarge arg arg2

def parseBufferSizeArg : Option Str → Except (Stop BufferSizeErrorType) StartupArguments
  | none => .error (.err (.unexpectedEnd arg))
  | some arg2 =>
    if result.bufferSize ≠ 0 then .error (.err (.alreadySpecified arg))
    else
      match parsePrettyBufferSize arg2 with
      | .ok size => .ok { result with bufferSize := size }
      | .error e => .error (e.map (bufferSizeError arg arg2))

end Options

/-! ## The options -/

inductive Argument where
  | help
  | version
  | verbose
  | silent
  | disableEvents
  | logFile
  | listen
  | management
  | usersFile
  | user
  | authEnable
  | authDisable
  | bufferSize
  deriving DecidableEq, Repr

namespace Argument

/-- How an option is written: shortly, and in full. -/
def texts : Argument → String × String
  | help => ("-h", "--help")
  | version => ("-V", "--version")
  | verbose => ("-v", "--verbose")
  | silent => ("-s", "--silent")
  | disableEvents => ("-d", "--disable-events")
  | logFile => ("-o", "--log-file")
  | listen => ("-l", "--listen")
  | management => ("-m", "--management")
  | usersFile => ("-U", "--users-file")
  | user => ("-u", "--user")
  | authEnable => ("-A", "--auth-enable")
  | authDisable => ("-a", "--auth-disable")
  | bufferSize => ("-b", "--buffer-size")

/-- Only the full text may be in either case. -/
def isText (argument : Argument) (arg : Str) : Bool :=
  arg = argument.texts.1.toList ∨ eqIgnoreAsciiCase arg argument.texts.2.toList

/-- The comparisons, in the order they are made in. -/
def ofText (arg : Str) : Option Argument :=
  [help, version, verbose, silent, disableEvents, logFile, listen, management, usersFile, user,
    authEnable, authDisable, bufferSize].find? (isText · arg)

/-- Whether the option takes the next argument, if there is one. -/
def takesNext : Argument → Bool
  | logFile | listen | management | usersFile | user | authEnable | authDisable | bufferSize => true
  | help | version | verbose | silent | disableEvents => false

/-- What an option other than `-h` and `-V` does to the arguments so far. -/
def apply (env : ArgsEnv) (result : StartupArguments) (arg : Str) (arg2 : Option Str) :
    Argument → Except (Stop ArgumentsError) StartupArguments
  | help | version => .ok result
  | verbose => .ok { result with verbose := true }
  | silent => .ok { result with silent := true }
  | disableEvents =>
    if result.logFile.isSome then .error (.err .cannotLogWithEventsDisabled)
    else .ok { result with eventsEnabled := false, silent := true }
  | logFile =>
    if result.eventsEnabled = false then .error (.err .cannotLogWithEventsDisabled)
    else
      match parseFileArg arg (result.logFile.getD []) arg2 with
      | .ok path => .ok { result with logFile := some path }
      | .error e => .error (.err (.logFileError e))
  | listen =>
    match parseSocketArg env arg result.socks5BindSockets arg2 defaultSocks5Port with
    | .ok sockets => .ok { result with socks5BindSockets := sockets }
    | .error e => .error (.err (.socks5ListenError e))
  | management =>
    match parseSocketArg env arg result.sandstormBindSockets arg2 defaultSandstormPort with
    | .ok sockets => .ok { result with sandstormBindSockets := sockets }
    | .error e => .error (.err (.sandstormListenError e))
  | usersFile =>
    match parseFileArg arg result.usersFile arg2 with
    | .ok path => .ok { result with usersFile := path }
    | .error e => .error (.err (.usersFileError e))
  | user => (parseNewUserArg env result arg arg2).mapError fun e => .err (.newUserError e)
  | authEnable => (parseAuthArg result arg true arg2).mapError fun e => .err (.authToggleError e)
  | authDisable => (parseAuthArg result arg false arg2).mapError fun e => .err (.authToggleError e)
  | bufferSize => (parseBufferSizeArg result arg arg2).mapError fun e => e.map .bufferSizeError

end Argument

section Parse

variable (env : ArgsEnv)

/-- The loop over the arguments. -/
def parseArgumentsLoop : StartupArguments → List Str → Except (Stop ArgumentsError) ArgumentsRequest
  | result, [] => .ok (.run result.fillEmptyFieldsWithDefaults)
  | result, [] :: args => parseArgumentsLoop result args
  | result, (c :: s) :: args =>
    match Argument.ofText (c :: s) with
    | none => .error (.err (.unknownArgument (c :: s)))
    | some .help => .ok .help
    | some .version => .ok .version
    | some argument =>
      match argument.apply env result (c :: s) args.head? with
      | .error e => .error e
      | .ok result =>
        match args with
        | [] => parseArgumentsLoop result []
        | next :: args =>
          if argument.takesNext then parseArgumentsLoop result args
          else parseArgumentsLoop result (next :: args)

/-- The first argument is the name of the program. -/
def parseArguments (args : List Str) : Except (Stop ArgumentsError) ArgumentsRequest :=
  parseArgumentsLoop env .empty args.tail

end Parse

end DustDevil
