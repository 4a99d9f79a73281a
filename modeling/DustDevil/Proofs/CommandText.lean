import DustDevil.Lib.Decimal
import DustDevil.Lib.Display
import DustDevil.Proofs.BufferSize
import DustDevil.Proofs.CommandLine

/-!
# Requests as a command line

The requests that a command line can give, written as one. The parser reads exactly these requests
back, in the same order (`parseArguments_written`), and as long as the addresses it is given have
texts of their own there are no others (`commandRequests_iff`).
-/

namespace DustDevil

open Wire

namespace Sandstorm

/-! ## The texts -/

section Text

/-- A user as an argument gives it. -/
def userText (role : Option UserRole) (username : Str) (password : Option Str) : Str :=
  (role.map UserRole.intoRoleChar).toList ++ (escapeAll username
    ++ (password.map fun password => ':' :: escapeAll password).getD [])

theorem writtenUsername_escapeAll (rest : Str) :
    ∀ s : Str, writtenUsername false (escapeAll s ++ rest)
      = escapeAll s ++ writtenUsername false rest
  | [] => rfl
  | c :: s => by
    have ih := writtenUsername_escapeAll rest s
    show escapeChar :: c :: writtenUsername false (escapeAll s ++ rest) = _
    rw [ih]
    rfl

theorem readFields_escapeAll (username : Str) (password : Option Str) :
    readFields false (escapeAll username
        ++ (password.map fun password => ':' :: escapeAll password).getD [])
      = (username, password) := by
  have hwritten : writtenUsername false
      ((password.map fun password => ':' :: escapeAll password).getD []) = [] := by
    cases password <;> rfl
  rw [readFields, writtenUsername_escapeAll, hwritten, List.append_nil, unescape_escapeAll,
    List.drop_left]
  cases password with
  | none => rfl
  | some password => simp [unescape_escapeAll]

theorem parseIntoUser_userText {alphanumeric : Alphanumeric} {role : Option UserRole}
    {username : Str} {password : Option Str} (husername : Accepted username)
    (hpassword : ∀ p ∈ password, Accepted p) :
    parseIntoUser alphanumeric (userText role username password)
      = .ok (username, password, role) := by
  rw [parseIntoUser_eq_ok]
  refine ⟨?_, husername.1, husername.2, hpassword⟩
  have hfields := readFields_escapeAll username password
  unfold userText
  cases role with
  | some role =>
    simp only [Option.map_some, Option.toList_some, List.singleton_append]
    rw [argumentFields_role, hfields]
  | none =>
    obtain ⟨c, s, hcons⟩ := List.exists_cons_of_ne_nil husername.1
    simp only [Option.map_none, Option.toList_none, List.nil_append]
    rw [hcons, escapeAll, List.flatMap_cons, List.cons_append, List.cons_append] at hfields ⊢
    rw [argumentFields, if_pos (.inr rfl), hfields]

theorem toDigit_of_isDigit {c : Char} (h : c.isDigit = true) :
    toDigit 10 c = some (c.toNat - '0'.toNat) ∧ isWhitespace c = false := by
  have hall : ∀ n : Fin 128, (Char.ofNat n).isDigit = true →
      toDigit 10 (Char.ofNat n) = some ((Char.ofNat n).toNat - '0'.toNat)
        ∧ isWhitespace (Char.ofNat n) = false := by
    decide +kernel
  refine forall_ascii (P := fun c => c.isDigit = true →
    toDigit 10 c = some (c.toNat - '0'.toNat) ∧ isWhitespace c = false) hall c ?_ h
  have hle : c.val ≤ '9'.val := by
    unfold Char.isDigit at h
    simp only [Bool.and_eq_true, decide_eq_true_eq] at h
    exact h.2
  exact lt_of_le_of_lt (UInt32.le_iff_toNat_le.1 hle) (by decide)

/-- A number's digits are read as the number. -/
theorem digits_of_toDigits (n : ℕ) :
    ∃ digits, (Nat.toDigits 10 n).mapM (toDigit 10) = some digits ∧ numberOf 10 digits = n := by
  have hall : ∀ (s : Str) (init : ℕ), (∀ c ∈ s, c.isDigit = true) →
      ∃ digits, s.mapM (toDigit 10) = some digits
        ∧ digits.foldl (fun n d => n * 10 + d) init = Nat.ofDigitChars 10 s init := by
    intro s
    induction s with
    | nil => exact fun init _ => ⟨[], rfl, Nat.ofDigitChars_nil.symm⟩
    | cons c s ih =>
      intro init h
      obtain ⟨hc, hs⟩ := List.forall_mem_cons.1 h
      obtain ⟨digits, hdigits, hfold⟩ := ih (10 * init + (c.toNat - '0'.toNat)) hs
      have hdigit := (toDigit_of_isDigit hc).1
      refine ⟨(c.toNat - '0'.toNat) :: digits, ?_, ?_⟩
      · rw [List.mapM_cons, hdigit, hdigits]
        rfl
      · rw [List.foldl_cons, Nat.ofDigitChars_cons, ← hfold, Nat.mul_comm]
  obtain ⟨digits, hdigits, hfold⟩ := hall (Nat.toDigits 10 n) 0 fun _ => isDigit_of_mem_toDigits
  exact ⟨digits, hdigits, hfold.trans Nat.ofDigitChars_ten_toDigits⟩

theorem trim_toDigits (n : ℕ) : trim (Nat.toDigits 10 n) = Nat.toDigits 10 n := by
  have hdigits : ∀ c ∈ Nat.toDigits 10 n, ¬ isWhitespace c = true := fun c hc => by
    simp [(toDigit_of_isDigit (isDigit_of_mem_toDigits hc)).2]
  have hstart : (Nat.toDigits 10 n).dropWhile isWhitespace = Nat.toDigits 10 n :=
    List.dropWhile_eq_self_iff.2 fun h => hdigits _ (List.getElem_mem h)
  rw [trim, hstart]
  exact List.rdropWhile_eq_self_iff.2 fun h => hdigits _ (List.getLast_mem h)

theorem parsePrettyBufferSize_toDigits {size : UInt32} (h : size ≠ 0) :
    parsePrettyBufferSize (Nat.toDigits 10 size.toNat) = .ok size := by
  obtain ⟨digits, hdigits, hnumber⟩ := digits_of_toDigits size.toNat
  have hpos : 0 < size.toNat := by
    rw [Nat.pos_iff_ne_zero]
    exact fun hzero => h (UInt32.toNat_inj.1 hzero)
  refine parsePrettyBufferSize_eq_ok.2
    ⟨size.toNat, 1, ?_, (Nat.mul_one _).symm, by simpa using hpos⟩
  rw [trim_toDigits]
  exact ⟨[], Nat.toDigits 10 size.toNat, [], 10, digits, by simp, .inl ⟨rfl, rfl⟩,
    Nat.toDigits_ne_nil, hdigits, hnumber.symm, .inl ⟨rfl, rfl⟩⟩

end Text

/-! ## The requests -/

section Requests

variable {env : ArgsEnv} {arg : Str}

namespace CommandRequest

/-- The option that asks for the request, with its value. -/
def option : CommandRequest → Argument × Option Str
  | shutdown => (.shutdown, none)
  | listSocks5Sockets => (.listSocks5, none)
  | addSocks5Socket address => (.addSocks5, some (Display.fmt address))
  | removeSocks5Socket address => (.removeSocks5, some (Display.fmt address))
  | listSandstormSockets => (.listSandstr, none)
  | addSandstormSocket address => (.addSandstr, some (Display.fmt address))
  | removeSandstormSocket address => (.removeSandstr, some (Display.fmt address))
  | listUsers => (.listUsers, none)
  | addUser username password role =>
    (.addUser, some (userText (some role) username (some password)))
  | updateUser username maybePassword maybeRole =>
    (.updateUser, some (userText maybeRole username maybePassword))
  | deleteUser username => (.deleteUser, some username)
  | listAuthMethods => (.listAuth, none)
  | toggleAuthMethod authMethod status =>
    (if status then .authEnable else .authDisable,
      match authMethod with
      | .noAuth => some "noauth".toList
      | .usernameAndPassword => some "userpass".toList)
  | getMetrics => (.getMetrics, none)
  | getBufferSize => (.getBufferSize, none)
  | setBufferSize bufferSize => (.setBufferSize, some (Display.fmt bufferSize))
  | meow => (.meow, none)

/-- What a command line has of the request. -/
def args (request : CommandRequest) : List Str :=
  request.option.1.texts.1.toList :: request.option.2.toList

/-- A command line can give it: an address has a text, a username and a password fit, something of
a user is updated, and the buffer size is not zero. -/
def Writable (env : ArgsEnv) : CommandRequest → Prop
  | addSocks5Socket address | removeSocks5Socket address | addSandstormSocket address
  | removeSandstormSocket address => env.toSocketAddrs (Display.fmt address) = .ok [address]
  | addUser username password _ => Accepted username ∧ Accepted password
  | updateUser username maybePassword maybeRole =>
    Accepted username ∧ (∀ password ∈ maybePassword, Accepted password)
      ∧ ¬ (maybePassword = none ∧ maybeRole = none)
  | deleteUser username => username ≠ [] ∧ (utf8 username).length ≤ 255
  | setBufferSize bufferSize => bufferSize ≠ 0
  | _ => True

end CommandRequest

theorem socketRequests_written {address : SocketAddr} {defaultPort : UInt16}
    {request : SocketAddr → CommandRequest}
    (h : env.toSocketAddrs (Display.fmt address) = .ok [address]) :
    Argument.socketRequests env arg (some (Display.fmt address)) defaultPort request
      = .ok [request address] := by
  unfold Argument.socketRequests parseSocketArg
  simp only [h]
  rfl

theorem requests_option {request : CommandRequest} (h : request.Writable env) (arg : Str) :
    request.option.1.requests env arg request.option.2 = .ok [request] := by
  cases request with
  | addSocks5Socket address | removeSocks5Socket address | addSandstormSocket address
  | removeSandstormSocket address =>
    simp only [CommandRequest.option, Argument.requests, socketRequests_written h]
    rfl
  | addUser username password role =>
    have hparse : parseIntoUser env.alphanumeric (userText (some role) username (some password))
        = .ok (username, some password, some role) :=
      parseIntoUser_userText h.1 (by simpa using h.2)
    simp only [CommandRequest.option, Argument.requests, parseAddUser, hparse]
    rfl
  | updateUser username maybePassword maybeRole =>
    obtain ⟨husername, hpassword, hsome⟩ := h
    have hparse : parseIntoUser env.alphanumeric (userText maybeRole username maybePassword)
        = .ok (username, maybePassword, maybeRole) := parseIntoUser_userText husername hpassword
    simp only [CommandRequest.option, Argument.requests, parseUpdateUser, hparse]
    cases maybePassword <;> cases maybeRole <;> first | rfl | exact absurd ⟨rfl, rfl⟩ hsome
  | deleteUser username =>
    simp only [CommandRequest.option, Argument.requests, parseDeleteUser, if_neg h.1,
      if_neg (Nat.not_lt.2 h.2)]
  | toggleAuthMethod authMethod status => cases authMethod <;> cases status <;> rfl
  | setBufferSize bufferSize =>
    have hparse : parsePrettyBufferSize (Display.fmt bufferSize) = .ok bufferSize :=
      parsePrettyBufferSize_toDigits h
    simp only [CommandRequest.option, Argument.requests, parseBufferSizeArg, hparse]
  | _ => rfl

end Requests

/-! ## The command line -/

section Written

variable {env : ArgsEnv} {arg : Str} {result result' : StartupArguments} {rest : List Str}

theorem ofText_short (argument : Argument) :
    Argument.ofText argument.texts.1.toList = some argument := by
  cases argument <;> decide +kernel

theorem apply_none {argument : Argument} (h : argument.takesNext = false) (arg2 : Option Str) :
    argument.apply env result arg arg2 = argument.apply env result arg none := by
  cases argument <;> first | rfl | cases h

theorem parseArgumentsLoop_option (argument : Argument) (value : Option Str)
    (hhelp : argument ≠ .help) (hversion : argument ≠ .version)
    (hvalue : value.isSome = argument.takesNext)
    (happly : argument.apply env result argument.texts.1.toList value = .ok result') :
    parseArgumentsLoop env result (argument.texts.1.toList :: value.toList ++ rest)
      = parseArgumentsLoop env result' rest := by
  have htext := ofText_short argument
  have hne : argument.texts.1.toList ≠ [] := by cases argument <;> decide +kernel
  generalize argument.texts.1.toList = arg at htext hne happly ⊢
  obtain ⟨c, s, rfl⟩ := List.exists_cons_of_ne_nil hne
  rw [List.cons_append, parseArgumentsLoop]
  simp only [htext]
  cases value with
  | none =>
    have hnext : argument.takesNext = false := hvalue.symm
    rw [← apply_none hnext rest.head?] at happly
    simp only [Option.toList_none, List.nil_append, happly]
    cases rest with
    | nil => rfl
    | cons next rest => simp only [hnext, Bool.false_eq_true, if_false]
  | some v =>
    have hnext : argument.takesNext = true := hvalue.symm
    simp only [Option.toList_some, List.singleton_append, List.head?_cons, happly, hnext, if_true]

theorem option_takesNext (request : CommandRequest) :
    request.option.1 ≠ .help ∧ request.option.1 ≠ .version
      ∧ request.option.2.isSome = request.option.1.takesNext := by
  cases request with
  | toggleAuthMethod authMethod status =>
    cases authMethod <;> cases status <;> exact ⟨nofun, nofun, rfl⟩
  | _ => exact ⟨nofun, nofun, rfl⟩

theorem parseArgumentsLoop_request {request : CommandRequest} (h : request.Writable env) :
    parseArgumentsLoop env result (request.args ++ rest)
      = parseArgumentsLoop env (result.pushRequests [request]) rest := by
  have hrequests := requests_option h request.option.1.texts.1.toList
  have happly : request.option.1.apply env result request.option.1.texts.1.toList request.option.2
      = (request.option.1.requests env request.option.1.texts.1.toList request.option.2).map
        result.pushRequests := by
    cases request with
    | toggleAuthMethod authMethod status => cases status <;> rfl
    | _ => rfl
  rw [hrequests] at happly
  obtain ⟨hhelp, hversion, hvalue⟩ := option_takesNext request
  exact parseArgumentsLoop_option request.option.1 request.option.2 hhelp hversion hvalue happly

theorem parseArgumentsLoop_requests_written :
    ∀ (requests : List CommandRequest) (result : StartupArguments),
      (∀ request ∈ requests, request.Writable env) →
      parseArgumentsLoop env result (requests.flatMap CommandRequest.args)
        = finishArguments env (result.pushRequests requests)
  | [], result, _ => by
    rw [List.flatMap_nil, parseArgumentsLoop, StartupArguments.pushRequests, List.append_nil]
  | request :: requests, result, h => by
    obtain ⟨hrequest, hrequests⟩ := List.forall_mem_cons.1 h
    rw [List.flatMap_cons, parseArgumentsLoop_request hrequest,
      parseArgumentsLoop_requests_written requests _ hrequests]
    simp only [StartupArguments.pushRequests, List.append_assoc, List.singleton_append]

/-- A command line for a user's requests. -/
def writtenLine (program username password : Str) (requests : List CommandRequest) : List Str :=
  program :: "-c".toList :: userText none username (some password)
    :: requests.flatMap CommandRequest.args

theorem parseArguments_written (program : Str) {username password : Str}
    {requests : List CommandRequest} (husername : Accepted username)
    (hpassword : Accepted password) (hrequests : ∀ request ∈ requests, request.Writable env) :
    parseArguments env (writtenLine program username password requests)
      = .ok (.run ⟨false, false, StartupArguments.localhost defaultSandstormPort,
        (username, password), requests, false, false⟩) := by
  have hparse : parseIntoUser env.alphanumeric (userText none username (some password))
      = .ok (username, some password, none) :=
    parseIntoUser_userText husername (by simpa using hpassword)
  have happly : Argument.credentials.apply env .empty "-c".toList
        (some (userText none username (some password)))
      = .ok { StartupArguments.empty with loginCredentials := (username, password) } := by
    simp only [Argument.apply, parseCredentials, StartupArguments.empty, ne_eq, not_true, if_false,
      hparse]
  refine ((parseArgumentsLoop_option .credentials (some (userText none username (some password)))
    (by decide) (by decide) rfl happly).trans
    (parseArgumentsLoop_requests_written requests _ hrequests)).trans ?_
  rw [finishArguments, StartupArguments.pushRequests, if_neg husername.1]
  rfl

end Written

/-! ## No others -/

section Converse

variable {env : ArgsEnv} {arg : Str} {arg2 : Option Str}

/-- An address that is given for a text is what is given for the address's own text. -/
def Resolves (env : ArgsEnv) : Prop :=
  ∀ text addresses, env.toSocketAddrs text = .ok addresses → ∀ address ∈ addresses,
    env.toSocketAddrs (Display.fmt address) = .ok [address]

theorem mem_pushNew {addresses : List SocketAddr} {address : SocketAddr} :
    ∀ {sockets : List SocketAddr}, address ∈ pushNew sockets addresses →
      address ∈ sockets ∨ address ∈ addresses := by
  unfold pushNew
  induction addresses with
  | nil => exact fun h => .inl h
  | cons head addresses ih =>
    intro sockets h
    rcases ih h with h | h
    · dsimp only at h
      split_ifs at h
      · exact .inl h
      · rcases List.mem_append.1 h with h | h
        · exact .inl h
        · exact .inr (List.mem_cons.2 (.inl (List.mem_singleton.1 h)))
    · exact .inr (List.mem_cons_of_mem _ h)

theorem parseSocketArg_resolves (hresolves : Resolves env) {defaultPort : UInt16}
    {sockets : List SocketAddr}
    (h : parseSocketArg env.toArgsEnv arg [] arg2 defaultPort = .ok sockets) :
    ∀ address ∈ sockets, env.toSocketAddrs (Display.fmt address) = .ok [address] := by
  have hfound {text : Str} {addresses : List SocketAddr}
      (htext : env.toSocketAddrs text = .ok addresses) :
      ∀ address ∈ pushNew [] addresses,
        env.toSocketAddrs (Display.fmt address) = .ok [address] := fun address haddress =>
    hresolves text addresses htext address
      ((mem_pushNew haddress).resolve_left List.not_mem_nil)
  unfold parseSocketArg at h
  split at h
  · cases h
  split at h
  next htext =>
    obtain rfl := Except.ok.inj h
    exact hfound htext
  next =>
    split_ifs at h
    split at h
    next htext =>
      obtain rfl := Except.ok.inj h
      exact hfound htext
    next => cases h

theorem socketRequests_resolves (hresolves : Resolves env) {defaultPort : UInt16}
    {request : SocketAddr → CommandRequest} {requests : List CommandRequest}
    (hrequest : ∀ address, env.toSocketAddrs (Display.fmt address) = .ok [address] →
      (request address).Writable env)
    (h : Argument.socketRequests env arg arg2 defaultPort request = .ok requests) :
    ∀ r ∈ requests, r.Writable env := by
  unfold Argument.socketRequests at h
  rcases hparse : parseSocketArg env.toArgsEnv arg [] arg2 defaultPort with e | sockets <;>
    rw [hparse] at h <;> cases h
  intro r hr
  obtain ⟨address, haddress, rfl⟩ := List.mem_map.1 hr
  exact hrequest address (parseSocketArg_resolves hresolves hparse address haddress)

theorem parseUpdateUser_specified {username : Str} {maybePassword : Option Str}
    {maybeRole : Option UserRole}
    (h : parseUpdateUser env arg arg2 = .ok (username, maybePassword, maybeRole)) :
    ¬ (maybePassword = none ∧ maybeRole = none) := by
  unfold parseUpdateUser at h
  split at h
  · cases h
  split at h
  · cases h
  next hnone _ =>
    cases h
    rintro ⟨rfl, rfl⟩
    exact hnone rfl rfl
  · cases h

theorem parseBufferSizeArg_ne_zero {size : UInt32} (h : parseBufferSizeArg arg arg2 = .ok size) :
    size ≠ 0 := by
  unfold parseBufferSizeArg at h
  split at h
  · cases h
  split at h
  next hparse =>
    cases h
    obtain ⟨number, multiplier, -, hsize, hpos⟩ := parsePrettyBufferSize_eq_ok.1 hparse
    rintro rfl
    rw [← hsize] at hpos
    exact absurd hpos (lt_irrefl 0)
  · cases h

theorem requests_writable (hresolves : Resolves env) {argument : Argument}
    {requests : List CommandRequest} (h : argument.requests env arg arg2 = .ok requests) :
    ∀ request ∈ requests, request.Writable env := by
  have hone {request : CommandRequest} (hrequests : requests = [request])
      (hwritable : request.Writable env) : ∀ request ∈ requests, request.Writable env := by
    rintro request' hrequest
    rw [hrequests, List.mem_singleton] at hrequest
    rwa [hrequest]
  cases argument with
  | addSocks5 | removeSocks5 | addSandstr | removeSandstr =>
    exact socketRequests_resolves hresolves (fun _ => id) (mapError_eq_ok h)
  | addUser =>
    simp only [Argument.requests] at h
    split at h
    next hparse => exact hone (Except.ok.inj h).symm (parseAddUser_accepted hparse)
    next => cases h
  | updateUser =>
    simp only [Argument.requests] at h
    split at h
    next hparse =>
      obtain ⟨husername, hpassword⟩ := parseUpdateUser_accepted hparse
      exact hone (Except.ok.inj h).symm ⟨husername, hpassword, parseUpdateUser_specified hparse⟩
    next => cases h
  | deleteUser =>
    simp only [Argument.requests] at h
    split at h
    next hparse => exact hone (Except.ok.inj h).symm (parseDeleteUser_short hparse)
    next => cases h
  | authEnable | authDisable =>
    simp only [Argument.requests] at h
    split at h
    next => exact hone (Except.ok.inj h).symm trivial
    next => cases h
  | setBufferSize =>
    simp only [Argument.requests] at h
    split at h
    next hparse => exact hone (Except.ok.inj h).symm (parseBufferSizeArg_ne_zero hparse)
    next => cases h
  | help | version | verbose | silent | host | credentials | outputLogs | interactive =>
    cases h
    exact fun request hrequest => absurd hrequest List.not_mem_nil
  | _ => exact hone (Except.ok.inj h).symm trivial

theorem parseArguments_writable (hresolves : Resolves env) {args : List Str}
    {startup : StartupArguments} (h : parseArguments env args = .ok (.run startup)) :
    ∀ request ∈ startup.requests, request.Writable env := by
  rw [(parseArguments_requests h).1]
  intro request hrequest
  obtain ⟨given, -, hgiven⟩ := List.mem_flatMap.1 hrequest
  unfold Given.requests at hgiven
  rcases hrequests : given.argument.requests env given.arg given.value with e | requests <;>
    rw [hrequests] at hgiven
  · cases hgiven
  · exact requests_writable hresolves hrequests request hgiven

/-- Requests that can be written are read back from what is written, in the same order; and where
addresses resolve from their texts a command line can give no others. -/
theorem commandRequests_iff (env : ArgsEnv) (requests : List CommandRequest) :
    (∀ (program username password : Str), Accepted username → Accepted password →
      (∀ request ∈ requests, request.Writable env) →
        parseArguments env (writtenLine program username password requests)
          = .ok (.run ⟨false, false, StartupArguments.localhost defaultSandstormPort,
            (username, password), requests, false, false⟩))
      ∧ (Resolves env →
        ((∃ args startup, parseArguments env args = .ok (.run startup)
            ∧ startup.requests = requests)
          ↔ ∀ request ∈ requests, request.Writable env)) := by
  refine ⟨fun program username password husername hpassword hrequests => ?_,
    fun hresolves => ⟨?_, fun h => ?_⟩⟩
  · exact parseArguments_written program husername hpassword hrequests
  · rintro ⟨args, startup, hparse, rfl⟩
    exact parseArguments_writable hresolves hparse
  · have haccepted : Accepted ['a'] := ⟨by decide, by decide⟩
    exact ⟨_, _, parseArguments_written [] haccepted haccepted h, rfl⟩

/-- Resolves one address, `0.0.0.0:80`. -/
def oneAddressEnv : ArgsEnv where
  alphanumeric := .onlyAscii
  toSocketAddrs text :=
    if text = "0.0.0.0:80".toList then .ok [.v4 ⟨⟨0⟩, 80⟩] else .error ⟨.invalidInput, []⟩
  credentials := .error .notPresent

theorem oneAddressEnv_resolves : Resolves oneAddressEnv := by
  intro text addresses h address haddress
  simp only [oneAddressEnv] at h
  split_ifs at h
  obtain rfl := Except.ok.inj h
  obtain rfl := List.mem_singleton.1 haddress
  decide +kernel

/-- A socket is added, and the user whose name is a backslash becomes an administrator. -/
def twoRequests : List CommandRequest :=
  [.addSocks5Socket (.v4 ⟨⟨0⟩, 80⟩), .updateUser ['\\'] none (some .admin)]

theorem commandRequests_iff_oneAddress :
    parseArguments oneAddressEnv
        (writtenLine "sandstorm".toList "admin".toList "1:2".toList twoRequests)
      = .ok (.run ⟨false, false, StartupArguments.localhost defaultSandstormPort,
        ("admin".toList, "1:2".toList), twoRequests, false, false⟩)
      ∧ ¬ ∃ args startup, parseArguments oneAddressEnv args = .ok (.run startup)
        ∧ startup.requests = [.meow, .setBufferSize 0] := by
  refine ⟨(commandRequests_iff oneAddressEnv twoRequests).1 _ _ _ ⟨by decide, by decide⟩
    ⟨by decide, by decide⟩ ?_, fun hgiven => ?_⟩
  · simp only [twoRequests, List.forall_mem_cons, List.not_mem_nil, false_imp_iff, implies_true,
      and_true]
    exact ⟨by unfold CommandRequest.Writable; decide +kernel,
      ⟨by decide, by decide⟩, nofun, by decide⟩
  · have hwritable := ((commandRequests_iff oneAddressEnv _).2 oneAddressEnv_resolves).1 hgiven
    exact hwritable (.setBufferSize 0) (by simp) rfl

end Converse

end Sandstorm

end DustDevil
