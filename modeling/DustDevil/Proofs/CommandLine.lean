import DustDevil.Client.CommandLine
import DustDevil.Proofs.Handshake
import DustDevil.Proofs.ManagerCalls
import DustDevil.Proofs.ParseIntoUser
import DustDevil.Proofs.Session

/-!
# What a command line makes the server do

The requests of an accepted command line are those of its options, in order
(`parseArguments_requests`). The client sends its handshake, and, to a server that lets it in, these
requests and nothing else, unless one of the fields is longer than 255 bytes by its last character;
and what it sends makes the server serve exactly these requests (`commandLine_served`).
-/

namespace DustDevil

open Wire

namespace Sandstorm

/-! ## The options of a command line -/

section Given

/-- An option, with the argument that it takes. -/
structure Given where
  argument : Argument
  arg : Str
  value : Option Str

/-- The options of a command line, up to one that is none. -/
def givenOptions : List Str → List Given
  | [] => []
  | [] :: args => givenOptions args
  | (c :: s) :: args =>
    match Argument.ofText (c :: s) with
    | none => []
    | some argument =>
      match args with
      | [] => [⟨argument, c :: s, none⟩]
      | next :: args =>
        if argument.takesNext then ⟨argument, c :: s, some next⟩ :: givenOptions args
        else ⟨argument, c :: s, none⟩ :: givenOptions (next :: args)

/-- The requests that an option asks for, and none if it is no proper option. -/
def Given.requests (env : ArgsEnv) (given : Given) : List CommandRequest :=
  ((given.argument.requests env given.arg given.value).toOption).getD []

/-- The usernames and passwords in a request. -/
def CommandRequest.fields : CommandRequest → List Str
  | addUser username password _ => [username, password]
  | updateUser username maybePassword _ => username :: maybePassword.toList
  | deleteUser username => [username]
  | _ => []

/-- A field as a command line can give it. -/
def Accepted (field : Str) : Prop := field ≠ [] ∧ fits field

theorem Accepted.short_iff {field : Str} (h : Accepted field) :
    (utf8 field).length ≤ 255 ↔ ¬ Straddles field := by
  rw [← DustDevil.short_iff h.1 h.2]
  refine ⟨fun hle => ⟨?_, hle⟩, And.right⟩
  obtain ⟨c, s, rfl⟩ := List.exists_cons_of_ne_nil h.1
  have hc := length_encodeChar_pos c
  rw [utf8_cons, List.length_append]
  omega

theorem accepted_of_length_le {field : Str} (hne : field ≠ []) (h : (utf8 field).length ≤ 255) :
    Accepted field := ⟨hne, fits_of_length_le h⟩

variable {env : ArgsEnv} {arg : Str} {arg2 : Option Str} {username password : Str}

theorem accepted_of_parseIntoUser {s : Str} {maybePassword : Option Str} {role : Option UserRole}
    (h : parseIntoUser env.alphanumeric s = .ok (username, maybePassword, role)) :
    Accepted username ∧ ∀ password ∈ maybePassword, Accepted password := by
  obtain ⟨-, hne, hfits, hpassword⟩ := parseIntoUser_eq_ok.1 h
  exact ⟨⟨hne, hfits⟩, hpassword⟩

theorem parseCredentials_accepted {credentials credentials' : Str × Str}
    (h : parseCredentials env arg credentials arg2 = .ok credentials') :
    Accepted credentials'.1 ∧ Accepted credentials'.2 := by
  unfold parseCredentials at h
  split_ifs at h
  split at h
  · cases h
  split at h
  case h_1 hparse =>
    cases h
    obtain ⟨husername, hpassword⟩ := accepted_of_parseIntoUser hparse
    exact ⟨husername, hpassword _ rfl⟩
  all_goals cases h

theorem parseEnvCredentials_accepted {credentials : Str × Str}
    (h : parseEnvCredentials env = .ok (some credentials)) :
    Accepted credentials.1 ∧ Accepted credentials.2 := by
  unfold parseEnvCredentials at h
  split at h
  · cases h
  · cases h
  split at h
  case h_1 hparse =>
    cases h
    obtain ⟨husername, hpassword⟩ := accepted_of_parseIntoUser hparse
    exact ⟨husername, hpassword _ rfl⟩
  all_goals cases h

theorem parseAddUser_accepted {role : UserRole}
    (h : parseAddUser env arg arg2 = .ok (username, password, role)) :
    Accepted username ∧ Accepted password := by
  unfold parseAddUser at h
  split at h
  · cases h
  split at h
  case h_1 hparse =>
    cases h
    obtain ⟨husername, hpassword⟩ := accepted_of_parseIntoUser hparse
    exact ⟨husername, hpassword _ rfl⟩
  all_goals cases h

theorem parseUpdateUser_accepted {maybePassword : Option Str} {maybeRole : Option UserRole}
    (h : parseUpdateUser env arg arg2 = .ok (username, maybePassword, maybeRole)) :
    Accepted username ∧ ∀ password ∈ maybePassword, Accepted password := by
  unfold parseUpdateUser at h
  split at h
  · cases h
  split at h
  case h_2 hparse =>
    cases h
    exact accepted_of_parseIntoUser hparse
  all_goals cases h

theorem parseDeleteUser_short (h : parseDeleteUser arg arg2 = .ok username) :
    username ≠ [] ∧ (utf8 username).length ≤ 255 := by
  unfold parseDeleteUser at h
  split at h
  · cases h
  split_ifs at h with hempty hlong
  cases h
  exact ⟨hempty, Nat.le_of_not_lt hlong⟩

theorem parseDeleteUser_accepted (h : parseDeleteUser arg arg2 = .ok username) :
    Accepted username :=
  accepted_of_length_le (parseDeleteUser_short h).1 (parseDeleteUser_short h).2

theorem mapError_eq_ok {ε ε' α : Type} {f : ε → ε'} {x : Except ε α} {a : α}
    (h : x.mapError f = .ok a) : x = .ok a := by
  rcases x with e | a'
  · cases h
  · exact congrArg Except.ok (Except.ok.inj h)

theorem socketRequests_fields {defaultPort : UInt16} {request : SocketAddr → CommandRequest}
    {requests : List CommandRequest} (hrequest : ∀ address, (request address).fields = [])
    (h : Argument.socketRequests env arg arg2 defaultPort request = .ok requests) :
    ∀ r ∈ requests, r.fields = [] := by
  unfold Argument.socketRequests at h
  rcases hparse : parseSocketArg env.toArgsEnv arg [] arg2 defaultPort with e | sockets <;>
    rw [hparse] at h <;> cases h
  intro r hr
  obtain ⟨address, -, rfl⟩ := List.mem_map.1 hr
  exact hrequest address

theorem requests_accepted {argument : Argument} {requests : List CommandRequest}
    (h : argument.requests env arg arg2 = .ok requests) :
    ∀ request ∈ requests, ∀ field ∈ request.fields, Accepted field := by
  have hnone (hfields : ∀ request ∈ requests, request.fields = []) :
      ∀ request ∈ requests, ∀ field ∈ request.fields, Accepted field := by
    intro request hrequest field hfield
    rw [hfields request hrequest] at hfield
    cases hfield
  have hone {request : CommandRequest} (hrequests : requests = [request])
      (hfields : ∀ field ∈ request.fields, Accepted field) :
      ∀ request ∈ requests, ∀ field ∈ request.fields, Accepted field := by
    rintro request' hrequest
    rw [hrequests, List.mem_singleton] at hrequest
    rwa [hrequest]
  cases argument with
  | addSocks5 | removeSocks5 | addSandstr | removeSandstr =>
    exact hnone (socketRequests_fields (fun _ => rfl) (mapError_eq_ok h))
  | addUser =>
    simp only [Argument.requests] at h
    split at h
    next hparse =>
      obtain ⟨husername, hpassword⟩ := parseAddUser_accepted hparse
      refine hone (Except.ok.inj h).symm fun field hfield => ?_
      simp only [CommandRequest.fields, List.mem_cons, List.not_mem_nil, or_false] at hfield
      rcases hfield with rfl | rfl
      · exact husername
      · exact hpassword
    next => cases h
  | updateUser =>
    simp only [Argument.requests] at h
    split at h
    next hparse =>
      obtain ⟨husername, hpassword⟩ := parseUpdateUser_accepted hparse
      refine hone (Except.ok.inj h).symm fun field hfield => ?_
      simp only [CommandRequest.fields, List.mem_cons, Option.mem_toList] at hfield
      rcases hfield with rfl | hfield
      · exact husername
      · exact hpassword _ hfield
    next => cases h
  | deleteUser =>
    simp only [Argument.requests] at h
    split at h
    next hparse =>
      refine hone (Except.ok.inj h).symm fun field hfield => ?_
      rw [List.mem_singleton.1 hfield]
      exact parseDeleteUser_accepted hparse
    next => cases h
  | authEnable | authDisable | setBufferSize =>
    simp only [Argument.requests] at h
    split at h
    next => exact hone (Except.ok.inj h).symm nofun
    next => cases h
  | _ =>
    cases h
    exact hnone fun request hrequest => by simp_all [CommandRequest.fields]

theorem Given.requests_accepted (given : Given) :
    ∀ request ∈ given.requests env, ∀ field ∈ request.fields, Accepted field := by
  unfold Given.requests
  rcases h : given.argument.requests env given.arg given.value with e | requests
  · exact nofun
  · exact Sandstorm.requests_accepted h

/-- An option that takes no value asks for the same with and without one. -/
theorem requests_none {argument : Argument} (h : argument.takesNext = false) :
    argument.requests env arg arg2 = argument.requests env arg none := by
  cases argument <;> first | rfl | cases h

end Given

section Loop

variable {env : ArgsEnv} {result result' startup : StartupArguments} {args : List Str}

/-- An option adds the requests it asks for to those so far. -/
theorem apply_requests {argument : Argument} {arg : Str} {arg2 : Option Str}
    (h : argument.apply env result arg arg2 = .ok result') :
    result'.requests
        = result.requests ++ ((argument.requests env arg arg2).toOption).getD []
      ∧ (result'.loginCredentials = result.loginCredentials
        ∨ Accepted result'.loginCredentials.1 ∧ Accepted result'.loginCredentials.2) := by
  have hpush (hpush : (argument.requests env arg arg2).map result.pushRequests = .ok result') :
      result'.requests
          = result.requests ++ ((argument.requests env arg arg2).toOption).getD []
        ∧ (result'.loginCredentials = result.loginCredentials
          ∨ Accepted result'.loginCredentials.1 ∧ Accepted result'.loginCredentials.2) := by
    rcases hrequests : argument.requests env arg arg2 with e | requests <;> rw [hrequests] at hpush
    · cases hpush
    · obtain rfl := Except.ok.inj hpush
      exact ⟨rfl, .inl rfl⟩
  have hkept (hrequests : result'.requests = result.requests) :
      result'.requests = result.requests ++ [] := by rw [hrequests, List.append_nil]
  cases argument with
  | help | version | verbose | silent =>
    obtain rfl := Except.ok.inj h
    exact ⟨hkept rfl, .inl rfl⟩
  | outputLogs | interactive =>
    simp only [Argument.apply] at h
    split_ifs at h
    obtain rfl := Except.ok.inj h
    exact ⟨hkept rfl, .inl rfl⟩
  | host =>
    simp only [Argument.apply] at h
    split at h
    next =>
      obtain rfl := Except.ok.inj h
      exact ⟨hkept rfl, .inl rfl⟩
    next => cases h
  | credentials =>
    simp only [Argument.apply] at h
    split at h
    next hparse =>
      obtain rfl := Except.ok.inj h
      exact ⟨hkept rfl, .inr (parseCredentials_accepted hparse)⟩
    next => cases h
  | _ => exact hpush h

/-- The credentials so far are none or those of an option. -/
def CredentialsAccepted (result : StartupArguments) : Prop :=
  result.loginCredentials.1 = []
    ∨ Accepted result.loginCredentials.1 ∧ Accepted result.loginCredentials.2

theorem CredentialsAccepted.of_apply (h : CredentialsAccepted result)
    (hstep : result'.loginCredentials = result.loginCredentials
      ∨ Accepted result'.loginCredentials.1 ∧ Accepted result'.loginCredentials.2) :
    CredentialsAccepted result' := by
  unfold CredentialsAccepted
  rcases hstep with hstep | hstep
  · rwa [hstep]
  · exact .inr hstep

theorem finishArguments_eq_run (h : finishArguments env result = .ok (.run startup))
    (hresult : CredentialsAccepted result) :
    startup.requests = result.requests
      ∧ Accepted startup.loginCredentials.1 ∧ Accepted startup.loginCredentials.2 := by
  unfold finishArguments at h
  split_ifs at h with hnone
  · split at h
    next hparse =>
      cases h
      exact ⟨rfl, parseEnvCredentials_accepted hparse⟩
    next => cases h
    next => cases h
  · cases h
    exact ⟨rfl, hresult.resolve_left hnone⟩

theorem parseArgumentsLoop_requests
    (h : parseArgumentsLoop env result args = .ok (.run startup))
    (hresult : CredentialsAccepted result) :
    startup.requests = result.requests ++ (givenOptions args).flatMap (Given.requests env)
      ∧ Accepted startup.loginCredentials.1 ∧ Accepted startup.loginCredentials.2 := by
  fun_induction parseArgumentsLoop env result args with
  | case1 result =>
    obtain ⟨hrequests, hcredentials⟩ := finishArguments_eq_run h hresult
    exact ⟨by rw [hrequests]; exact (List.append_nil _).symm, hcredentials⟩
  | case2 result args ih => exact ih h hresult
  | case3 | case4 | case5 | case6 => simp at h
  | case7 result c s argument hhelp hversion htext result' happly ih =>
    obtain ⟨hstep, hcredentials⟩ := apply_requests happly
    obtain ⟨hrequests, haccepted⟩ := ih h (hresult.of_apply hcredentials)
    refine ⟨?_, haccepted⟩
    simp only [givenOptions, htext]
    rw [hrequests, hstep, List.append_assoc]
    rfl
  | case8 result c s argument hhelp hversion htext result' next args htakes happly ih =>
    obtain ⟨hstep, hcredentials⟩ := apply_requests happly
    obtain ⟨hrequests, haccepted⟩ := ih h (hresult.of_apply hcredentials)
    refine ⟨?_, haccepted⟩
    simp only [givenOptions, htext, if_pos htakes]
    rw [hrequests, hstep, List.append_assoc]
    rfl
  | case9 result c s argument hhelp hversion htext result' next args htakes happly ih =>
    obtain ⟨hstep, hcredentials⟩ := apply_requests happly
    obtain ⟨hrequests, haccepted⟩ := ih h (hresult.of_apply hcredentials)
    refine ⟨?_, haccepted⟩
    rw [requests_none (by simpa using htakes)] at hstep
    simp only [givenOptions, htext, if_neg htakes]
    rw [hrequests, hstep, List.append_assoc]
    rfl

theorem parseArguments_requests (h : parseArguments env args = .ok (.run startup)) :
    startup.requests = (givenOptions args.tail).flatMap (Given.requests env)
      ∧ Accepted startup.loginCredentials.1 ∧ Accepted startup.loginCredentials.2 :=
  parseArgumentsLoop_requests h (.inl rfl)

theorem parseArguments_accepted (h : parseArguments env args = .ok (.run startup)) :
    ∀ request ∈ startup.requests, ∀ field ∈ request.fields, Accepted field := by
  rw [(parseArguments_requests h).1]
  intro request hrequest
  obtain ⟨given, -, hgiven⟩ := List.mem_flatMap.1 hrequest
  exact given.requests_accepted request hgiven

end Loop

/-! ## The client -/

section Client

variable {ρ : Type} [AsyncRead ρ] {username password : Str}

theorem toRequest_fits (request : CommandRequest) :
    request.toRequest.Fits ↔ ∀ field ∈ request.fields, (utf8 field).length ≤ 255 := by
  cases request with
  | addUser username password role =>
    simp [CommandRequest.toRequest, CommandRequest.fields, ClientRequest.Fits]
  | updateUser username maybePassword maybeRole =>
    cases maybePassword <;>
      simp [CommandRequest.toRequest, CommandRequest.fields, ClientRequest.Fits]
  | deleteUser username =>
    simp [CommandRequest.toRequest, CommandRequest.fields, ClientRequest.Fits]
  | _ => simp [CommandRequest.toRequest, CommandRequest.fields, ClientRequest.Fits]

/-- The requests are written one after the other, and the `n`-th handler is in the queue of the
`n`-th request's type, one for each response that remains. -/
theorem handleRequests_ok :
    ∀ (requests : List CommandRequest) (calls : List ClientRequest)
      (manager : SandstormRequestManager), (∀ request ∈ requests, request.toRequest.Fits) →
      (∀ command, manager.handlers.queue command = Session.callIds command calls) →
      ∃ handlers, handleRequests requests calls.length manager
          = (.ok (), ⟨manager.writer ++ ClientRequest.encodings (requests.map (·.toRequest)),
            handlers⟩)
        ∧ (∀ command, handlers.queue command
          = Session.callIds command (calls ++ requests.map (·.toRequest)))
        ∧ handlers.remaining = manager.handlers.remaining + requests.length
  | [], calls, manager, _, hqueue => ⟨manager.handlers, by
      rw [List.map_nil, ClientRequest.encodings, List.flatMap_nil, List.append_nil]
      rfl, by simpa using hqueue, rfl⟩
  | request :: requests, calls, manager, hfits, hqueue => by
    obtain ⟨hrequest, hrequests⟩ := List.forall_mem_cons.1 hfits
    have hcall := ClientRequest.call_ok hrequest calls.length manager
    have hqueue' : ∀ command,
        (request.toRequest.register calls.length manager.handlers).queue command
          = Session.callIds command (calls ++ [request.toRequest]) := by
      intro command
      rw [Session.register_queue, Session.callIds_append]
      by_cases hcommand : request.toRequest.command = command
      · subst hcommand
        rw [Function.update_self, hqueue, if_pos rfl]
      · rw [Function.update_of_ne (Ne.symm hcommand), hqueue, if_neg hcommand, List.append_nil]
    obtain ⟨handlers, hhandle, hhandlers, hremaining⟩ := handleRequests_ok requests
      (calls ++ [request.toRequest])
      ⟨manager.writer ++ request.toRequest.encoding,
        request.toRequest.register calls.length manager.handlers⟩ hrequests hqueue'
    rw [List.length_append, List.length_singleton] at hhandle
    refine ⟨handlers, ?_, fun command => ?_, ?_⟩
    · rw [handleRequests, Proc.bind_ok hcall, hhandle, List.append_assoc]
      rfl
    · rw [hhandlers, List.append_assoc]
      rfl
    · rw [hremaining, Session.register_remaining, List.length_cons]
      omega

theorem handleRequests_error :
    ∀ (requests : List CommandRequest) (n : ℕ) (manager : SandstormRequestManager),
      ¬ (∀ request ∈ requests, request.toRequest.Fits) →
      ∃ e manager', handleRequests requests n manager = (.error (.err e), manager')
  | [], _, _, h => absurd nofun h
  | request :: requests, n, manager, h => by
    rw [handleRequests]
    by_cases hrequest : request.toRequest.Fits
    · obtain ⟨e, manager', hrest⟩ := handleRequests_error requests (n + 1)
        ⟨manager.writer ++ request.toRequest.encoding,
          request.toRequest.register n manager.handlers⟩
        fun hrequests => h (List.forall_mem_cons.2 ⟨hrequest, hrequests⟩)
      exact ⟨e, manager', by rw [Proc.bind_ok (ClientRequest.call_ok hrequest n manager), hrest]⟩
    · obtain ⟨e, writer, hcall⟩ := ClientRequest.call_error hrequest n manager
      exact ⟨e, _, Proc.bind_error hcall _⟩

/-- The bytes of a handshake. -/
def handshakeBytes (username password : Str) : List UInt8 :=
  ((ByteWrite.write (SandstormHandshakeRef.mk username password) : Proc Sink IoError Unit) []).2

theorem handshakeBytes_carried (hu : (utf8 username).length ≤ 255)
    (hp : (utf8 password).length ≤ 255) :
    Writes (ByteWrite.write (SandstormHandshakeRef.mk username password))
        (handshakeBytes username password)
      ∧ Reads SandstormHandshake.readWithVersionCheck (handshakeBytes username password)
        ⟨username, password⟩ := by
  obtain ⟨bytes, hwrite, hread⟩ := carries_handshake hu hp
  obtain rfl : handshakeBytes username password = bytes := congrArg Prod.snd (hwrite [])
  exact ⟨hwrite, hread⟩

theorem handshake_write_fails
    (h : ¬ ((utf8 username).length ≤ 255 ∧ (utf8 password).length ≤ 255)) :
    WriteFails (ByteWrite.write (SandstormHandshakeRef.mk username password)) := by
  refine .after (writeAll_writes _) ?_
  rcases Nat.lt_or_ge 255 (utf8 username).length with hu | hu
  · exact (smallString_fails hu).bind
  · obtain ⟨bs, hwrite⟩ := smallString_writes hu
    exact .after hwrite (smallString_fails (Nat.lt_of_not_le fun hp => h ⟨hu, hp⟩))

/-- The connection lasts until so many requests are sent. -/
structure ClientEnv.Lasts (env : ClientEnv) (requests : ℕ) : Prop where
  handshake : env.writeHandshake = .ok ()
  ends : ∀ p ∈ env.ends, requests ≤ p.1

theorem ClientEnv.Lasts.handleRequestsUntil {env : ClientEnv} {requests : List CommandRequest}
    (h : env.Lasts requests.length) :
    handleRequestsUntil env.ends requests = handleRequests requests 0 := by
  unfold Sandstorm.handleRequestsUntil
  rcases hends : env.ends with _ | ⟨sent, result⟩
  · rfl
  · exact if_neg (not_lt.2 (h.ends _ hends))

theorem handshake_ok {env : ClientEnv} (hwrites : env.writeHandshake = .ok ())
    (hu : (utf8 username).length ≤ 255) (hp : (utf8 password).length ≤ 255)
    {status : SandstormHandshakeStatus} (hstatus : status ≠ .unspecifiedError) {reader : ρ}
    {rest : List UInt8} (hreader : unread reader = status.intoU8 :: rest)
    (manager : SandstormRequestManager) :
    ∃ reader', handshake env username password ⟨reader, manager⟩
      = (.ok (decide (status = .ok)),
        ⟨reader', { manager with writer := manager.writer ++ handshakeBytes username password }⟩)
      := by
  obtain ⟨bytes, hwrite, hreads⟩ := carries_handshakeStatus hstatus
  obtain rfl : [status.intoU8] = bytes := congrArg Prod.snd (hwrite [])
  obtain ⟨reader', hread, -, -⟩ := hreads.run ByteRead.refines hreader
  refine ⟨reader', ?_⟩
  have hsend : ClientConn.onManager (SandstormRequestManager.onWriter
        (ByteWrite.write (SandstormHandshakeRef.mk username password))) ⟨reader, manager⟩
      = (.ok (), ⟨reader,
        { manager with writer := manager.writer ++ handshakeBytes username password }⟩) := by
    simp only [ClientConn.onManager, SandstormRequestManager.onWriter, Proc.zoom,
      (handshakeBytes_carried hu hp).1 manager.writer]
  rw [handshake, Proc.bind_ok hsend, hwrites,
    show (Proc.ofExcept (.ok ()) : Proc (ClientConn ρ) IoError Unit) = pure () from rfl,
    Proc.pure_bind, Proc.bind_ok (by rw [ClientConn.onReader, Proc.zoom, hread])]
  rfl

theorem handshake_error (env : ClientEnv)
    (h : ¬ ((utf8 username).length ≤ 255 ∧ (utf8 password).length ≤ 255))
    (conn : ClientConn ρ) :
    ∃ e conn', handshake env username password conn = (.error (.err e), conn') := by
  obtain ⟨e, writer, hwrite⟩ := handshake_write_fails h conn.manager.writer
  refine ⟨e, { conn with manager := { conn.manager with writer := writer } },
    Proc.bind_error ?_ _⟩
  simp only [ClientConn.onManager, SandstormRequestManager.onWriter, Proc.zoom, hwrite]

end Client

/-! ## The client and the server -/

section Served

variable {env : ArgsEnv} {args : List Str} {startup : StartupArguments}

/-- The requests that a server is sent: those of the command line, if it lets the client in. -/
def StartupArguments.requestsTo (startup : StartupArguments) (loggedIn : Bool) :
    List ClientRequest :=
  if loggedIn then startup.requests.map (·.toRequest) else []

/-- The usernames and passwords that are sent with them. -/
def StartupArguments.fieldsTo (startup : StartupArguments) (loggedIn : Bool) : List Str :=
  [startup.loginCredentials.1, startup.loginCredentials.2]
    ++ if loggedIn then startup.requests.flatMap CommandRequest.fields else []

theorem parseArguments_fieldsTo (h : parseArguments env args = .ok (.run startup))
    (loggedIn : Bool) : ∀ field ∈ startup.fieldsTo loggedIn, Accepted field := by
  obtain ⟨-, husername, hpassword⟩ := parseArguments_requests h
  intro field hfield
  rcases List.mem_append.1 hfield with hlogin | hrequests
  · simp only [List.mem_cons, List.not_mem_nil, or_false] at hlogin
    rcases hlogin with rfl | rfl
    · exact husername
    · exact hpassword
  · split_ifs at hrequests
    · obtain ⟨request, hrequest, hfield⟩ := List.mem_flatMap.1 hrequests
      exact parseArguments_accepted h request hrequest field hfield
    · cases hrequests

/-- What the fields are short enough for. -/
theorem fieldsTo_short_iff (startup : StartupArguments) (loggedIn : Bool) :
    (∀ field ∈ startup.fieldsTo loggedIn, (utf8 field).length ≤ 255)
      ↔ ((utf8 startup.loginCredentials.1).length ≤ 255
          ∧ (utf8 startup.loginCredentials.2).length ≤ 255)
        ∧ (loggedIn = true → ∀ request ∈ startup.requests, request.toRequest.Fits) := by
  unfold StartupArguments.fieldsTo
  rw [List.forall_mem_append]
  simp only [List.forall_mem_cons, List.not_mem_nil, false_imp_iff, implies_true, and_true]
  refine and_congr_right fun _ => ?_
  cases loggedIn with
  | false => simp
  | true =>
    simp only [if_true, List.mem_flatMap, forall_const, toRequest_fits]
    exact ⟨fun h request hrequest field hfield => h field ⟨request, hrequest, hfield⟩,
      fun h field ⟨request, hrequest, hfield⟩ => h request hrequest field hfield⟩

theorem handshakeStatus_eq_ok_iff (success : Option Bool) :
    handshakeStatus success = .ok ↔ success = some true := by
  rcases success with _ | (_ | _) <;> simp [handshakeStatus]

/-- The server's answers are those that a client reads. -/
theorem handshakeStatus_ne_unspecifiedError (success : Option Bool) :
    handshakeStatus success ≠ .unspecifiedError := by
  rcases success with _ | (_ | _) <;> simp [handshakeStatus]

/-- How the client gets through its requests, and what it has sent and waits for then. -/
theorem runClientInner_sends {ρ : Type} [AsyncRead ρ] {reader : ρ} {rest : List UInt8}
    {status : SandstormHandshakeStatus} {cenv : ClientEnv} (startup : StartupArguments)
    (hlasts : cenv.Lasts startup.requests.length)
    (hstatus : status ≠ .unspecifiedError) (hreader : unread reader = status.intoU8 :: rest) :
    let requests := startup.requestsTo (status = .ok)
    let run := runClientInner cenv startup ⟨reader, ⟨[], .new⟩⟩
    (run.1 = .ok () ↔ ∀ field ∈ startup.fieldsTo (status = .ok), (utf8 field).length ≤ 255)
      ∧ (run.1 = .ok () →
        run.2.manager.writer
            = handshakeBytes startup.loginCredentials.1 startup.loginCredentials.2
              ++ ClientRequest.encodings requests
          ∧ (∀ command, run.2.manager.handlers.queue command = Session.callIds command requests)
          ∧ run.2.manager.handlers.remaining = requests.length) := by
  dsimp only
  rw [fieldsTo_short_iff, runClientInner, hlasts.handleRequestsUntil]
  by_cases hlogin : (utf8 startup.loginCredentials.1).length ≤ 255
    ∧ (utf8 startup.loginCredentials.2).length ≤ 255
  · obtain ⟨reader', hhandshake⟩ :=
      handshake_ok hlasts.handshake hlogin.1 hlogin.2 hstatus hreader ⟨[], .new⟩
    rw [Proc.bind_ok hhandshake]
    by_cases hok : status = .ok
    · simp only [hok, decide_true, if_true, StartupArguments.requestsTo, forall_const]
      by_cases hfits : ∀ request ∈ startup.requests, request.toRequest.Fits
      · obtain ⟨handlers, hhandle, hqueue, hremaining⟩ := handleRequests_ok startup.requests []
          ⟨handshakeBytes startup.loginCredentials.1 startup.loginCredentials.2, .new⟩ hfits
          fun _ => rfl
        have hrun : ClientConn.onManager (handleRequests startup.requests 0)
              ⟨reader', ⟨[] ++ handshakeBytes startup.loginCredentials.1
                startup.loginCredentials.2, .new⟩⟩
            = (.ok (), ⟨reader', ⟨handshakeBytes startup.loginCredentials.1
                startup.loginCredentials.2
              ++ ClientRequest.encodings (startup.requests.map (·.toRequest)), handlers⟩⟩) := by
          rw [ClientConn.onManager, Proc.zoom, List.nil_append]
          exact congrArg (fun x => (x.1, (⟨reader', x.2⟩ : ClientConn ρ))) hhandle
        rw [hrun]
        refine ⟨⟨fun _ => ⟨hlogin, hfits⟩, fun _ => rfl⟩, fun _ => ⟨rfl, hqueue, ?_⟩⟩
        rw [List.length_map]
        exact hremaining.trans (Nat.zero_add _)
      · obtain ⟨e, manager', hhandle⟩ := handleRequests_error startup.requests 0
          ⟨[] ++ handshakeBytes startup.loginCredentials.1 startup.loginCredentials.2, .new⟩ hfits
        have hrun : ClientConn.onManager (handleRequests startup.requests 0)
              ⟨reader', ⟨[] ++ handshakeBytes startup.loginCredentials.1
                startup.loginCredentials.2, .new⟩⟩
            = (.error (.err e), ⟨reader', manager'⟩) :=
          congrArg (fun x => (x.1, (⟨reader', x.2⟩ : ClientConn ρ))) hhandle
        rw [hrun]
        exact ⟨⟨nofun, fun h => absurd h.2 hfits⟩, nofun⟩
    · simp only [hok, decide_false, Bool.false_eq_true, if_false, false_imp_iff, and_true,
        StartupArguments.requestsTo]
      refine ⟨⟨fun _ => hlogin, fun _ => rfl⟩, fun _ => ⟨?_, fun _ => rfl, rfl⟩⟩
      rw [ClientRequest.encodings, List.flatMap_nil, List.append_nil]
      rfl
  · obtain ⟨e, conn', hhandshake⟩ :=
      handshake_error cenv hlogin (⟨reader, ⟨[], .new⟩⟩ : ClientConn ρ)
    rw [Proc.bind_error hhandshake]
    exact ⟨⟨nofun, fun h => absurd h.1 hlogin⟩, nofun⟩

/-- The server's side of the conversation. -/
def serveLogin {ρ : Type} (env : SandstormEnv) (username password : Str)
    (requests : List ClientRequest) : Proc (SandstormConn ρ) IoError Unit := do
  let conn ← .get
  let success := conn.state.tryLogin username password
  logSandstorm fun managerId =>
    .sandstormAuthenticatedAs managerId username (success = some true)
  Conn.perform [.write [(handshakeStatus success).intoU8], .handleRequests]
  ClientRequest.serveAll env requests

theorem handledAs_serveAll {ρ : Type} [AsyncRead ρ] {env : SandstormEnv}
    {requests : List ClientRequest} (h : ∀ q ∈ requests, q.Fits) :
    ClientRequest.HandledAs env (ClientRequest.encodings requests) requests.length
      (ClientRequest.serveAll env requests : Proc (SandstormConn ρ) IoError Unit) := by
  have hvalid : ∀ f ∈ requests.map ClientRequest.frame,
      f.Valid (ClientRequest.service (ρ := ρ) env) := by
    simp only [List.mem_map]
    rintro f ⟨q, hq, rfl⟩
    exact ClientRequest.frame_valid env (h q hq)
  have hall := serveStream_frames _ hvalid
  rw [ClientRequest.wire_frames h, List.length_map, ClientRequest.serveFrames_eq] at hall
  exact ClientRequest.handledAs_of_actsLike hall

theorem handleSandstormInner_serves {ρ : Type} [AsyncRead ρ] {senv : SandstormEnv}
    {cx : SandstormContext} {server : ρ} {fuel : ℕ} {username password : Str}
    {requests : List ClientRequest} (hwrite : senv.writeStatus = .ok ())
    (hu : (utf8 username).length ≤ 255) (hp : (utf8 password).length ≤ 255)
    (hfits : ∀ q ∈ requests, q.Fits)
    (hserver : unread server = handshakeBytes username password ++ ClientRequest.encodings requests)
    (hend : ending server = .eof) (hfuel : requests.length < fuel) :
    Conn.outcome (handleSandstormInner senv fuel ⟨server, cx, []⟩)
      = Conn.outcome (serveLogin senv username password requests ⟨server, cx, []⟩) := by
  obtain ⟨server', hread, hunread, hend'⟩ :=
    (handshakeBytes_carried hu hp).2.run readWithVersionCheck_refines hserver
  have hfree : Conn.ReaderFree
      (ClientRequest.serveAll senv requests : Proc (SandstormConn ρ) IoError Unit) := by
    rw [← ClientRequest.serveFrames_eq]
    exact serveFrames_readerFree _ _
  rw [handleSandstormInner,
    Proc.bind_ok (Proc.attempt_ok (by rw [Conn.read_apply, hread])), serveLogin]
  dsimp only
  rw [Proc.bind_ok (Proc.get_apply _), Proc.bind_ok (logSandstorm_apply _ _),
    Proc.bind_ok (writeStatus_ok hwrite _ _), Proc.bind_ok (Conn.perform_apply _ _),
    handledAs_serveAll hfits _ _ hunread (hend'.trans hend) hfuel, Proc.bind_ok (Proc.get_apply _),
    Proc.bind_ok (logSandstorm_apply _ _), Proc.bind_ok (Conn.perform_apply _ _)]
  dsimp only
  rw [List.append_assoc, List.singleton_append]
  exact hfree.outcome ⟨server, cx, _⟩ server'

/-- The requests of an accepted command line are those of its options. To a server's answer to its
handshake the client sends them all if it is let in, and none if it is not, exactly if no field that
it sends is one that is longer than 255 bytes by its last character, on a connection that does not
fail. What it sends makes the server serve these requests and no others. With the handlers that it
leaves the task that reads gives the responses of a command, with events among them, to the handlers
of the requests of that command in order. -/
theorem commandLine_served (h : parseArguments env args = .ok (.run startup)) :
    startup.requests = (givenOptions args.tail).flatMap (Given.requests env)
      ∧ ∀ (cx : SandstormContext) (cenv : ClientEnv) {ρ : Type} [AsyncRead ρ] (client : ρ)
          (rest : List UInt8),
        let success := cx.tryLogin startup.loginCredentials.1 startup.loginCredentials.2
        let requests := startup.requestsTo (success = some true)
        let run := runClientInner cenv startup ⟨client, ⟨[], .new⟩⟩
        cenv.Lasts startup.requests.length →
        unread client = (handshakeStatus success).intoU8 :: rest →
        (run.1 = .ok () ↔ ∀ field ∈ startup.fieldsTo (success = some true), ¬ Straddles field)
          ∧ (run.1 = .ok () →
            (∀ (senv : SandstormEnv) {ρ' : Type} [AsyncRead ρ'] (server : ρ') (fuel : ℕ),
                senv.writeStatus = .ok () → unread server = run.2.manager.writer →
                ending server = .eof → requests.length < fuel →
                Conn.outcome (handleSandstormInner senv fuel ⟨server, cx, []⟩)
                  = Conn.outcome (serveLogin senv startup.loginCredentials.1
                    startup.loginCredentials.2 requests ⟨server, cx, []⟩))
              ∧ (∀ command,
                run.2.manager.handlers.queue command = Session.callIds command requests)
              ∧ ∀ (renv : ReaderEnv) (messages : List ServerMessage) {ρ' : Type} [AsyncRead ρ']
                  (stream : ρ') (fuel : ℕ), (∀ message ∈ messages, message.Fits) →
                (∀ command, command ≠ .eventStream →
                  (messagesOf command messages).length
                    ≤ (Session.callIds command requests).length) →
                unread stream = ServerMessage.encodings messages → ending stream = .eof →
                messages.length < fuel →
                ∃ conn, readerLoop renv fuel ⟨stream, ⟨run.2.manager.handlers, none⟩, []⟩
                    = (.ok (), conn) ∧ unread conn.reader = []
                  ∧ ∀ command, command ≠ .eventStream → handledFor command conn.effects
                    = (Session.callIds command requests).zip
                      (messagesOf command (messages.map ServerMessage.stored))) := by
  refine ⟨(parseArguments_requests h).1, fun cx cenv ρ _ client rest => ?_⟩
  dsimp only
  intro hlasts hclient
  obtain ⟨hsends, hsent⟩ :=
    runClientInner_sends startup hlasts (handshakeStatus_ne_unspecifiedError _) hclient
  simp only [handshakeStatus_eq_ok_iff] at hsends hsent
  have haccepted := parseArguments_fieldsTo h
    (cx.tryLogin startup.loginCredentials.1 startup.loginCredentials.2 = some true)
  refine ⟨hsends.trans (forall₂_congr fun field hfield => (haccepted field hfield).short_iff),
    fun hrun => ?_⟩
  obtain ⟨hwriter, hqueue, hremaining⟩ := hsent hrun
  refine ⟨fun senv ρ' _ server fuel hwrite hserver hend hfuel => ?_, hqueue,
    fun renv messages ρ' _ stream fuel hfits hcalls hstream hend hfuel => ?_⟩
  · obtain ⟨⟨hu, hp⟩, hfits⟩ := (fieldsTo_short_iff _ _).1 (hsends.1 hrun)
    refine handleSandstormInner_serves hwrite hu hp ?_ (hserver.trans hwriter) hend hfuel
    intro q hq
    unfold StartupArguments.requestsTo at hq
    split_ifs at hq with hlogged
    · obtain ⟨request, hrequest, rfl⟩ := List.mem_map.1 hq
      exact hfits hlogged request hrequest
    · cases hq
  · have hexpect := Session.expect_of_calls hqueue hremaining hcalls
    obtain ⟨conn, hall, hhandled⟩ := receiveAll_handled renv (ρ := ρ')
      ⟨stream, ⟨_, none⟩, []⟩ hexpect.stored
    obtain ⟨conn', hread, hleft, heffects⟩ := readerLoop_of_receiveAll hfits hstream hend hfuel hall
    refine ⟨conn', hread, hleft, fun command hcommand => ?_⟩
    rw [heffects, hhandled command hcommand]
    dsimp only
    rw [hqueue]
    rfl

instance (field : Str) : Decidable (Straddles field) := inferInstanceAs (Decidable (_ ∧ _))

/-- No text is an address, and there are no credentials but those of the command line. -/
def offlineEnv : ArgsEnv where
  alphanumeric := .onlyAscii
  toSocketAddrs _ := .error ⟨.invalidInput, []⟩
  credentials := .error .notPresent

/-- An admin who meows and then deletes the user `m`. -/
def meowLine : List Str :=
  ["sandstorm", "-c", "admin:admin", "--meow", "", "-d", "m"].map String.toList

def meowArguments : StartupArguments where
  verbose := false
  silent := false
  serverAddress := StartupArguments.localhost 2222
  loginCredentials := ("admin".toList, "admin".toList)
  requests := [.meow, .deleteUser ['m']]
  outputLogs := false
  interactive := false

/-- A connection that does not fail. -/
def steadyEnv : ClientEnv := ⟨.ok (), none⟩

def meowClient : ClientConn Flat := ⟨⟨[0], .eof⟩, ⟨[], .new⟩⟩

/-- The answer to the second request, and then the one to the first. -/
def deletedAndMeow : List ServerMessage := [.deleteUser .ok, .meow]

theorem commandLine_served_meow :
    let run := runClientInner steadyEnv meowArguments meowClient
    meowArguments.requests = (givenOptions meowLine.tail).flatMap (Given.requests offlineEnv)
      ∧ run.1 = .ok ()
      ∧ ∃ conn, readerLoop quietEnv 3 ⟨(⟨ServerMessage.encodings deletedAndMeow, .eof⟩ : Flat),
          ⟨run.2.manager.handlers, none⟩, []⟩ = (.ok (), conn)
        ∧ handledFor .meow conn.effects = [(0, .meow)]
        ∧ handledFor .deleteUser conn.effects = [(1, .deleteUser .ok)] := by
  intro run
  have hparse : parseArguments offlineEnv meowLine = .ok (.run meowArguments) := by rfl
  obtain ⟨hrequests, hserved⟩ := commandLine_served hparse
  have hlogin : oneAdmin.tryLogin "admin".toList "admin".toList = some true := by decide +kernel
  have hstream := hserved oneAdmin steadyEnv (⟨[0], .eof⟩ : Flat) []
  dsimp only [meowArguments] at hstream
  rw [hlogin] at hstream
  obtain ⟨hok, hsent⟩ := hstream ⟨rfl, nofun⟩ rfl
  have hrun : run.1 = .ok () := hok.2 (by decide +kernel)
  obtain ⟨-, -, hdispatch⟩ := hsent hrun
  obtain ⟨conn, hread, -, hhandled⟩ := hdispatch quietEnv deletedAndMeow
    (⟨ServerMessage.encodings deletedAndMeow, .eof⟩ : Flat) 3
    (by simp [deletedAndMeow, ServerMessage.Fits]) (fun command _ => by cases command <;> decide)
    rfl rfl (by decide)
  exact ⟨hrequests, hrun, conn, hread, hhandled .meow (by decide), hhandled .deleteUser (by decide)⟩

end Served

end Sandstorm

end DustDevil
