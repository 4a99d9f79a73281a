import DustDevil.Proofs.Socks5Parsers

/-!
# Who a socks5 connection serves, and what it answers

A client gets to its request only through the gate (`handleSocks5Inner_gate`): a handshake whose
offered methods hold the one it was answered with, and, for a username and a password, a login.
From there on the connection has one reply for the client, unless the request's name cannot be
looked up (`serveRequest_replies_iff`).
-/

namespace DustDevil

open Wire

/-! ## Effects -/

section Effects

namespace SocksEffect

/-- The effects of a connection that only talks to its client. -/
def Local : SocksEffect → Prop
  | log _ => True
  | write _ => True
  | _ => False

/-- The effects by which a connection reaches out for a destination. -/
def Outgoing : SocksEffect → Prop
  | lookupHost _ => True
  | newSocket _ => True
  | connect _ => True
  | _ => False

theorem Local.not_outgoing : ∀ {e : SocksEffect}, e.Local → ¬ e.Outgoing
  | log _, _ => id
  | write _, _ => id

@[simp] def writtenBytes : SocksEffect → Option (List UInt8)
  | write bytes => some bytes
  | _ => none

end SocksEffect

/-- What was written to the client, one entry for each `write_all`. -/
def written (effects : List SocksEffect) : List (List UInt8) :=
  effects.filterMap SocksEffect.writtenBytes

@[simp] theorem written_append (es es' : List SocksEffect) :
    written (es ++ es') = written es ++ written es' := List.filterMap_append

@[simp] theorem written_log (events : List EventData) :
    written (events.map SocksEffect.log) = [] := by
  simp [written, List.filterMap_map, Function.comp_def, SocksEffect.writtenBytes]

@[simp] theorem written_nil : written [] = [] := rfl

@[simp] theorem written_cons (e : SocksEffect) (es : List SocksEffect) :
    written (e :: es) = e.writtenBytes.toList ++ written es := by
  cases e <;> rfl

end Effects

section Steps

variable {ρ ε α : Type} (cx : ClientContext)

@[simp] theorem logSocks_apply (event : EventData) (conn : SocksConn ρ) :
    (logSocks cx event : Proc (SocksConn ρ) ε Unit) conn
      = (.ok (), ⟨conn.reader, conn.state, conn.effects ++ (cx.log event).map .log⟩) := rfl

theorem writeToClient_eq_ok {result : Except IoError Unit} {bytes : List UInt8}
    {conn conn' : SocksConn ρ} (h : writeToClient result bytes conn = (.ok (), conn')) :
    conn' = ⟨conn.reader, conn.state, conn.effects ++ [.write bytes]⟩ := by
  obtain ⟨_, conn1, h1, h⟩ := Proc.bind_eq_ok h
  simp only [Conn.perform_apply, Prod.mk.injEq, true_and] at h1
  subst h1
  cases result <;> simp_all

theorem writeToClient_ok (bytes : List UInt8) (conn : SocksConn ρ) :
    writeToClient (.ok ()) bytes conn
      = (.ok (), ⟨conn.reader, conn.state, conn.effects ++ [.write bytes]⟩) :=
  rfl

end Steps

/-! ## What the effects are, whatever happens -/

section Keeps

variable {ρ ε α : Type} {I : SocksConn ρ → Prop} {P : SocksEffect → Prop}

theorem logSocks_keeps (h : Conn.Extends SocksEffect.Local I) (cx : ClientContext)
    (event : EventData) :
    Proc.Keeps I (logSocks cx event : Proc (SocksConn ρ) ε Unit) :=
  h.perform fun e he => by
    obtain ⟨_, -, rfl⟩ := List.mem_map.1 he
    trivial

theorem writeToClient_keeps (h : Conn.Extends SocksEffect.Local I) (result : Except IoError Unit)
    (bytes : List UInt8) : Proc.Keeps I (writeToClient result bytes : Proc (SocksConn ρ) _ _) :=
  (h.perform fun e he => by simp_all [SocksEffect.Local]).bind fun _ => .ofExcept _

variable (env : SocksEnv) (cx : ClientContext)

theorem requestAddresses_keeps (h : Conn.Extends (fun _ => True) I) (request : SocksRequest) :
    Proc.Keeps I (requestAddresses env cx request) := by
  obtain ⟨_ | _ | name, port⟩ := request
  · exact .pure _
  · exact .pure _
  · exact (logSocks_keeps h.of_any cx _).bind fun _ => (h.performAny _).bind fun _ =>
      (Proc.Keeps.ofExcept _).bind fun _ => .pure _

theorem connectSocket_keeps (h : Conn.Extends (fun _ => True) I) :
    ∀ (i : ℕ) (lastError : Option SocksStatus) (addresses : List SocketAddr),
      Proc.Keeps I (connectSocket env cx i lastError addresses)
  | _, _, [] => .pure _
  | i, lastError, address :: addresses => by
    refine (logSocks_keeps h.of_any cx _).bind fun _ => (h.performAny _).bind fun _ => ?_
    rcases env.newSocket i address with e | _
    · exact (logSocks_keeps h.of_any cx _).bind fun _ =>
        connectSocket_keeps h (i + 1) lastError addresses
    · apply (h.performAny _).bind
      intro _
      rcases env.connect i address with e | localAddr
      · exact (logSocks_keeps h.of_any cx _).bind fun _ =>
          connectSocket_keeps h (i + 1) _ addresses
      · exact (logSocks_keeps h.of_any cx _).bind fun _ => .pure _

theorem connectAndReply_keeps (h : Conn.Extends (fun _ => True) I) (addresses : List SocketAddr) :
    Proc.Keeps I (connectAndReply env cx addresses) := by
  have hlocal : Conn.Extends SocksEffect.Local I := h.of_any
  apply (connectSocket_keeps env cx h 0 none addresses).bind
  intro connected
  rcases connected with status | ⟨address, localAddr⟩
  · exact (logSocks_keeps hlocal cx _).bind fun _ =>
      (writeToClient_keeps hlocal _ _).bind fun _ => .pure _
  · exact (writeToClient_keeps hlocal _ _).bind fun _ => .pure _

variable [AsyncRead ρ]

theorem handleUserpassAuth_keeps (hreader : Conn.IgnoresReader I)
    (h : Conn.Extends SocksEffect.Local I) :
    Proc.Keeps I (handleUserpassAuth env cx) := by
  refine .bind (.bind (hreader.read _) fun ver => .ite ?_ ?_) fun status =>
    (writeToClient_keeps h _ _).bind fun _ => .pure _
  · exact (logSocks_keeps h cx _).bind fun _ => .pure _
  · exact (hreader.read _).bind fun _ => (hreader.read _).bind fun _ =>
      (logSocks_keeps h cx _).bind fun _ => .pure _

/-- Up to its request the connection only talks to the client. -/
theorem negotiate_keeps (hreader : Conn.IgnoresReader I) (h : Conn.Extends SocksEffect.Local I) :
    Proc.Keeps I (negotiate env cx) := by
  apply (hreader.read _).attempt.bind
  intro handshake
  rcases handshake with (ver | e) | handshake
  · exact (logSocks_keeps h cx _).bind fun _ => (writeToClient_keeps h _ _).bind fun _ => .pure _
  · exact .throw e
  · refine (logSocks_keeps h cx _).bind fun _ => (writeToClient_keeps h _ _).bind fun _ => ?_
    rcases selectAuthMethod cx handshake.methods with _ | (_ | _)
    · exact .pure _
    · exact .pure _
    · exact handleUserpassAuth_keeps env cx hreader h

theorem serveRequest_keeps (hreader : Conn.IgnoresReader I)
    (h : Conn.Extends (fun _ => True) I) (fuel : ℕ) :
    Proc.Keeps I (serveRequest env cx fuel) := by
  have hlocal : Conn.Extends SocksEffect.Local I := h.of_any
  refine (h.performAny _).bind fun _ => (hreader.read _).attempt.bind fun parsed => ?_
  have hfail : ∀ e, Proc.Keeps I (do
      Conn.perform (((parseErrorEvents cx e).flatMap cx.log).map .log)
      sendRequestResponse env (.fromParseError e) none
      pure .closed : Proc (SocksConn ρ) IoError SocksOutcome) := fun e =>
    (h.performAny _).bind fun _ => (writeToClient_keeps hlocal _ _).bind fun _ => .pure _
  rcases parsed with (ver | cmd | atyp | e) | request
  · exact hfail (.invalidVersion ver)
  · exact hfail (.commandNotSupported cmd)
  · exact hfail (.invalidATYP atyp)
  · exact .throw e
  exact (requestAddresses_keeps env cx h request).bind fun addresses =>
    connectAndReply_keeps env cx h addresses

end Keeps

/-! ## The gate -/

section Gate

variable {ρ : Type} [AsyncRead ρ] {env : SocksEnv} {cx : ClientContext}

theorem parseHandshake_refines : Refines (parseHandshake : Proc ρ _ _) parseHandshake :=
  (readU8_refines.mapErr _).bind fun _ => .ite (.throw _)
    ((readU8_refines.mapErr _).bind fun _ => ((readExact_refines _).mapErr _).bind fun _ => .pure _)

theorem parseHandshake_eq_ok {r r' : ρ} {handshake : SocksHandshake}
    (h : parseHandshake r = (.ok handshake, r')) :
    unread r = 5 :: UInt8.ofNat handshake.methods.length :: (handshake.methods ++ unread r')
      ∧ handshake.methods.length ≤ 255 := by
  obtain ⟨ver, r1, h1, h⟩ := Proc.bind_eq_ok (parseHandshake_refines.eq_ok h)
  split_ifs at h with hver
  · simp at h
  obtain ⟨nmethods, r2, h2, h⟩ := Proc.bind_eq_ok h
  obtain ⟨methods, r3, h3, h⟩ := Proc.bind_eq_ok h
  simp only [Proc.pure_apply, Prod.mk.injEq, Except.ok.injEq] at h
  obtain ⟨rfl, rfl⟩ := h
  obtain ⟨hb1, -⟩ := readU8_eq_ok (Proc.mapErr_eq_ok h1)
  obtain ⟨hb2, -⟩ := readU8_eq_ok (Proc.mapErr_eq_ok h2)
  obtain ⟨hb3, hlen, -⟩ := readExact_eq_ok (Proc.mapErr_eq_ok h3)
  have hlt := nmethods.toNat_lt
  rw [flat_bytes] at hb1 hb3
  refine ⟨?_, by dsimp only; omega⟩
  rw [hb1, hb2, hb3, not_not.1 hver, hlen, UInt8.ofNat_toNat]

theorem readChunkedUtf8String_refines :
    Refines (readChunkedUtf8String : Proc ρ _ _) readChunkedUtf8String :=
  readU8_refines.bind fun _ => (readExact_refines _).bind fun _ => intoString_refines _ _

theorem readChunkedUtf8String_eq_ok {r r' : ρ} {s : Str}
    (h : readChunkedUtf8String r = (.ok s, r')) :
    unread r = smallString s ++ unread r' ∧ (utf8 s).length ≤ 255 := by
  obtain ⟨len, r1, hlen, h⟩ := Proc.bind_eq_ok (readChunkedUtf8String_refines.eq_ok h)
  obtain ⟨bs, r2, hbs, h⟩ := Proc.bind_eq_ok h
  obtain ⟨hbytes, hle, -⟩ := chunk_eq_ok hlen hbs h
  exact ⟨hbytes, hle⟩

def ClientContext.enabled (cx : ClientContext) : AuthMethod → Bool
  | .noAuth => cx.isNoauthEnabled
  | .usernameAndPassword => cx.isUserpassEnabled

/-- The bytes are a sub-negotiation whose username and password are those of a user, and `rest`. -/
def LogsIn (cx : ClientContext) (bytes rest : List UInt8) : Prop :=
  ∃ username password, bytes = 1 :: (smallString username ++ (smallString password ++ rest))
    ∧ (utf8 username).length ≤ 255 ∧ (utf8 password).length ≤ 255
    ∧ cx.tryLogin username password

/-- What is left of the bytes after the part that a method asks for. -/
def Authenticates (cx : ClientContext) : AuthMethod → List UInt8 → List UInt8 → Prop
  | .noAuth, bytes, rest => bytes = rest
  | .usernameAndPassword, bytes, rest => LogsIn cx bytes rest

/-- The bytes are a handshake that offers `method`, which is enabled, what that method asks for, and
`rest`. -/
def Gate (cx : ClientContext) (bytes : List UInt8) (method : AuthMethod) (rest : List UInt8) :
    Prop :=
  ∃ methods after, bytes = 5 :: UInt8.ofNat methods.length :: (methods ++ after)
    ∧ methods.length ≤ 255 ∧ method.intoU8 ∈ methods ∧ cx.enabled method
    ∧ Authenticates cx method after rest

theorem selectAuthMethod_eq_some {methods : List UInt8} {method : AuthMethod}
    (h : selectAuthMethod cx methods = some method) :
    cx.enabled method ∧ method.intoU8 ∈ methods := by
  unfold selectAuthMethod at h
  split_ifs at h with hnoauth huserpass <;> simp only [Option.some.injEq] at h <;> subst h
  · exact hnoauth
  · exact huserpass

theorem userpassStatus_eq_true {conn conn' : SocksConn ρ}
    (h : userpassStatus cx conn = (.ok true, conn')) :
    LogsIn cx (unread conn.reader) (unread conn'.reader)
      ∧ written conn'.effects = written conn.effects := by
  obtain ⟨ver, conn1, h1, h⟩ := Proc.bind_eq_ok h
  obtain ⟨hver, -, he1⟩ := Conn.read_eq_ok h1
  split_ifs at h with hne
  · obtain ⟨_, _, -, h⟩ := Proc.bind_eq_ok h
    simp at h
  obtain ⟨username, conn2, h2, h⟩ := Proc.bind_eq_ok h
  obtain ⟨huser, -, he2⟩ := Conn.read_eq_ok h2
  obtain ⟨password, conn3, h3, h⟩ := Proc.bind_eq_ok h
  obtain ⟨hpass, -, he3⟩ := Conn.read_eq_ok h3
  rw [Proc.bind_ok (logSocks_apply _ _ _)] at h
  simp only [Proc.pure_apply, Prod.mk.injEq, Except.ok.injEq] at h
  obtain ⟨hlogin, rfl⟩ := h
  obtain ⟨hubytes, hulen⟩ := readChunkedUtf8String_eq_ok huser
  obtain ⟨hpbytes, hplen⟩ := readChunkedUtf8String_eq_ok hpass
  refine ⟨⟨username, password, ?_, hulen, hplen, hlogin⟩, ?_⟩
  · rw [readU8_eq_cons hver, not_not.1 hne, hubytes, hpbytes]
  · simp [he1, he2, he3]

theorem authenticate_eq_true {maybeMethod : Option AuthMethod} {conn conn' : SocksConn ρ}
    (h : authenticate env cx maybeMethod conn = (.ok true, conn')) :
    ∃ method, maybeMethod = some method
      ∧ Authenticates cx method (unread conn.reader) (unread conn'.reader)
      ∧ written conn.effects <+: written conn'.effects := by
  rcases maybeMethod with _ | _ | _
  · simp [authenticate] at h
  · simp only [authenticate, Proc.pure_apply, Prod.mk.injEq, true_and] at h
    subst h
    exact ⟨_, rfl, rfl, List.prefix_rfl⟩
  · obtain ⟨status, conn1, h1, h⟩ := Proc.bind_eq_ok h
    obtain ⟨_, conn2, h2, h⟩ := Proc.bind_eq_ok h
    simp only [Proc.pure_apply, Prod.mk.injEq, Except.ok.injEq] at h
    obtain ⟨rfl, rfl⟩ := h
    obtain ⟨hlogs, hw⟩ := userpassStatus_eq_true h1
    rw [writeToClient_eq_ok h2]
    refine ⟨_, rfl, hlogs, ?_⟩
    rw [← hw, written_append]
    exact List.prefix_append _ _

/-- A client that may go on to its request has passed the gate of the method it was answered. -/
theorem negotiate_eq_true {r : ρ} {conn : SocksConn ρ}
    (h : negotiate env cx ⟨r, (), []⟩ = (.ok true, conn)) :
    ∃ method, Gate cx (unread r) method (unread conn.reader)
      ∧ [handshakeResponse (some method)] <+: written conn.effects := by
  obtain ⟨attempted, conn1, h1, h⟩ := Proc.bind_eq_ok h
  rcases attempted with (ver | e) | handshake
  · obtain ⟨_, _, -, h⟩ := Proc.bind_eq_ok h
    obtain ⟨_, _, -, h⟩ := Proc.bind_eq_ok h
    simp at h
  · simp at h
  obtain ⟨hparse, -, he1⟩ := Conn.read_eq_ok (Proc.attempt_eq_ok h1)
  obtain ⟨_, _, hlog, h⟩ := Proc.bind_eq_ok h
  simp only [logSocks_apply, Prod.mk.injEq, true_and] at hlog
  subst hlog
  obtain ⟨_, conn2, h2, h⟩ := Proc.bind_eq_ok h
  have hconn2 := writeToClient_eq_ok h2
  obtain ⟨method, hmethod, hlogs, hprefix⟩ := authenticate_eq_true h
  obtain ⟨henabled, hmem⟩ := selectAuthMethod_eq_some hmethod
  obtain ⟨hbytes, hlen⟩ := parseHandshake_eq_ok hparse
  refine ⟨method, ⟨handshake.methods, _, hbytes, hlen, hmem, henabled, ?_⟩, ?_⟩
  · rwa [hconn2] at hlogs
  · simpa [hconn2, he1, hmethod] using hprefix

/-- The connection got to its request, reached out for a destination or began to relay. -/
def Serves (result : Except (Stop IoError) SocksOutcome) (effects : List SocksEffect) : Prop :=
  SocksEffect.parseRequest ∈ effects ∨ (∃ e ∈ effects, e.Outgoing)
    ∨ ∃ address, result = .ok (.relaying address)

theorem not_serves {result : Except (Stop IoError) SocksOutcome} {effects : List SocksEffect}
    (h : ∀ e ∈ effects, SocksEffect.Local e)
    (hresult : ∀ address, result ≠ .ok (.relaying address)) :
    ¬ Serves result effects := by
  rintro (hmem | ⟨e, hmem, hout⟩ | ⟨address, heq⟩)
  · exact h _ hmem
  · exact (h e hmem).not_outgoing hout
  · exact hresult address heq

/-- Whatever a client sends and however it arrives, it is served only if it passes the gate of the
method it was answered with, its first answer. -/
theorem handleSocks5Inner_gate {r : ρ} {fuel : ℕ} {result : Except (Stop IoError) SocksOutcome}
    {conn : SocksConn ρ} (hrun : handleSocks5Inner env cx fuel ⟨r, (), []⟩ = (result, conn))
    (hserves : Serves result conn.effects) :
    ∃ method rest, Gate cx (unread r) method rest
      ∧ (written conn.effects).head? = some (handshakeResponse (some method)) := by
  have hlocal : ∀ e ∈ (negotiate env cx ⟨r, (), []⟩).2.effects, SocksEffect.Local e :=
    negotiate_keeps env cx (I := fun conn => ∀ e ∈ conn.effects, SocksEffect.Local e)
      (fun _ _ h => h) (fun conn effects he h e hmem => (List.mem_append.1 hmem).elim (h e) (he e))
      ⟨r, (), []⟩ (by simp)
  rcases Proc.bind_cases (negotiate env cx)
    (fun authStatus => if authStatus then serveRequest env cx fuel else pure .closed) ⟨r, (), []⟩
    with ⟨authStatus, conn1, h, heq⟩ | ⟨e, conn1, h, heq⟩ <;>
    rw [handleSocks5Inner, heq] at hrun <;> rw [h] at hlocal
  · cases authStatus with
    | false =>
      simp only [Bool.false_eq_true, if_false, Proc.pure_apply, Prod.mk.injEq] at hrun
      obtain ⟨rfl, rfl⟩ := hrun
      exact absurd hserves (not_serves hlocal (by simp))
    | true =>
      obtain ⟨method, hgate, hprefix⟩ := negotiate_eq_true h
      have hkeeps := serveRequest_keeps env cx
        (I := fun conn' : SocksConn ρ => written conn1.effects <+: written conn'.effects)
        (fun _ _ h => h) (fun conn' effects _ h => h.trans (by simp)) fuel conn1 List.prefix_rfl
      rw [if_pos rfl] at hrun
      rw [hrun] at hkeeps
      obtain ⟨writes, hwrites⟩ := hprefix.trans hkeeps
      exact ⟨method, _, hgate, by rw [← hwrites]; rfl⟩
  · simp only [Prod.mk.injEq] at hrun
    obtain ⟨rfl, rfl⟩ := hrun
    exact absurd hserves (not_serves hlocal (by simp))

end Gate

/-! ## The reply to a request -/

section Reply

variable {ρ : Type} {env : SocksEnv} {cx : ClientContext}

theorem SocksStatus.fromError_ne_success (e : IoError) : fromError e ≠ .success := by
  unfold fromError
  split <;> simp

theorem SocksStatus.fromParseError_ne_success (e : ParseRequestError) :
    fromParseError e ≠ .success := by
  cases e with
  | io e => exact fromError_ne_success e
  | _ => simp [fromParseError]

def ConnectedTo (env : SocksEnv) (effects : List SocksEffect) (address : SocketAddr) : Prop :=
  .connect address ∈ effects ∧ ∃ i localAddr, env.connect i address = .ok localAddr

/-- The connection came to an end or to its relay, and after `before` it wrote one reply, whose
status is success exactly if it relays to an address that it connected to. -/
def AnswersOnce (env : SocksEnv) (before : List (List UInt8))
    (run : Except (Stop IoError) SocksOutcome × SocksConn ρ) : Prop :=
  Settled run.1 ∧ ∃ status bound, written run.2.effects = before ++ [requestResponse status bound]
    ∧ (status = .success ↔ ∃ address, run.1 = .ok (.relaying address)
      ∧ ConnectedTo env run.2.effects address)
    ∧ (status ≠ .success ↔ run.1 = .ok .closed)

/-- What `connectSocket` found: a failure to report, or an address it connected to. -/
def Connected (env : SocksEnv) (effects : List SocksEffect) :
    Except SocksStatus (SocketAddr × Option SocketAddr) → Prop
  | .error status => status ≠ .success
  | .ok (address, _) => ConnectedTo env effects address

theorem connectSocket_spec (env : SocksEnv) (cx : ClientContext) : ∀ (i : ℕ)
    (lastError : Option SocksStatus) (addresses : List SocketAddr) (conn : SocksConn ρ),
    lastError ≠ some .success →
      ∃ connected conn', connectSocket env cx i lastError addresses conn = (.ok connected, conn')
        ∧ written conn'.effects = written conn.effects ∧ Connected env conn'.effects connected
  | _, lastError, [], conn, hlast => by
    refine ⟨_, conn, rfl, rfl, ?_⟩
    rcases lastError with _ | status
    · simp [Connected]
    · simpa [Connected] using hlast
  | i, lastError, address :: addresses, conn, hlast => by
    rw [connectSocket, Proc.bind_ok (logSocks_apply _ _ _),
      Proc.bind_ok (Conn.perform_apply _ _)]
    rcases env.newSocket i address with e | _
    · obtain ⟨connected, conn', h, hw, hc⟩ :=
        connectSocket_spec env cx (i + 1) lastError addresses _ hlast
      refine ⟨connected, conn', (Proc.bind_ok (logSocks_apply _ _ _) _).trans h, ?_, hc⟩
      simpa using hw
    · dsimp only
      rw [Proc.bind_ok (Conn.perform_apply _ _)]
      rcases hconnect : env.connect i address with e | localAddr
      · obtain ⟨connected, conn', h, hw, hc⟩ := connectSocket_spec env cx (i + 1)
          (some (.fromError e)) addresses _ (by simp [SocksStatus.fromError_ne_success])
        refine ⟨connected, conn', (Proc.bind_ok (logSocks_apply _ _ _) _).trans h, ?_, hc⟩
        simpa using hw
      · refine ⟨_, _, Proc.bind_ok (logSocks_apply _ _ _) _, ?_, ?_, i, localAddr, hconnect⟩
        · simp
        · simp

theorem connectAndReply_answersOnce (hwrite : env.writeRequest = .ok ())
    (addresses : List SocketAddr) (conn : SocksConn ρ) :
    AnswersOnce env (written conn.effects) (connectAndReply env cx addresses conn) := by
  obtain ⟨connected, conn1, h1, hw, hc⟩ :=
    connectSocket_spec env cx 0 none addresses conn (by simp)
  unfold connectAndReply
  rw [Proc.bind_ok h1]
  rcases connected with status | ⟨address, localAddr⟩
  · dsimp only
    rw [Proc.bind_ok (logSocks_apply _ _ _), sendRequestResponse, hwrite,
      Proc.bind_ok (writeToClient_ok _ _)]
    have hne : status ≠ .success := hc
    refine ⟨trivial, status, none, by simp [hw], ?_, ?_⟩ <;> simpa using hne
  · dsimp only
    unfold sendRequestResponse
    rw [hwrite, Proc.bind_ok (writeToClient_ok _ _)]
    refine ⟨trivial, .success, localAddr, by simp [hw], ?_, by simp⟩
    obtain ⟨hmem, i, addr, hconnect⟩ := hc
    simp only [true_iff]
    exact ⟨address, rfl, by simp [hmem], i, addr, hconnect⟩

def LookupFails (env : SocksEnv) (request : SocksRequest) : Prop :=
  ∃ name e, request.destination = .domainname name
    ∧ env.lookupHost (name ++ [':', '0']) = .error e

theorem requestAddresses_ok (cx : ClientContext) {request : SocksRequest}
    (h : ¬ LookupFails env request) (conn : SocksConn ρ) :
    ∃ addresses conn', requestAddresses env cx request conn = (.ok addresses, conn')
      ∧ written conn'.effects = written conn.effects := by
  obtain ⟨_ | _ | name, port⟩ := request
  · exact ⟨_, conn, rfl, rfl⟩
  · exact ⟨_, conn, rfl, rfl⟩
  · rcases hlookup : env.lookupHost (name ++ [':', '0']) with e | addresses
    · exact absurd ⟨name, e, rfl, hlookup⟩ h
    · simp only [requestAddresses]
      rw [Proc.bind_ok (logSocks_apply _ _ _), Proc.bind_ok (Conn.perform_apply _ _), hlookup,
        Proc.bind_ok (Proc.ofExcept_ok _ _)]
      exact ⟨_, _, rfl, by simp⟩

theorem requestAddresses_error (cx : ClientContext) {request : SocksRequest}
    (h : LookupFails env request) (conn : SocksConn ρ) :
    ∃ e conn', requestAddresses env cx request conn = (.error (.err e), conn')
      ∧ written conn'.effects = written conn.effects := by
  obtain ⟨name, e, hname, hlookup⟩ := h
  simp only [requestAddresses, hname]
  rw [Proc.bind_ok (logSocks_apply _ _ _), Proc.bind_ok (Conn.perform_apply _ _), hlookup,
    Proc.bind_error (Proc.ofExcept_error _ _)]
  exact ⟨_, _, rfl, by simp⟩

variable [AsyncRead ρ] {fuel : ℕ} {conn : SocksConn ρ}

theorem serveRequest_of_rejected {e : ParseRequestError} (h : Rejected (unread conn.reader) e)
    (hwrite : env.writeRequest = .ok ()) :
    AnswersOnce env (written conn.effects) (serveRequest env cx fuel conn) := by
  obtain ⟨r', hparse⟩ := parseRequest_of_rejected h fuel
  have hne := SocksStatus.fromParseError_ne_success e
  have hrun : serveRequest env cx fuel conn = (.ok .closed, ⟨r', (), conn.effects
      ++ [.parseRequest] ++ ((parseErrorEvents cx e).flatMap cx.log).map .log
      ++ [.write (requestResponse (.fromParseError e) none)]⟩) := by
    rw [serveRequest, Proc.bind_ok (Conn.perform_apply _ _), Proc.bind_ok
      (Proc.attempt_err (by rw [Conn.read_apply, hparse]))]
    cases e with
    | io e => exact absurd rfl (h.ne_io e)
    | _ => simp only [sendRequestResponse, hwrite]; rfl
  rw [hrun]
  refine ⟨trivial, .fromParseError e, none, by simp, ?_, ?_⟩ <;> simpa using hne

theorem serveRequest_of_writes (env : SocksEnv) (cx : ClientContext) {request : SocksRequest}
    {rest : List UInt8} (hfuel : 255 ≤ fuel) (h : WritesRequest (unread conn.reader) request rest) :
    ∃ r', serveRequest env cx fuel conn
        = (requestAddresses env cx request >>= connectAndReply env cx)
          ⟨r', (), conn.effects ++ [.parseRequest]⟩
      ∧ unread r' = rest ∧ ending r' = ending conn.reader := by
  obtain ⟨r', hparse, hr', he'⟩ := parseRequest_of_writes hfuel h
  refine ⟨r', ?_, hr', he'⟩
  rw [serveRequest, Proc.bind_ok (Conn.perform_apply _ _), Proc.bind_ok
    (Proc.attempt_ok (by rw [Conn.read_apply, hparse]))]

/-- A lookup that fails ends the connection without a reply. -/
theorem serveRequest_not_answersOnce {request : SocksRequest} {rest : List UInt8}
    (hfuel : 255 ≤ fuel) (h : WritesRequest (unread conn.reader) request rest)
    (hfails : LookupFails env request) :
    ¬ AnswersOnce env (written conn.effects) (serveRequest env cx fuel conn) := by
  rintro ⟨-, status, bound, hw, -⟩
  obtain ⟨r', heq, -⟩ := serveRequest_of_writes env cx hfuel h
  obtain ⟨e, conn', herr, hsame⟩ := requestAddresses_error cx hfails
    ⟨r', (), conn.effects ++ [.parseRequest]⟩
  rw [heq, Proc.bind_error herr, hsame] at hw
  simp at hw

/-- A connection that relays has read a request, and no byte after it. -/
theorem serveRequest_eq_relaying {address : SocketAddr} {conn' : SocksConn ρ}
    (h : serveRequest env cx fuel conn = (.ok (.relaying address), conn')) :
    ∃ request, WritesRequest (unread conn.reader) request (unread conn'.reader) := by
  rw [serveRequest, Proc.bind_ok (Conn.perform_apply _ _)] at h
  obtain ⟨parsed, conn1, h1, h⟩ := Proc.bind_eq_ok h
  have hfail : ∀ e, (Conn.perform (((parseErrorEvents cx e).flatMap cx.log).map .log)
      >>= fun _ => sendRequestResponse env (.fromParseError e) none
      >>= fun _ => pure SocksOutcome.closed) conn1 ≠ (.ok (.relaying address), conn') := by
    intro e h
    obtain ⟨_, _, -, h⟩ := Proc.bind_eq_ok h
    obtain ⟨_, _, -, h⟩ := Proc.bind_eq_ok h
    simp at h
  rcases parsed with (ver | cmd | atyp | e) | request
  · exact absurd h (hfail (.invalidVersion ver))
  · exact absurd h (hfail (.commandNotSupported cmd))
  · exact absurd h (hfail (.invalidATYP atyp))
  · simp at h
  obtain ⟨hparse, -, -⟩ := Conn.read_eq_ok (Proc.attempt_eq_ok h1)
  have hkeeps := ((requestAddresses_keeps env cx
    (I := fun c : SocksConn ρ => c.reader = conn1.reader) (fun _ _ _ h => h) request).bind
      fun addresses => connectAndReply_keeps env cx (fun _ _ _ h => h) addresses) conn1 rfl
  have hreader : conn'.reader = conn1.reader := by
    dsimp only at h hkeeps
    rwa [h] at hkeeps
  exact ⟨request, hreader ▸ parseRequest_eq_ok hparse⟩

/-- The bytes are a complete request, or one that the parser rejects. -/
def Answerable (bytes : List UInt8) : Prop :=
  (∃ request rest, WritesRequest bytes request rest) ∨ ∃ e, Rejected bytes e

/-- The bytes are a complete request whose name cannot be looked up. -/
def Unresolvable (env : SocksEnv) (bytes : List UInt8) : Prop :=
  ∃ request rest, WritesRequest bytes request rest ∧ LookupFails env request

/-- Once authenticated, a client whose request can be answered gets exactly one reply, with the
status of what follows, unless the request's name cannot be looked up. -/
theorem handleSocks5Inner_answersOnce_iff {r : ρ}
    (hauth : negotiate env cx ⟨r, (), []⟩ = (.ok true, conn))
    (hbytes : Answerable (unread conn.reader)) (hwrite : env.writeRequest = .ok ())
    (hfuel : 255 ≤ fuel) :
    AnswersOnce env (written conn.effects) (handleSocks5Inner env cx fuel ⟨r, (), []⟩)
      ↔ ¬ Unresolvable env (unread conn.reader) := by
  have hserve : handleSocks5Inner env cx fuel ⟨r, (), []⟩ = serveRequest env cx fuel conn := by
    rw [handleSocks5Inner, Proc.bind_ok hauth, if_pos rfl]
  rw [hserve]
  constructor
  · rintro hanswers ⟨request, rest, hwrites, hfails⟩
    exact serveRequest_not_answersOnce hfuel hwrites hfails hanswers
  · intro hresolves
    rcases hbytes with ⟨request, rest, hwrites⟩ | ⟨e, hrejected⟩
    · have hlookup : ¬ LookupFails env request := fun h => hresolves ⟨request, rest, hwrites, h⟩
      obtain ⟨r', heq, -⟩ := serveRequest_of_writes env cx hfuel hwrites
      obtain ⟨addresses, conn', hok, hw'⟩ := requestAddresses_ok cx hlookup
        ⟨r', (), conn.effects ++ [.parseRequest]⟩
      have hsame : written conn'.effects = written conn.effects := by simpa using hw'
      rw [heq, Proc.bind_ok hok, ← hsame]
      exact connectAndReply_answersOnce hwrite addresses conn'
    · exact serveRequest_of_rejected hrejected hwrite

end Reply

/-! ## Two clients -/

section Clients

def bothEnabled : ServerState :=
  ⟨⟨(∅ : UserMap).insert "ana".toList ⟨['1'], .regular⟩, ⟨0, false⟩⟩, true, true, 8192, false⟩

abbrev bothMethods : ClientContext := .create 1 bothEnabled true

/-- Writes and connections succeed, and no name is known. -/
def namelessEnv : SocksEnv where
  writeHandshake := .ok ()
  writeAuth := .ok ()
  writeRequest := .ok ()
  lookupHost _ := .error ⟨.uncategorized, "failed to lookup address information".toList⟩
  newSocket _ _ := .ok ()
  connect _ _ := .ok none

/-- A client that logs in as the user, asks for 10.0.0.1:80 and goes on at once, in three pieces. -/
def loginSource : Source :=
  ⟨[5, 1, 2] ++ [1, 3, 0x61, 0x6E, 0x61, 1, 0x31] ++ [5, 1, 0, 1, 10, 0, 0, 1, 0, 80]
    ++ [0x68, 0x69], [2, 8], .open⟩

abbrev loginClient : BufReader := .withCapacity 8192 loginSource

theorem handleSocks5Inner_gate_loginClient :
    ∃ method rest, Gate bothMethods (unread loginClient) method rest
      ∧ (written
          (handleSocks5Inner namelessEnv bothMethods 255 ⟨loginClient, (), []⟩).2.effects).head?
        = some (handshakeResponse (some method)) :=
  handleSocks5Inner_gate Prod.mk.eta.symm
    (.inr (.inr ⟨.v4 ⟨⟨0x0A000001⟩, 80⟩, by decide +kernel⟩))

/-- A client that needs no login and asks for port 80 of the host `a`. -/
def nameClient : BufReader :=
  .withCapacity 8192 ⟨[5, 1, 0] ++ [5, 1, 0, 3, 1, 0x61, 0, 80], [], .open⟩

def nameConn : SocksConn BufReader where
  reader := ⟨8192, [5, 1, 0, 3, 1, 0x61, 0, 80], ⟨[], [], .open⟩⟩
  state := ()
  effects := [.log (.clientSelectedAuthMethod 1 .noAuth), .write [5, 0]]

theorem negotiate_nameClient :
    negotiate namelessEnv bothMethods ⟨nameClient, (), []⟩ = (.ok true, nameConn) := rfl

theorem writesRequest_nameConn :
    WritesRequest (unread nameConn.reader) (.fromDomainname ['a'] 80) [] :=
  @WritesRequest.domainname 0 1 0 80 [0x61] [] (by decide) rfl (List.all_eq_true.1 rfl)

theorem handleSocks5Inner_answersOnce_iff_nameClient :
    AnswersOnce namelessEnv (written nameConn.effects)
        (handleSocks5Inner namelessEnv bothMethods 255 ⟨nameClient, (), []⟩)
      ↔ ¬ Unresolvable namelessEnv (unread nameConn.reader) :=
  handleSocks5Inner_answersOnce_iff negotiate_nameClient (.inl ⟨_, _, writesRequest_nameConn⟩) rfl
    le_rfl

theorem not_answersOnce_nameClient :
    negotiate namelessEnv bothMethods ⟨nameClient, (), []⟩ = (.ok true, nameConn)
      ∧ Answerable (unread nameConn.reader)
      ∧ ¬ AnswersOnce namelessEnv (written nameConn.effects)
        (handleSocks5Inner namelessEnv bothMethods 255 ⟨nameClient, (), []⟩) := by
  refine ⟨negotiate_nameClient, .inl ⟨_, _, writesRequest_nameConn⟩, ?_⟩
  rw [handleSocks5Inner, Proc.bind_ok negotiate_nameClient, if_pos rfl]
  exact serveRequest_not_answersOnce le_rfl writesRequest_nameConn ⟨['a'], _, rfl, rfl⟩

end Clients

end DustDevil
