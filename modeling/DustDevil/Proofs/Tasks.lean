import DustDevil.Proofs.Copy
import DustDevil.Proofs.MainLoop
import DustDevil.Proofs.Sandstorm

/-!
# What the tasks of the connections log

A task's events are about its own connection, and once its inner function has returned there is one
more, that the connection has finished, with the totals of the bytes that the events before it tell
of (`handleSocks5_events`, `handleSandstorm_events`). So the main loop's system takes a task's
events one after the other, whatever it has done before and wherever the task is cancelled
(`runs_task`).
-/

namespace DustDevil

open Wire

/-! ## A client's task -/

section Client

variable {ρ ε : Type} {I : SocksConn ρ → Prop} {cx : ClientContext}

/-- An event of a client's task before its relay. -/
def EventData.Negotiates (clientId : ℕ) (event : EventData) : Prop :=
  event.Within (.client, clientId) ∧ ∀ dir, event.byteCount dir = 0

/-- What the effect logs, if anything, is such an event. -/
def SocksEffect.Own (clientId : ℕ) (effect : SocksEffect) : Prop :=
  ∀ event ∈ effect.logged, event.Negotiates clientId

theorem logSocks_own (h : Conn.Extends (SocksEffect.Own cx.clientId) I) {event : EventData}
    (hevent : event.Negotiates cx.clientId) :
    Proc.Keeps I (logSocks cx event : Proc (SocksConn ρ) ε Unit) := by
  refine h.perform fun e he => ?_
  obtain ⟨event', hmem, rfl⟩ := List.mem_map.1 he
  have heq : event' = event := by
    unfold ClientContext.log at hmem
    split_ifs at hmem
    · exact List.mem_singleton.1 hmem
    · cases hmem
  rintro _ ⟨⟩
  rwa [heq]

theorem perform_own (h : Conn.Extends (SocksEffect.Own cx.clientId) I) {effect : SocksEffect}
    (heffect : effect.logged = none) :
    Proc.Keeps I (Conn.perform [effect] : Proc (SocksConn ρ) ε Unit) := by
  refine h.perform fun e he event hevent => ?_
  rw [List.mem_singleton.1 he, heffect] at hevent
  cases hevent

theorem writeToClient_own (h : Conn.Extends (SocksEffect.Own cx.clientId) I)
    (result : Except IoError Unit) (bytes : List UInt8) :
    Proc.Keeps I (writeToClient result bytes : Proc (SocksConn ρ) _ _) :=
  (perform_own h rfl).bind fun _ => .ofExcept _

variable (env : SocksEnv)

theorem requestAddresses_own (h : Conn.Extends (SocksEffect.Own cx.clientId) I)
    (request : SocksRequest) : Proc.Keeps I (requestAddresses env cx request) := by
  obtain ⟨_ | _ | name, port⟩ := request
  · exact .pure _
  · exact .pure _
  · exact (logSocks_own h ⟨⟨rfl, rfl, rfl⟩, fun _ => rfl⟩).bind fun _ =>
      (perform_own h rfl).bind fun _ => (Proc.Keeps.ofExcept _).bind fun _ => .pure _

theorem connectSocket_own (h : Conn.Extends (SocksEffect.Own cx.clientId) I) :
    ∀ (i : ℕ) (lastError : Option SocksStatus) (addresses : List SocketAddr),
      Proc.Keeps I (connectSocket env cx i lastError addresses)
  | _, _, [] => .pure _
  | i, lastError, address :: addresses => by
    refine (logSocks_own h ⟨⟨rfl, rfl, rfl⟩, fun _ => rfl⟩).bind fun _ =>
      (perform_own h rfl).bind fun _ => ?_
    rcases env.newSocket i address with e | _
    · exact (logSocks_own h ⟨⟨rfl, rfl, rfl⟩, fun _ => rfl⟩).bind fun _ =>
        connectSocket_own h (i + 1) lastError addresses
    · apply (perform_own h rfl).bind
      intro _
      rcases env.connect i address with e | localAddr
      · exact (logSocks_own h ⟨⟨rfl, rfl, rfl⟩, fun _ => rfl⟩).bind fun _ =>
          connectSocket_own h (i + 1) _ addresses
      · exact (logSocks_own h ⟨⟨rfl, rfl, rfl⟩, fun _ => rfl⟩).bind fun _ => .pure _

theorem connectAndReply_own (h : Conn.Extends (SocksEffect.Own cx.clientId) I)
    (addresses : List SocketAddr) : Proc.Keeps I (connectAndReply env cx addresses) := by
  apply (connectSocket_own env h 0 none addresses).bind
  intro connected
  rcases connected with status | ⟨address, localAddr⟩
  · exact (logSocks_own h ⟨⟨rfl, rfl, rfl⟩, fun _ => rfl⟩).bind fun _ =>
      (writeToClient_own h _ _).bind fun _ => .pure _
  · exact (writeToClient_own h _ _).bind fun _ => .pure _

variable [AsyncRead ρ]

theorem handleUserpassAuth_own (hreader : Conn.IgnoresReader I)
    (h : Conn.Extends (SocksEffect.Own cx.clientId) I) :
    Proc.Keeps I (handleUserpassAuth env cx) := by
  refine .bind (.bind (hreader.read _) fun ver => .ite ?_ ?_) fun status =>
    (writeToClient_own h _ _).bind fun _ => .pure _
  · exact (logSocks_own h ⟨⟨rfl, rfl, rfl⟩, fun _ => rfl⟩).bind fun _ => .pure _
  · exact (hreader.read _).bind fun _ => (hreader.read _).bind fun _ =>
      (logSocks_own h ⟨⟨rfl, rfl, rfl⟩, fun _ => rfl⟩).bind fun _ => .pure _

theorem negotiate_own (hreader : Conn.IgnoresReader I)
    (h : Conn.Extends (SocksEffect.Own cx.clientId) I) : Proc.Keeps I (negotiate env cx) := by
  apply (hreader.read _).attempt.bind
  intro handshake
  rcases handshake with (ver | e) | handshake
  · exact (logSocks_own h ⟨⟨rfl, rfl, rfl⟩, fun _ => rfl⟩).bind fun _ =>
      (writeToClient_own h _ _).bind fun _ => .pure _
  · exact .throw e
  have hselected : (selectedAuthEvent cx (selectAuthMethod cx handshake.methods)).Negotiates
      cx.clientId := by
    rcases selectAuthMethod cx handshake.methods with _ | method <;>
      exact ⟨⟨rfl, rfl, rfl⟩, fun _ => rfl⟩
  refine (logSocks_own h hselected).bind fun _ => (writeToClient_own h _ _).bind fun _ => ?_
  rcases selectAuthMethod cx handshake.methods with _ | (_ | _)
  · exact .pure _
  · exact .pure _
  · exact handleUserpassAuth_own env hreader h

theorem serveRequest_own (hreader : Conn.IgnoresReader I)
    (h : Conn.Extends (SocksEffect.Own cx.clientId) I) (fuel : ℕ) :
    Proc.Keeps I (serveRequest env cx fuel) := by
  refine (perform_own h rfl).bind fun _ => (hreader.read _).attempt.bind fun parsed => ?_
  have hfail : ∀ (event : EventData) (status : SocksStatus), event.Negotiates cx.clientId →
      Proc.Keeps I (do
        Conn.perform (([event].flatMap cx.log).map .log)
        sendRequestResponse env status none
        pure .closed : Proc (SocksConn ρ) IoError SocksOutcome) := by
    intro event status hevent
    rw [List.flatMap_singleton]
    exact (logSocks_own h hevent).bind fun _ => (writeToClient_own h _ _).bind fun _ => .pure _
  rcases parsed with (ver | cmd | atyp | e) | request
  · exact hfail _ _ ⟨⟨rfl, rfl, rfl⟩, fun _ => rfl⟩
  · exact hfail _ _ ⟨⟨rfl, rfl, rfl⟩, fun _ => rfl⟩
  · exact hfail _ _ ⟨⟨rfl, rfl, rfl⟩, fun _ => rfl⟩
  · exact .throw e
  exact (requestAddresses_own env h request).bind fun addresses =>
    connectAndReply_own env h addresses

/-- All that a connection logs before its relay is about its client. -/
theorem handleSocks5Inner_logged (fuel : ℕ) (reader : ρ) :
    ∀ event ∈ (handleSocks5Inner env cx fuel ⟨reader, (), []⟩).2.effects.filterMap
      SocksEffect.logged, event.Negotiates cx.clientId := by
  have hreader : Conn.IgnoresReader fun conn : SocksConn ρ =>
      ∀ e ∈ conn.effects, e.Own cx.clientId := fun _ _ h => h
  have hextends : Conn.Extends (SocksEffect.Own cx.clientId) fun conn : SocksConn ρ =>
      ∀ e ∈ conn.effects, e.Own cx.clientId := fun _ _ he h => List.forall_mem_append.2 ⟨h, he⟩
  have hkeeps : Proc.Keeps (fun conn : SocksConn ρ => ∀ e ∈ conn.effects, e.Own cx.clientId)
      (handleSocks5Inner env cx fuel) := (negotiate_own env hreader hextends).bind fun _ =>
    .ite (serveRequest_own env hreader hextends fuel) (.pure SocksOutcome.closed)
  have howns := hkeeps ⟨reader, (), []⟩ (by simp)
  intro event hevent
  obtain ⟨effect, heffect, hlogged⟩ := List.mem_filterMap.1 hevent
  exact howns effect heffect event hlogged

end Client

/-! ## Its relay -/

section Relay

variable {clientId : ℕ} {logging : Bool}

/-- All that was logged is about the client. -/
structure Moving.Own (clientId : ℕ) (logging : Bool) (s : Moving) : Prop where
  context : s.context.clientId = clientId ∧ s.context.logging = logging
  events : ∀ e ∈ s.events, e.Within (.client, clientId)

theorem within_log {cx : ClientContext} {event : EventData}
    (hevent : event.Within (.client, clientId)) :
    ∀ e ∈ cx.log event, e.Within (.client, clientId) := by
  unfold ClientContext.log
  split_ifs
  · exact List.forall_mem_singleton.2 hevent
  · simp

theorem Moving.Own.logShutdown {s : Moving} (h : s.Own clientId logging) (isSrcToDst : Bool) :
    (s.logShutdown isSrcToDst).Own clientId logging where
  context := h.context
  events := by
    refine List.forall_mem_append.2 ⟨h.events, within_log ?_⟩
    rw [h.context.1]
    cases isSrcToDst <;> exact ⟨rfl, rfl, rfl⟩

theorem Moving.Own.register {s : Moving} (h : s.Own clientId logging) (isSrcToDst : Bool) (i : ℕ) :
    (s.register isSrcToDst i).Own clientId logging := by
  have hcontext := h.context
  cases isSrcToDst
  · refine ⟨hcontext, List.forall_mem_append.2 ⟨h.events, within_log ?_⟩⟩
    rw [hcontext.1]
    exact ⟨rfl, rfl, rfl⟩
  · refine ⟨hcontext, List.forall_mem_append.2 ⟨h.events, within_log ?_⟩⟩
    rw [hcontext.1]
    exact ⟨rfl, rfl, rfl⟩

theorem Moving.Own.same {s s' : Moving} (h : s.Own clientId logging)
    (hcontext : s'.context = s.context) (hevents : s'.events = s.events) :
    s'.Own clientId logging :=
  ⟨by rw [hcontext]; exact h.context, by rw [hevents]; exact h.events⟩

theorem Iterates.own {isSrcToDst : Bool} {s s' : Moving} (h : Iterates isSrcToDst s s')
    (hs : s.Own clientId logging) : s'.Own clientId logging := by
  have hfill : ∀ more, (s.fill more).Own clientId logging := fun _ => hs.same rfl rfl
  cases h with
  | flushWaits | flushed => exact ((hfill []).logShutdown isSrcToDst).same rfl rfl
  | @wroteNothing more =>
    have hrecord : ((s.fill more).record
        (.write (s.transfer.buffer ++ more) (.ready (.ok 0)))).Own clientId logging :=
      (hfill more).same rfl rfl
    exact (hrecord.logShutdown isSrcToDst).same rfl rfl
  | @wrote more i =>
    have hrecord : ((s.fill more).record
        (.write (s.transfer.buffer ++ more) (.ready (.ok i)))).Own clientId logging :=
      (hfill more).same rfl rfl
    exact (hrecord.register isSrcToDst i).same rfl rfl
  | fillWaits | writeWaits | shutdownWaits | shutDown | done => exact hs.same rfl rfl

/-- All that the relay has logged is about the client. -/
structure Copying.Own (clientId : ℕ) (logging : Bool) (s : Copying) : Prop where
  context : s.context.clientId = clientId ∧ s.context.logging = logging
  events : ∀ e ∈ s.events, e.Within (.client, clientId)

variable {halves : Bool → Halves} {s : Copying}

theorem Copying.Own.iterate (h : s.Own clientId logging) (isSrcToDst : Bool) :
    (Copying.iterate halves isSrcToDst s).2.Own clientId logging := by
  have hmoving : (s.moving isSrcToDst).Own clientId logging := ⟨h.context, h.events⟩
  have hown := (transferStep_iterates (halves isSrcToDst) isSrcToDst _).own hmoving
  exact ⟨hown.context, hown.events⟩

theorem Copying.Own.next (h : s.Own clientId logging) (phase : CopyPhase)
    (result : Except (Stop IoError) Bool) : (s.next phase result).Own clientId logging := by
  unfold Copying.next
  split <;> exact ⟨h.context, h.events⟩

theorem Copying.Own.step (h : s.Own clientId logging) :
    (Copying.step halves s).Own clientId logging := by
  unfold Copying.step
  split
  · exact (h.iterate true).next _ _
  · exact (h.iterate false).next _ _
  · exact h

theorem Copying.Own.run (halves : Bool → Halves) :
    ∀ (n : ℕ) {s : Copying}, s.Own clientId logging →
      ((Copying.step halves)^[n] s).Own clientId logging
  | 0, _, h => h
  | n + 1, _, h => Copying.Own.run halves n h.step

end Relay

/-! ## The whole task -/

section Task

/-- That the client has finished, with the totals of what was logged before. -/
def finishedEvent (clientId : ℕ) (events : List EventData) : Except IoError Unit → EventData :=
  .clientConnectionFinished clientId (loggedBytes true events) (loggedBytes false events)

/-- What the relay logs of its bytes is what its context counts. -/
theorem logFinished_relay {relay : Copying} {clientId : ℕ} {logging : Bool}
    {start : Bool → List UInt8} (hown : relay.Own clientId logging)
    (hrelays : ∀ dir, Relays (start dir) dir relay) (result : Except IoError Unit) :
    relay.context.logFinished result
      = if logging then [finishedEvent clientId relay.events result] else [] := by
  obtain ⟨hid, hlogging⟩ := hown.context
  unfold ClientContext.logFinished ClientContext.log
  rw [hlogging]
  split_ifs with htrue
  · have hbytes : ∀ dir, relay.context.bytesMoved dir = loggedBytes dir relay.events := fun dir =>
      (hrelays dir).counted.1.trans ((hrelays dir).counted.2 (hlogging.trans htrue)).symm
    rw [finishedEvent, hid, ← hbytes, ← hbytes]
    rfl
  · rfl

theorem loggedBytes_append (dir : Bool) (events events' : List EventData) :
    loggedBytes dir (events ++ events') = loggedBytes dir events + loggedBytes dir events' := by
  simp [loggedBytes]

theorem loggedBytes_eq_zero {dir : Bool} {events : List EventData}
    (h : ∀ e ∈ events, e.byteCount dir = 0) : loggedBytes dir events = 0 := by
  induction events with
  | nil => rfl
  | cons e events ih =>
    obtain ⟨he, h⟩ := List.forall_mem_cons.1 h
    have hrest := ih h
    simp only [loggedBytes, List.map_cons, List.sum_cons] at hrest ⊢
    omega

/-- What a client's task logs: events about its client, and once it has returned one more, that the
client has finished, with the totals of the bytes that it has told of. -/
theorem handleSocks5_events (env : SocksEnv) (clientId : ℕ) (state : ServerState) (logging : Bool)
    (fuel : ℕ) (halves : Bool → Halves) (iterations : ℕ) (reader : BufReader) :
    let cx := ClientContext.create clientId state logging
    let run := runSocks5 env cx fuel halves iterations reader
    (∀ e ∈ run.events, e.Within (.client, clientId))
      ∧ handleSocks5 env cx fuel halves iterations reader = run.events
          ++ (if logging then run.result.map (finishedEvent clientId run.events)
            else none).toList := by
  intro cx run
  have hlogged : ∀ e ∈ (handleSocks5Inner env cx fuel
      ⟨reader, (), []⟩).2.effects.filterMap SocksEffect.logged, e.Negotiates clientId :=
    handleSocks5Inner_logged env fuel reader
  suffices h : (∀ e ∈ run.events, e.Within (.client, clientId))
      ∧ ∀ result ∈ run.result, run.context.logFinished result
        = if logging then [finishedEvent clientId run.events result] else [] by
    refine ⟨h.1, congrArg (run.events ++ ·) ?_⟩
    rcases hresult : run.result with _ | result
    · cases logging <;> rfl
    · rw [Option.toList_some, List.flatMap_singleton, h.2 result hresult]
      cases logging <;> rfl
  subst run
  unfold runSocks5
  rcases hinner : handleSocks5Inner env cx fuel ⟨reader, (), []⟩ with ⟨outcome, conn⟩
  rw [hinner] at hlogged
  set before := conn.effects.filterMap SocksEffect.logged
  have hwithin : ∀ e ∈ before, e.Within (.client, clientId) := fun e he => (hlogged e he).1
  have hbytes : ∀ dir, loggedBytes dir before = 0 := fun dir =>
    loggedBytes_eq_zero fun e he => (hlogged e he).2 dir
  have hclosed : ∀ result, cx.logFinished result
      = if logging then [finishedEvent clientId before result] else [] := by
    intro result
    rw [finishedEvent, hbytes, hbytes]
    rfl
  rcases outcome with e | (_ | address)
  · exact ⟨hwithin, fun result _ => hclosed result⟩
  · exact ⟨hwithin, fun result _ => hclosed result⟩
  · set relay := (Copying.step halves)^[iterations] (.start cx conn.reader)
    have hown : relay.Own clientId logging :=
      Copying.Own.run halves iterations ⟨⟨rfl, rfl⟩, by simp [Copying.start]⟩
    have hrelays := run_relays halves iterations
      (start_relays clientId state logging conn.reader)
    have hmoved : ∀ dir, loggedBytes dir (before ++ relay.events) = loggedBytes dir relay.events :=
      fun dir => by rw [loggedBytes_append, hbytes, Nat.zero_add]
    refine ⟨List.forall_mem_append.2 ⟨hwithin, hown.events⟩, fun result _ => ?_⟩
    rw [finishedEvent, hmoved, hmoved]
    exact logFinished_relay hown hrelays result

end Task

/-! ## A manager's task -/

section Manager

variable {ρ α ε : Type} {managerId : ℕ}

/-- All that a manager's task has logged is about it. -/
structure SandstormOwn (managerId : ℕ) (conn : SandstormConn ρ) : Prop where
  context : conn.state.managerId = managerId
  events : ∀ effect ∈ conn.effects, ∀ event ∈ effect.logged, event.Within (.sandstorm, managerId)

/-- The operation sends events about the manager that asks for it. -/
def OwnEvents (operation : SandstormContext → List EventData) : Prop :=
  ∀ cx : SandstormContext, ∀ e ∈ operation cx, e.Within (.sandstorm, cx.managerId)

theorem SandstormContext.within_log {cx : SandstormContext} {event : EventData}
    (hevent : event.Within (.sandstorm, cx.managerId)) :
    ∀ e ∈ cx.log event, e.Within (.sandstorm, cx.managerId) := by
  unfold SandstormContext.log
  split_ifs
  · exact List.forall_mem_singleton.2 hevent
  · simp

theorem SandstormOwn.append {conn : SandstormConn ρ} (h : SandstormOwn managerId conn)
    {effects : List SandstormEffect}
    (heffects : ∀ effect ∈ effects, ∀ event ∈ effect.logged, event.Within (.sandstorm, managerId)) :
    SandstormOwn managerId { conn with effects := conn.effects ++ effects } :=
  ⟨h.context, List.forall_mem_append.2 ⟨h.events, heffects⟩⟩

theorem logged_map_log {connection : ConnectionKind × ℕ} {events : List EventData}
    (h : ∀ e ∈ events, e.Within connection) : ∀ effect ∈ events.map SandstormEffect.log,
    ∀ event ∈ effect.logged, event.Within connection := by
  intro effect heffect event hevent
  obtain ⟨e, he, rfl⟩ := List.mem_map.1 heffect
  obtain rfl := Option.some.inj hevent
  exact h e he

theorem sandstorm_read_own (p : Proc ρ ε α) :
    Proc.Keeps (SandstormOwn managerId) (Conn.read p : Proc (SandstormConn ρ) ε α) :=
  Conn.IgnoresReader.read (fun _ _ h => ⟨h.context, h.events⟩) p

theorem sandstorm_perform_own {effect : SandstormEffect} (heffect : effect.logged = none) :
    Proc.Keeps (SandstormOwn managerId)
      (Conn.perform [effect] : Proc (SandstormConn ρ) ε Unit) := by
  refine .modify fun conn h => h.append fun e he event hevent => ?_
  rw [List.mem_singleton.1 he, heffect] at hevent
  cases hevent

variable (env : SandstormEnv)

theorem notify_own (notification : ResponseNotification) :
    Proc.Keeps (SandstormOwn managerId : SandstormConn ρ → Prop) (notify env notification) :=
  fun conn hconn =>
    ((sandstorm_perform_own rfl).bind fun _ => .ite (.pure _) (.throw _)) conn hconn

theorem askMainLoop_own {operation : SandstormContext → MessageType × List EventData}
    (h : OwnEvents fun cx => (operation cx).2) :
    Proc.Keeps (SandstormOwn managerId : SandstormConn ρ → Prop) (askMainLoop operation) := by
  intro conn hconn
  refine hconn.append (List.forall_mem_append.2 ⟨logged_map_log fun e he => ?_, ?_⟩)
  · exact hconn.context ▸ h conn.state e he
  · exact List.forall_mem_singleton.2 fun event hevent => by cases hevent

theorem operate_own {operation : SandstormContext → α × ServerState × List EventData}
    (h : OwnEvents fun cx => (operation cx).2.2) :
    Proc.Keeps (SandstormOwn managerId : SandstormConn ρ → Prop) (operate operation) := by
  intro conn hconn
  have hstate : SandstormOwn managerId
      { conn with state := { conn.state with state := (operation conn.state).2.1 } } :=
    ⟨hconn.context, hconn.events⟩
  exact hstate.append (logged_map_log fun e he => hconn.context ▸ h conn.state e he)

theorem requestMetrics_own :
    Proc.Keeps (SandstormOwn managerId : SandstormConn ρ → Prop) (requestMetrics env) :=
  fun conn hconn =>
    Proc.Keeps.ite ((sandstorm_perform_own rfl).bind fun _ => .pure _) (.pure _) conn hconn

theorem logSandstorm_own {event : ℕ → EventData}
    (hevent : ∀ managerId, (event managerId).Within (.sandstorm, managerId)) :
    Proc.Keeps (SandstormOwn managerId : SandstormConn ρ → Prop) (logSandstorm event) := by
  intro conn hconn
  refine hconn.append (logged_map_log fun e he => ?_)
  exact hconn.context ▸ SandstormContext.within_log (hevent conn.state.managerId) e he

theorem writeStatus_own (status : SandstormHandshakeStatus) :
    Proc.Keeps (SandstormOwn managerId : SandstormConn ρ → Prop) (writeStatus env status) :=
  (sandstorm_perform_own rfl).bind fun _ => .ofExcept _

section Operations

theorem addUser_own (username password : Str) (role : UserRole) :
    OwnEvents fun cx => (cx.addUser username password role).2.2 := by
  intro cx
  dsimp only [SandstormContext.addUser]
  split_ifs
  · simp
  · split
    · exact SandstormContext.within_log ⟨rfl, rfl, rfl⟩
    · simp

theorem updateUser_own (username : Str) (password : Option Str) (role : Option UserRole) :
    OwnEvents fun cx => (cx.updateUser username password role).2.2 := by
  intro cx
  dsimp only [SandstormContext.updateUser]
  split_ifs
  · simp
  · split
    · exact SandstormContext.within_log ⟨rfl, rfl, rfl⟩
    · simp
    · simp

theorem deleteUser_own (username : Str) :
    OwnEvents fun cx => (cx.deleteUser username).2.2 := by
  intro cx
  dsimp only [SandstormContext.deleteUser]
  split
  · exact SandstormContext.within_log ⟨rfl, rfl, rfl⟩
  · simp
  · simp

theorem setBufferSize_own (value : UInt32) :
    OwnEvents fun cx => (cx.setBufferSize value).2.2 := by
  intro cx
  dsimp only [SandstormContext.setBufferSize]
  split_ifs
  · simp
  · exact SandstormContext.within_log ⟨rfl, rfl, rfl⟩

end Operations

variable [AsyncRead ρ]

theorem answerRequest_own [ByteRead α]
    {act : α → Proc (SandstormConn ρ) IoError ResponseNotification}
    (hact : ∀ request, Proc.Keeps (SandstormOwn managerId) (act request)) :
    Proc.Keeps (SandstormOwn managerId) (answerRequest env act) :=
  (sandstorm_read_own _).bind fun request => (hact request).bind fun _ => notify_own env _

theorem runCommand_own (command : SandstormCommandType) :
    Proc.Keeps (SandstormOwn managerId : SandstormConn ρ → Prop) (runCommand env command) := by
  have hpass {α : Type} [ByteRead α] (operation : α → SandstormContext → MessageType × _)
      (notification : ResponseNotification)
      (h : ∀ request, OwnEvents fun cx => (operation request cx).2) :
      Proc.Keeps (SandstormOwn managerId : SandstormConn ρ → Prop)
        (passOn env operation notification) :=
    answerRequest_own env fun request => (askMainLoop_own (h request)).bind fun _ => .pure _
  have hoperate {α β : Type} [ByteRead α] (operation : α → SandstormContext → β × ServerState × _)
      (f : β → ResponseNotification)
      (h : ∀ request, OwnEvents fun cx => (operation request cx).2.2) :
      Proc.Keeps (SandstormOwn managerId : SandstormConn ρ → Prop)
        (answerRequest env fun request =>
          operate (operation request) >>= fun result => pure (f result)) :=
    answerRequest_own env fun request => (operate_own (h request)).bind fun _ => .pure _
  have hanswer {α : Type} [ByteRead α] (f : α → SandstormConn ρ → ResponseNotification) :
      Proc.Keeps (SandstormOwn managerId) (answerRequest env fun request =>
        Proc.get >>= fun conn => pure (f request conn)) :=
    answerRequest_own env fun _ _ hconn => hconn
  apply (sandstorm_perform_own rfl).bind
  intro _
  cases command with
  | shutdown | addSocks5Socket | removeSocks5Socket | addSandstormSocket | removeSandstormSocket =>
    exact hpass _ _ fun _ _ => SandstormContext.within_log ⟨rfl, rfl, rfl⟩
  | listSocks5Sockets | listSandstormSockets =>
    exact hpass _ _ fun _ _ e he => absurd he List.not_mem_nil
  | addUser => exact hoperate _ _ fun _ => addUser_own _ _ _
  | updateUser => exact hoperate _ _ fun _ => updateUser_own _ _ _
  | deleteUser => exact hoperate _ _ fun _ => deleteUser_own _
  | toggleAuthMethod =>
    exact hoperate _ _ fun _ _ => SandstormContext.within_log ⟨rfl, rfl, rfl⟩
  | setBufferSize => exact hoperate _ _ fun _ => setBufferSize_own _
  | listUsers | listAuthMethods | getBufferSize => exact hanswer _
  | eventStreamConfig | meow => exact answerRequest_own env fun _ => .pure _
  | requestCurrentMetrics =>
    exact answerRequest_own env fun _ => (requestMetrics_own env).bind fun _ => .pure _
  | eventStream => exact .throw _

theorem handleRequests_own : ∀ fuel : ℕ,
    Proc.Keeps (SandstormOwn managerId : SandstormConn ρ → Prop) (handleRequests env fuel)
  | 0 => .stop _
  | fuel + 1 => by
    apply (sandstorm_read_own _).attempt.bind
    intro command
    rcases command with e | command
    · exact .ite (.pure _) (.throw _)
    · exact (runCommand_own env command).bind fun _ => handleRequests_own fuel

theorem handleSandstormInner_own (fuel : ℕ) :
    Proc.Keeps (SandstormOwn managerId : SandstormConn ρ → Prop)
      (handleSandstormInner env fuel) := by
  apply (sandstorm_read_own _).attempt.bind
  intro handshake
  rcases handshake with (ver | e) | handshake
  · exact (logSandstorm_own fun _ => ⟨rfl, rfl, rfl⟩).bind fun _ =>
      (writeStatus_own env _).bind fun _ => sandstorm_perform_own rfl
  · exact .throw e
  · have hrequests : Proc.Keeps (SandstormOwn managerId : SandstormConn ρ → Prop)
        (Conn.perform [.handleRequests] >>= fun _ => handleRequests env fuel) :=
      (sandstorm_perform_own rfl).bind fun _ => handleRequests_own env fuel
    intro conn hconn
    set success := conn.state.tryLogin handshake.username handshake.password
    have hlog : Proc.Keeps (SandstormOwn managerId : SandstormConn ρ → Prop) (logSandstorm
        fun managerId => .sandstormAuthenticatedAs managerId handshake.username
          (success = some true)) := logSandstorm_own fun _ => ⟨rfl, rfl, rfl⟩
    exact (hlog.bind fun _ => (writeStatus_own env (handshakeStatus success)).bind fun _ =>
      hrequests) conn hconn

/-- The requests' effects that there are before the join ends are some of theirs. -/
theorem joinResponses_sublist (requests : List SandstormEffect)
    (result : Option (Except IoError Unit)) (responses : ResponsesEnd) :
    (joinResponses requests result responses).1.Sublist requests := by
  cases responses with
  | returns | waits => exact List.Sublist.refl _
  | fails after e =>
    dsimp only [joinResponses]
    split_ifs
    · exact List.take_sublist _ _
    · exact List.Sublist.refl _

/-- What a manager's task logs: events about itself, and once it has returned one more, that the
connection has finished. -/
theorem handleSandstorm_events (cx : SandstormContext) (fuel : ℕ) (reader : ρ)
    (responses : ResponsesEnd) :
    let run := runSandstorm env cx fuel reader responses
    (∀ e ∈ run.events, e.Within (.sandstorm, cx.managerId))
      ∧ handleSandstorm env cx fuel reader responses = run.events
        ++ (if cx.logging then run.result.map (.sandstormConnectionFinished cx.managerId)
          else none).toList := by
  intro run
  have hstart : SandstormOwn cx.managerId (⟨reader, cx, []⟩ : SandstormConn ρ) := ⟨rfl, by simp⟩
  have hown := handleSandstormInner_own env fuel _ hstart
  suffices h : (∀ e ∈ run.events, e.Within (.sandstorm, cx.managerId)) ∧ run.context = cx by
    refine ⟨h.1, congrArg (run.events ++ ·) ?_⟩
    rw [h.2]
    unfold SandstormContext.logFinished SandstormContext.log
    rcases run.result with _ | result <;> split_ifs <;> rfl
  subst run
  unfold runSandstorm
  rcases hinner : handleSandstormInner env fuel (⟨reader, cx, []⟩ : SandstormConn ρ)
    with ⟨outcome, conn⟩
  rw [hinner] at hown
  have hwithin : ∀ effects : List SandstormEffect, effects ⊆ conn.effects →
      ∀ e ∈ effects.filterMap SandstormEffect.logged, e.Within (.sandstorm, cx.managerId) := by
    intro effects hsubset e he
    obtain ⟨effect, heffect, hlogged⟩ := List.mem_filterMap.1 he
    exact hown.events effect (hsubset heffect) e hlogged
  have hhandshake := (List.takeWhile_sublist (l := conn.effects)
    fun effect => !effect.isHandleRequests).subset
  have hrequests := (List.dropWhile_sublist (l := conn.effects)
    fun effect => !effect.isHandleRequests).subset
  dsimp only
  split
  · exact ⟨hwithin _ hhandshake, rfl⟩
  · rename_i effect requests heq
    rw [heq] at hrequests
    have hjoin := (joinResponses_sublist requests (returned outcome) responses).subset
    exact ⟨hwithin _ (List.append_subset.2 ⟨hhandshake, fun effect heffect =>
      hrequests (List.mem_cons_of_mem _ (hjoin heffect))⟩), rfl⟩

end Manager

/-! ## The tasks in the system -/

namespace Server

section Run

variable {s : Server} {connection : ConnectionKind × ℕ}

/-- The step of the task that logs the event. -/
def taskAction (connection : ConnectionKind × ℕ) (event : EventData) : ServerAction :=
  if event.finished = none then .log connection event else .finish connection event

theorem step_log {event : EventData} (hrunning : s.running connection)
    (hevent : event.Within connection) :
    s.step (taskAction connection event) = some (s.send [event]) := by
  rw [taskAction, if_pos hevent.2.2]
  exact if_pos ⟨hrunning, hevent⟩

theorem step_finish {event : EventData} (hrunning : s.running connection)
    (hevent : event.finished = some connection) :
    s.step (taskAction connection event) = some ((s.send [event]).setRunning connection false) := by
  rw [taskAction, if_neg (by simp [hevent])]
  exact if_pos ⟨hrunning, connection_of_finished hevent, hevent⟩

/-- The system takes the events of a task that runs one after the other, up to any of them. -/
theorem runs_task {events logged : List EventData} {finished : Option EventData}
    (hrunning : s.running connection) (hevents : ∀ e ∈ events, e.Within connection)
    (hfinished : ∀ e ∈ finished, e.finished = some connection)
    (hlogged : logged <+: events ++ finished.toList) :
    ∃ s', runSteps step s (logged.map (taskAction connection)) = some s'
      ∧ s'.events = s.events ++ logged := by
  induction events generalizing s logged with
  | nil =>
    cases finished with
    | none =>
      obtain rfl := List.prefix_nil.1 hlogged
      exact ⟨s, rfl, (List.append_nil _).symm⟩
    | some e =>
      rcases List.prefix_cons_iff.1 hlogged with rfl | ⟨rest, rfl, hrest⟩
      · exact ⟨s, rfl, (List.append_nil _).symm⟩
      · obtain rfl := List.prefix_nil.1 hrest
        exact ⟨_, runSteps_cons.2 ⟨_, step_finish hrunning (hfinished e rfl), rfl⟩, rfl⟩
  | cons e events ih =>
    obtain ⟨he, hevents⟩ := List.forall_mem_cons.1 hevents
    rcases List.prefix_cons_iff.1 hlogged with rfl | ⟨rest, rfl, hrest⟩
    · exact ⟨s, rfl, (List.append_nil _).symm⟩
    obtain ⟨s', hrun, hevents'⟩ := ih (s := s.send [e]) hrunning hevents hrest
    refine ⟨s', runSteps_cons.2 ⟨_, step_log hrunning he, hrun⟩, ?_⟩
    rw [hevents', send, List.append_assoc, List.singleton_append]

/-- A client's task logs events about its client, and, where logging is on, exactly one more if it
returns, that the client has finished, with the totals of the bytes that it has told of. It does not
return while it waits or its relay goes on. Its events, up to any of them, are steps of the system,
wherever it is cancelled. -/
theorem handleSocks5_runs (env : SocksEnv) (clientId : ℕ) (state : ServerState) (logging : Bool)
    (fuel : ℕ) (halves : Bool → Halves) (iterations : ℕ) (reader : BufReader)
    (hrunning : s.running (.client, clientId)) :
    let cx := ClientContext.create clientId state logging
    let run := runSocks5 env cx fuel halves iterations reader
    let logged := handleSocks5 env cx fuel halves iterations reader
    (∀ e ∈ run.events, e.Within (.client, clientId))
      ∧ logged = run.events ++ (if logging then run.result.map (.clientConnectionFinished clientId
          (loggedBytes true run.events) (loggedBytes false run.events)) else none).toList
      ∧ ∀ events, events <+: logged →
        ∃ s', runSteps step s (events.map (taskAction (.client, clientId))) = some s'
          ∧ s'.events = s.events ++ events := by
  intro cx run logged
  obtain ⟨hwithin, hlogged⟩ :=
    handleSocks5_events env clientId state logging fuel halves iterations reader
  refine ⟨hwithin, hlogged, fun events hprefix => ?_⟩
  rw [show logged = _ from hlogged] at hprefix
  refine runs_task hrunning hwithin (fun e he => ?_) hprefix
  split_ifs at he
  · obtain ⟨result, -, rfl⟩ := Option.map_eq_some_iff.1 he
    rfl
  · cases he

/-- A client that logs in and has what it sent relayed, until both sides have ended. -/
theorem handleSocks5_runs_loginClient :
    let logged := handleSocks5 namelessEnv (.create 1 bothEnabled true) 255 (fun _ => bytewise) 9
      loginClient
    logged.getLast? = some (.clientConnectionFinished 1 2 0 (.ok ()))
      ∧ (∀ e ∈ logged.dropLast, e.Within (.client, 1))
      ∧ ∃ s', runSteps step (twoPorts.spawn .client (localPort 50000))
          (logged.map (taskAction (.client, 1))) = some s'
        ∧ s'.events = (twoPorts.spawn .client (localPort 50000)).events ++ logged := by
  intro logged
  have hrunning : (twoPorts.spawn .client (localPort 50000)).running (.client, 1) := rfl
  obtain ⟨hwithin, hlogged, hruns⟩ := handleSocks5_runs namelessEnv 1 bothEnabled true 255
    (fun _ => bytewise) 9 loginClient hrunning
  have hresult : (runSocks5 namelessEnv (.create 1 bothEnabled true) 255 (fun _ => bytewise) 9
      loginClient).result = some (.ok ()) := by decide +kernel
  have hsent : loggedBytes true (runSocks5 namelessEnv (.create 1 bothEnabled true) 255
      (fun _ => bytewise) 9 loginClient).events = 2 := by decide +kernel
  have hreceived : loggedBytes false (runSocks5 namelessEnv (.create 1 bothEnabled true) 255
      (fun _ => bytewise) 9 loginClient).events = 0 := by decide +kernel
  rw [hresult, hsent, hreceived, if_pos rfl, Option.map_some, Option.toList_some] at hlogged
  refine ⟨?_, ?_, hruns logged (List.prefix_refl _)⟩
  · rw [show logged = _ from hlogged]
    exact List.getLast?_concat
  · rw [show logged = _ from hlogged, List.dropLast_concat]
    exact hwithin

/-- A manager's task, whatever commands it runs and however the other half of its connection ends,
logs events about itself, and, where logging is on, exactly one more if it returns, that the
connection has finished. Its events, up to any of them, are steps of the system. -/
theorem handleSandstorm_runs {ρ : Type} [AsyncRead ρ] (env : SandstormEnv) (cx : SandstormContext)
    (fuel : ℕ) (reader : ρ) (responses : ResponsesEnd)
    (hrunning : s.running (.sandstorm, cx.managerId)) :
    let run := runSandstorm env cx fuel reader responses
    let logged := handleSandstorm env cx fuel reader responses
    (∀ e ∈ run.events, e.Within (.sandstorm, cx.managerId))
      ∧ logged = run.events ++ (if cx.logging then
          run.result.map (.sandstormConnectionFinished cx.managerId) else none).toList
      ∧ ∀ events, events <+: logged →
        ∃ s', runSteps step s (events.map (taskAction (.sandstorm, cx.managerId))) = some s'
          ∧ s'.events = s.events ++ events := by
  intro run logged
  obtain ⟨hwithin, hlogged⟩ := handleSandstorm_events env cx fuel reader responses
  refine ⟨hwithin, hlogged, fun events hprefix => ?_⟩
  rw [show logged = _ from hlogged] at hprefix
  refine runs_task hrunning hwithin (fun e he => ?_) hprefix
  split_ifs at he
  · obtain ⟨result, -, rfl⟩ := Option.map_eq_some_iff.1 he
    rfl
  · cases he

/-- Someone who does not log in adds an admin, before the writing of the responses fails. -/
theorem handleSandstorm_runs_intruder :
    let brokenPipe : IoError := ⟨.brokenPipe, []⟩
    let logged := handleSandstorm openEnv ⟨1, bothEnabled, true⟩ 3 intruder (.fails 3 brokenPipe)
    logged = [.sandstormAuthenticatedAs 1 ['x'] false, .userRegisteredByManager 1 ['m'] .admin,
        .sandstormConnectionFinished 1 (.error brokenPipe)]
      ∧ ∃ s', runSteps step (twoPorts.spawn .sandstorm (localPort 50000))
          (logged.map (taskAction (.sandstorm, 1))) = some s'
        ∧ s'.events = (twoPorts.spawn .sandstorm (localPort 50000)).events ++ logged := by
  intro brokenPipe logged
  have hrunning : (twoPorts.spawn .sandstorm (localPort 50000)).running (.sandstorm, 1) := rfl
  obtain ⟨-, -, hruns⟩ := handleSandstorm_runs openEnv ⟨1, bothEnabled, true⟩ 3 intruder
    (.fails 3 brokenPipe) hrunning
  exact ⟨rfl, hruns logged (List.prefix_refl _)⟩

end Run

end Server

end DustDevil
