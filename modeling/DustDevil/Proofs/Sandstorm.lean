import DustDevil.Server.Sandstorm

/-!
# Whose commands a Sandstorm connection runs

Nothing stands between the answer to a handshake and the requests that follow it: whatever the
answer says, once it is written the connection runs the commands that the client sends. So the
commands are an admin's exactly if no other complete handshake is answered
(`handleSandstormInner_gated_iff`).
-/

namespace DustDevil

open Wire

/-! ## The handshake -/

section Handshake

variable {ρ : Type} [AsyncRead ρ] {r : ρ} {username password : Str} {bytes rest : List UInt8}

/-- The bytes are a handshake of version 1 and `rest`. -/
def Handshakes (bytes : List UInt8) (username password : Str) (rest : List UInt8) : Prop :=
  bytes = 1 :: (smallString username ++ (smallString password ++ rest))
    ∧ (utf8 username).length ≤ 255 ∧ (utf8 password).length ≤ 255

theorem readWithVersionCheck_refines :
    Refines (SandstormHandshake.readWithVersionCheck : Proc ρ _ _)
      SandstormHandshake.readWithVersionCheck :=
  (readU8_refines.mapErr _).bind fun _ => .ite (.throw _)
    ((ByteRead.refines.mapErr _).bind fun _ => (ByteRead.refines.mapErr _).bind fun _ => .pure _)

theorem readWithVersionCheck_eq_ok {r' : ρ} {handshake : SandstormHandshake}
    (h : SandstormHandshake.readWithVersionCheck r = (.ok handshake, r')) :
    Handshakes (unread r) handshake.username handshake.password (unread r') := by
  obtain ⟨version, r1, h1, h⟩ := Proc.bind_eq_ok (readWithVersionCheck_refines.eq_ok h)
  split_ifs at h with hversion
  · simp at h
  obtain ⟨username, r2, h2, h⟩ := Proc.bind_eq_ok h
  obtain ⟨password, r3, h3, h⟩ := Proc.bind_eq_ok h
  simp only [Proc.pure_apply, Prod.mk.injEq, Except.ok.injEq] at h
  obtain ⟨rfl, rfl⟩ := h
  obtain ⟨hb1, -⟩ := readU8_eq_ok (Proc.mapErr_eq_ok h1)
  obtain ⟨hb2, hlen2, -⟩ := smallReadString_eq_ok (Proc.mapErr_eq_ok h2)
  obtain ⟨hb3, hlen3, -⟩ := smallReadString_eq_ok (Proc.mapErr_eq_ok h3)
  refine ⟨?_, hlen2, hlen3⟩
  rw [flat_bytes] at hb1 hb3
  rw [hb1, hb2, hb3, not_not.1 hversion]

theorem readWithVersionCheck_of_handshakes (h : Handshakes (unread r) username password rest) :
    ∃ r', SandstormHandshake.readWithVersionCheck r = (.ok ⟨username, password⟩, r')
      ∧ unread r' = rest := by
  obtain ⟨hbytes, hlen, hlen'⟩ := h
  obtain ⟨r', hr', hunread, -⟩ := (readWithVersionCheck_refines (ρ := ρ)).run_eq (r := r)
    (s := ⟨rest, ending r⟩) (x := .ok ⟨username, password⟩) (by
      rw [flat, hbytes, SandstormHandshake.readWithVersionCheck,
        Proc.bind_ok (Proc.mapErr_ok (readU8_cons _) _), if_neg (by decide),
        Proc.bind_ok (Proc.mapErr_ok (smallReadString_append hlen _ _) _),
        Proc.bind_ok (Proc.mapErr_ok (smallReadString_append hlen' _ _) _)]
      rfl)
  exact ⟨r', hr', hunread⟩

theorem Handshakes.unique {username' password' : Str} {rest' : List UInt8}
    (h : Handshakes bytes username password rest)
    (h' : Handshakes bytes username' password' rest') :
    username = username' ∧ password = password' := by
  obtain ⟨r1, h1, -⟩ := readWithVersionCheck_of_handshakes (r := (⟨bytes, .eof⟩ : Flat)) h
  obtain ⟨r2, h2, -⟩ := readWithVersionCheck_of_handshakes (r := (⟨bytes, .eof⟩ : Flat)) h'
  rw [h1] at h2
  simp only [Prod.mk.injEq, Except.ok.injEq, SandstormHandshake.mk.injEq] at h2
  exact h2.1

end Handshake

theorem SandstormContext.tryLogin_eq_some_true {cx : SandstormContext} {username password : Str} :
    cx.tryLogin username password = some true
      ↔ cx.state.users.users.lookup username = some ⟨password, .admin⟩ := by
  simp only [SandstormContext.tryLogin, UserManager.tryLogin, Option.map_eq_some_iff,
    Option.filter_eq_some_iff, decide_eq_true_eq]
  constructor
  · rintro ⟨role, ⟨user, ⟨hlookup, rfl⟩, rfl⟩, hrole⟩
    rw [hlookup, ← hrole]
  · intro hlookup
    exact ⟨.admin, ⟨_, ⟨hlookup, rfl⟩, rfl⟩, rfl⟩

/-! ## The commands -/

section Commands

variable {ρ α : Type} {I : SandstormConn ρ → Prop} (env : SandstormEnv)

/-- `I` does not look at the context. -/
def IgnoresContext (I : SandstormConn ρ → Prop) : Prop :=
  ∀ conn context, I conn → I { conn with state := context }

theorem notify_keeps (h : Conn.Extends (fun _ => True) I) (notification : ResponseNotification) :
    Proc.Keeps I (notify env notification) :=
  fun conn hconn => (h.performAny _).bind (fun _ => .ite (.pure _) (.throw _)) conn hconn

theorem askMainLoop_keeps (h : Conn.Extends (fun _ => True) I)
    (operation : SandstormContext → MessageType × List EventData) :
    Proc.Keeps I (askMainLoop operation) :=
  fun conn hconn => h.performAny (ε := IoError) _ conn hconn

theorem operate_keeps (hcontext : IgnoresContext I) (h : Conn.Extends (fun _ => True) I)
    (operation : SandstormContext → α × ServerState × List EventData) :
    Proc.Keeps I (operate operation) :=
  fun conn hconn => h.performAny (ε := IoError) _ _ (hcontext conn _ hconn)

theorem requestMetrics_keeps (h : Conn.Extends (fun _ => True) I) :
    Proc.Keeps I (requestMetrics env) :=
  fun conn hconn => Proc.Keeps.ite ((h.performAny _).bind fun _ => .pure _) (.pure _) conn hconn

variable [AsyncRead ρ]

theorem answerRequest_keeps [ByteRead α] (hreader : Conn.IgnoresReader I)
    (h : Conn.Extends (fun _ => True) I)
    {act : α → Proc (SandstormConn ρ) IoError ResponseNotification}
    (hact : ∀ request, Proc.Keeps I (act request)) : Proc.Keeps I (answerRequest env act) :=
  (hreader.read _).bind fun request => (hact request).bind fun _ => notify_keeps env h _

theorem runCommand_keeps (hreader : Conn.IgnoresReader I) (hcontext : IgnoresContext I)
    (h : Conn.Extends (fun _ => True) I) (command : SandstormCommandType) :
    Proc.Keeps I (runCommand env command) := by
  have hpass {α : Type} [ByteRead α] (operation : α → SandstormContext → MessageType × _)
      (notification : ResponseNotification) : Proc.Keeps I (passOn env operation notification) :=
    answerRequest_keeps env hreader h fun _ => (askMainLoop_keeps h _).bind fun _ => .pure _
  have hoperate {α β : Type} [ByteRead α] (operation : α → SandstormContext → β × ServerState × _)
      (f : β → ResponseNotification) : Proc.Keeps I (answerRequest env fun request =>
        operate (operation request) >>= fun result => pure (f result)) :=
    answerRequest_keeps env hreader h fun _ => (operate_keeps hcontext h _).bind fun _ => .pure _
  have hanswer {α : Type} [ByteRead α] (f : α → SandstormConn ρ → ResponseNotification) :
      Proc.Keeps I (answerRequest env fun request =>
        Proc.get >>= fun conn => pure (f request conn)) :=
    answerRequest_keeps env hreader h fun _ _ hconn => hconn
  apply (h.performAny _).bind
  intro _
  cases command with
  | shutdown | listSocks5Sockets | addSocks5Socket | removeSocks5Socket | listSandstormSockets
  | addSandstormSocket | removeSandstormSocket => exact hpass _ _
  | addUser | updateUser | deleteUser | toggleAuthMethod | setBufferSize => exact hoperate _ _
  | listUsers | listAuthMethods | getBufferSize => exact hanswer _
  | eventStreamConfig | meow => exact answerRequest_keeps env hreader h fun _ => .pure _
  | requestCurrentMetrics =>
    exact answerRequest_keeps env hreader h fun _ => (requestMetrics_keeps env h).bind fun _ =>
      .pure _
  | eventStream => exact .throw _

theorem handleRequests_keeps (hreader : Conn.IgnoresReader I) (hcontext : IgnoresContext I)
    (h : Conn.Extends (fun _ => True) I) : ∀ fuel : ℕ, Proc.Keeps I (handleRequests env fuel)
  | 0 => .stop _
  | fuel + 1 => by
    apply (hreader.read _).attempt.bind
    intro command
    rcases command with e | command
    · exact .ite (.pure _) (.throw _)
    · exact (runCommand_keeps env hreader hcontext h command).bind fun _ =>
        handleRequests_keeps hreader hcontext h fuel

end Commands

section Quiet

variable {ρ : Type} {env : SandstormEnv} {cx : SandstormContext}

namespace SandstormEffect

/-- The effects of a connection that has no one's commands to run. -/
def Local : SandstormEffect → Prop
  | log _ => True
  | write _ => True
  | shutdown => True
  | _ => False

end SandstormEffect

/-- The connection got to its requests, ran a command, asked the main loop for something, had a
response written or changed the server's state. -/
def Dispatches (cx : SandstormContext) (conn : SandstormConn ρ) : Prop :=
  (∃ e ∈ conn.effects, ¬ e.Local) ∨ conn.state.state ≠ cx.state

@[simp] theorem logSandstorm_apply (event : ℕ → EventData) (conn : SandstormConn ρ) :
    logSandstorm event conn = (.ok (), ⟨conn.reader, conn.state,
      conn.effects ++ (conn.state.log (event conn.state.managerId)).map .log⟩) := rfl

theorem writeStatus_ok (h : env.writeStatus = .ok ()) (status : SandstormHandshakeStatus)
    (conn : SandstormConn ρ) :
    writeStatus env status conn
      = (.ok (), ⟨conn.reader, conn.state, conn.effects ++ [.write [status.intoU8]]⟩) := by
  unfold writeStatus
  rw [h]
  rfl

theorem writeStatus_error {e : IoError} (h : env.writeStatus = .error e)
    (status : SandstormHandshakeStatus) (conn : SandstormConn ρ) :
    writeStatus env status conn = (.error (.err e),
      ⟨conn.reader, conn.state, conn.effects ++ [.write [status.intoU8]]⟩) := by
  unfold writeStatus
  rw [h]
  rfl

/-- Nothing but the server's side of the handshake has happened. -/
def Quiet (cx : SandstormContext) (conn : SandstormConn ρ) : Prop :=
  (∀ e ∈ conn.effects, e.Local) ∧ conn.state = cx

theorem Quiet.not_dispatches {conn : SandstormConn ρ} (h : Quiet cx conn) :
    ¬ Dispatches cx conn := by
  rintro (⟨e, hmem, hnot⟩ | hne)
  · exact hnot (h.1 e hmem)
  · exact hne (by rw [h.2])

theorem quiet_extends :
    Conn.Extends SandstormEffect.Local (Quiet cx : SandstormConn ρ → Prop) :=
  fun _ _ he h => ⟨fun e hmem => (List.mem_append.1 hmem).elim (h.1 e) (he e), h.2⟩

theorem logSandstorm_keeps (event : ℕ → EventData) :
    Proc.Keeps (Quiet cx : SandstormConn ρ → Prop) (logSandstorm event) := by
  intro conn hconn
  refine quiet_extends.perform (ε := IoError) (fun e he => ?_) conn hconn
  obtain ⟨_, -, rfl⟩ := List.mem_map.1 he
  trivial

theorem writeStatus_keeps (status : SandstormHandshakeStatus) :
    Proc.Keeps (Quiet cx : SandstormConn ρ → Prop) (writeStatus env status) :=
  (quiet_extends.perform (by simp [SandstormEffect.Local])).bind fun _ => .ofExcept _

end Quiet

/-! ## The gate -/

section Gate

variable {ρ : Type} [AsyncRead ρ] {env : SandstormEnv} {cx : SandstormContext} {r : ρ} {fuel : ℕ}

/-- The bytes begin with the handshake of a user who is stored with that password and as an
admin. -/
def AdminLogsIn (cx : SandstormContext) (bytes : List UInt8) : Prop :=
  ∃ username password rest, Handshakes bytes username password rest
    ∧ cx.state.users.users.lookup username = some ⟨password, .admin⟩

/-- The bytes begin with a complete handshake of someone who is not an admin, and the answer to it
can be written. -/
def OtherIsAnswered (env : SandstormEnv) (cx : SandstormContext) (bytes : List UInt8) : Prop :=
  ∃ username password rest, Handshakes bytes username password rest
    ∧ cx.tryLogin username password ≠ some true ∧ env.writeStatus = .ok ()

/-- Whoever's handshake it is, once it is answered the connection goes on to the requests. -/
theorem handleSandstormInner_dispatches {username password : Str} {rest : List UInt8}
    (h : Handshakes (unread r) username password rest) (hwrite : env.writeStatus = .ok ()) :
    Dispatches cx (handleSandstormInner env fuel ⟨r, cx, []⟩).2 := by
  obtain ⟨r', hr', -⟩ := readWithVersionCheck_of_handshakes h
  unfold handleSandstormInner
  rw [Proc.bind_ok (Proc.attempt_ok (by rw [Conn.read_apply, hr']))]
  dsimp only
  rw [Proc.bind_ok (Proc.get_apply _), Proc.bind_ok (logSandstorm_apply _ _),
    Proc.bind_ok (writeStatus_ok hwrite _ _), Proc.bind_ok (Conn.perform_apply _ _)]
  refine .inl ⟨.handleRequests, ?_, id⟩
  refine handleRequests_keeps env
    (I := fun conn : SandstormConn ρ => SandstormEffect.handleRequests ∈ conn.effects)
    (fun _ _ h => h) (fun _ _ h => h) (fun _ _ _ h => List.mem_append_left _ h) fuel _ ?_
  simp

/-- Without the answer to a complete handshake the connection gets no further. -/
theorem handleSandstormInner_quiet (h : ∀ username password rest,
    Handshakes (unread r) username password rest → env.writeStatus ≠ .ok ()) :
    Quiet cx (handleSandstormInner env fuel ⟨r, cx, []⟩).2 := by
  have hkeeps : Proc.Keeps (Quiet cx)
      ((Conn.read SandstormHandshake.readWithVersionCheck).attempt :
        Proc (SandstormConn ρ) IoError _) :=
    (Conn.IgnoresReader.read (fun _ _ h => h) _).attempt
  have hquiet := hkeeps ⟨r, cx, []⟩ ⟨by simp, rfl⟩
  unfold handleSandstormInner
  rcases Proc.bind_cases (Conn.read SandstormHandshake.readWithVersionCheck).attempt _
    (⟨r, cx, []⟩ : SandstormConn ρ) with ⟨handshake, conn, hread, heq⟩ | ⟨e, conn, hread, heq⟩ <;>
    rw [heq] <;> rw [hread] at hquiet
  · rcases handshake with (ver | e) | handshake
    · exact ((logSandstorm_keeps _).bind fun _ => (writeStatus_keeps _).bind fun _ =>
        quiet_extends.perform (by simp [SandstormEffect.Local])) conn hquiet
    · exact hquiet
    · have hshakes := readWithVersionCheck_eq_ok (Conn.read_eq_ok (Proc.attempt_eq_ok hread)).1
      rcases hwrite : env.writeStatus with e | _
      · dsimp only
        rw [Proc.bind_ok (Proc.get_apply _)]
        refine ((logSandstorm_keeps _).bind fun _ => (writeStatus_keeps _).bind_of
          fun _ s _ hok => ?_) conn hquiet
        simp [writeStatus_error hwrite] at hok
      · exact absurd hwrite (h _ _ _ hshakes)
  · exact hquiet

/-- A connection dispatches commands to an admin only, on exactly those inputs on which it does not
answer anyone else's complete handshake. -/
theorem handleSandstormInner_gated_iff :
    (Dispatches cx (handleSandstormInner env fuel ⟨r, cx, []⟩).2 → AdminLogsIn cx (unread r))
      ↔ ¬ OtherIsAnswered env cx (unread r) := by
  constructor
  · rintro hgated ⟨username, password, rest, hshakes, hother, hwrite⟩
    obtain ⟨username', password', rest', hshakes', hadmin⟩ :=
      hgated (handleSandstormInner_dispatches hshakes hwrite)
    obtain ⟨rfl, rfl⟩ := hshakes.unique hshakes'
    exact hother (SandstormContext.tryLogin_eq_some_true.2 hadmin)
  · intro hother hdispatches
    by_contra hnot
    refine Quiet.not_dispatches (handleSandstormInner_quiet fun username password rest hshakes
      hwrite => ?_) hdispatches
    exact hother ⟨username, password, rest, hshakes,
      fun hadmin => hnot ⟨username, password, rest, hshakes,
        SandstormContext.tryLogin_eq_some_true.1 hadmin⟩, hwrite⟩

def oneAdmin : SandstormContext :=
  ⟨1, ⟨⟨(∅ : UserMap).insert "admin".toList ⟨"admin".toList, .admin⟩, ⟨1, false⟩⟩, true, true, 8192,
    false⟩, true⟩

def openEnv : SandstormEnv := ⟨.ok (), fun _ => true, fun _ => true⟩

/-- A client that logs in as `x` with the password `y`, and at once adds the admin `m`. -/
def intruder : Flat := ⟨[1, 1, 0x78, 1, 0x79] ++ [0x0A, 1, 0x6D, 1, 0x6D, 1], .eof⟩

theorem intruder_handshakes :
    Handshakes (unread intruder) ['x'] ['y'] [0x0A, 1, 0x6D, 1, 0x6D, 1] := by
  refine ⟨?_, ?_, ?_⟩ <;> decide +kernel

theorem not_gated_intruder :
    Dispatches oneAdmin (handleSandstormInner openEnv 2 ⟨intruder, oneAdmin, []⟩).2
      ∧ (handleSandstormInner openEnv 2 ⟨intruder, oneAdmin, []⟩).2.state.state.users.users.lookup
        ['m'] = some ⟨['m'], .admin⟩
      ∧ ¬ AdminLogsIn oneAdmin (unread intruder) := by
  refine ⟨handleSandstormInner_dispatches intruder_handshakes rfl, by decide +kernel, ?_⟩
  rintro ⟨username, password, rest, hshakes, hadmin⟩
  obtain ⟨rfl, rfl⟩ := intruder_handshakes.unique hshakes
  exact absurd hadmin (by decide +kernel)

end Gate

end DustDevil
