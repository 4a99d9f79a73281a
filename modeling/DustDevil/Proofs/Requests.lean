import DustDevil.Lib.Framing
import DustDevil.Proofs.Serialize
import DustDevil.Server.Sandstorm

/-!
# A client's requests, as the server reads them

Each arm of `run_command` reads a request and serves it (`runCommand_eq`). On the bytes of any
requests, one after the other, the server's loop serves exactly these, and on a stream that is cut
it serves those that arrived whole (`requests_served`).
-/

namespace DustDevil

open Wire ByteWrite

namespace ClientRequest

section Encoding

/-- The strings are at most 255 bytes long. -/
def Fits : ClientRequest → Prop
  | addUser request =>
    (utf8 request.username).length ≤ 255 ∧ (utf8 request.password).length ≤ 255
  | updateUser request => (utf8 request.username).length ≤ 255
    ∧ ∀ password ∈ request.password, (utf8 password).length ≤ 255
  | deleteUser request => (utf8 request.username).length ≤ 255
  | _ => True

def encoding (q : ClientRequest) : List UInt8 := (q.write []).2

/-- The bytes of the requests, one after the other. -/
def encodings (requests : List ClientRequest) : List UInt8 := requests.flatMap encoding

variable {ρ : Type} [AsyncRead ρ]

/-- The reading of a request in `run_command`'s arm for the command. -/
def read : SandstormCommandType → Proc ρ IoError ClientRequest
  | .shutdown => do
    let _ : ShutdownRequest ← ByteRead.read
    pure .shutdown
  | .eventStreamConfig => do
    let request ← ByteRead.read
    pure (.eventStreamConfig request)
  | .listSocks5Sockets => do
    let _ : ListSocks5SocketsRequest ← ByteRead.read
    pure .listSocks5Sockets
  | .addSocks5Socket => do
    let request ← ByteRead.read
    pure (.addSocks5Socket request)
  | .removeSocks5Socket => do
    let request ← ByteRead.read
    pure (.removeSocks5Socket request)
  | .listSandstormSockets => do
    let _ : ListSandstormSocketsRequest ← ByteRead.read
    pure .listSandstormSockets
  | .addSandstormSocket => do
    let request ← ByteRead.read
    pure (.addSandstormSocket request)
  | .removeSandstormSocket => do
    let request ← ByteRead.read
    pure (.removeSandstormSocket request)
  | .listUsers => do
    let _ : ListUsersRequest ← ByteRead.read
    pure .listUsers
  | .addUser => do
    let request ← ByteRead.read
    pure (.addUser request)
  | .updateUser => do
    let request ← ByteRead.read
    pure (.updateUser request)
  | .deleteUser => do
    let request ← ByteRead.read
    pure (.deleteUser request)
  | .listAuthMethods => do
    let _ : ListAuthMethodsRequest ← ByteRead.read
    pure .listAuthMethods
  | .toggleAuthMethod => do
    let request ← ByteRead.read
    pure (.toggleAuthMethod request)
  | .requestCurrentMetrics => do
    let _ : CurrentMetricsRequest ← ByteRead.read
    pure .requestCurrentMetrics
  | .getBufferSize => do
    let _ : GetBufferSizeRequest ← ByteRead.read
    pure .getBufferSize
  | .setBufferSize => do
    let request ← ByteRead.read
    pure (.setBufferSize request)
  | .meow => do
    let _ : MeowRequest ← ByteRead.read
    pure .meow
  | .eventStream => .throw ⟨.unsupported, ("Unsupported or invalid sandstorm command "
      ++ SandstormCommandType.eventStream.debug).toList⟩

theorem read_refines (command : SandstormCommandType) :
    Refines (read command : Proc ρ _ _) (read command) := by
  cases command with
  | eventStream => exact .throw _
  | _ => exact ByteRead.refines.bind fun _ => .pure _

end Encoding

section Serve

variable {ρ : Type} (env : SandstormEnv)

/-- What `run_command` does with the request. -/
def act : ClientRequest → Proc (SandstormConn ρ) IoError ResponseNotification
  | shutdown => do
    askMainLoop fun cx => cx.requestShutdown
    pure .shutdown
  | eventStreamConfig request => pure (.logEventConfig request)
  | listSocks5Sockets => do
    askMainLoop fun _ => SandstormContext.listSocks5Sockets
    pure .listSocks5Sockets
  | addSocks5Socket request => do
    askMainLoop fun cx => cx.addSocks5Socket request
    pure .addSocks5Socket
  | removeSocks5Socket request => do
    askMainLoop fun cx => cx.removeSocks5Socket request
    pure .removeSocks5Socket
  | listSandstormSockets => do
    askMainLoop fun _ => SandstormContext.listSandstormSockets
    pure .listSandstormSockets
  | addSandstormSocket request => do
    askMainLoop fun cx => cx.addSandstormSocket request
    pure .addSandstormSocket
  | removeSandstormSocket request => do
    askMainLoop fun cx => cx.removeSandstormSocket request
    pure .removeSandstormSocket
  | listUsers => do
    let conn ← .get
    pure (.listUsers conn.state.getUsersSnapshot)
  | addUser request => do
    let result ← operate fun cx => cx.addUser request.username request.password request.role
    pure (.addUser result)
  | updateUser request => do
    let result ← operate fun cx => cx.updateUser request.username request.password request.role
    pure (.updateUser result)
  | deleteUser request => do
    let result ← operate fun cx => cx.deleteUser request.username
    pure (.deleteUser result)
  | listAuthMethods => do
    let conn ← .get
    pure (.listAuthMethods conn.state.getAuthMethods)
  | toggleAuthMethod request => do
    let result ← operate fun cx => cx.toggleAuthMethod request.authMethod request.state
    pure (.toggleAuthMethod result)
  | requestCurrentMetrics => do
    let receiver ← requestMetrics env
    pure (.requestCurrentMetrics receiver)
  | getBufferSize => do
    let conn ← .get
    pure (.getBufferSize conn.state.getBufferSize)
  | setBufferSize request => do
    let result ← operate fun cx => cx.setBufferSize request
    pure (.setBufferSize result)
  | meow => pure .meow

/-- A request is acted on and the task that writes the responses is told the answer. -/
def serve (q : ClientRequest) : Proc (SandstormConn ρ) IoError Unit := do
  let notification ← q.act env
  notify env notification

theorem act_readerFree (q : ClientRequest) :
    Conn.ReaderFree (q.act env : Proc (SandstormConn ρ) IoError _) := by
  have hask (operation : SandstormContext → MessageType × List EventData)
      (notification : ResponseNotification) : Conn.ReaderFree (do
        askMainLoop operation
        pure notification : Proc (SandstormConn ρ) IoError _) := fun _ _ => rfl
  have hoperate {α : Type} (operation : SandstormContext → α × ServerState × List EventData)
      (f : α → ResponseNotification) : Conn.ReaderFree (do
        let result ← operate operation
        pure (f result) : Proc (SandstormConn ρ) IoError _) := fun _ _ => rfl
  have hanswer (f : SandstormConn ρ → ResponseNotification)
      (hf : ∀ conn reader, f { conn with reader := reader } = f conn) : Conn.ReaderFree (do
        let conn ← .get
        pure (f conn) : Proc (SandstormConn ρ) IoError _) := fun conn reader => by
    rw [Proc.bind_ok (Proc.get_apply _), Proc.bind_ok (Proc.get_apply _), hf]
    rfl
  cases q with
  | shutdown | listSocks5Sockets | addSocks5Socket | removeSocks5Socket | listSandstormSockets
  | addSandstormSocket | removeSandstormSocket => exact hask _ _
  | addUser | updateUser | deleteUser | toggleAuthMethod | setBufferSize => exact hoperate _ _
  | listUsers | listAuthMethods | getBufferSize => exact hanswer _ fun _ _ => rfl
  | eventStreamConfig | meow => exact .pure _
  | requestCurrentMetrics =>
    refine Conn.ReaderFree.bind (fun conn reader => ?_) fun _ => .pure _
    unfold requestMetrics
    rw [Proc.bind_ok (Proc.get_apply _), Proc.bind_ok (Proc.get_apply _)]
    dsimp only
    split_ifs <;> rfl

theorem serve_readerFree (q : ClientRequest) :
    Conn.ReaderFree (q.serve env : Proc (SandstormConn ρ) IoError _) := by
  refine (act_readerFree env q).bind fun notification conn reader => ?_
  unfold notify
  rw [Proc.bind_ok (Proc.get_apply _), Proc.bind_ok (Proc.get_apply _),
    Proc.bind_ok (Conn.perform_apply _ _), Proc.bind_ok (Conn.perform_apply _ _)]
  dsimp only
  split_ifs <;> rfl

variable [AsyncRead ρ]

/-- `run_command` reads the request that the command announces, and serves it. -/
theorem runCommand_eq (command : SandstormCommandType) :
    (runCommand env command : Proc (SandstormConn ρ) IoError Unit) = (do
      Conn.perform [.runCommand command]
      let q ← Conn.read (read command)
      q.serve env) := by
  unfold runCommand
  congr 1
  funext _
  cases command with
  | eventStream => rfl
  | _ =>
    unfold read
    rw [Conn.read_map_bind]
    rfl

end Serve

/-! ## The bytes of a request -/

section Frames

theorem carries_optionPassword {password : Option Str}
    (h : ∀ s ∈ password, (utf8 s).length ≤ 255) :
    Carries (ByteWrite.write (password.map SmallWriteString.mk)) ByteRead.read
      (password.map SmallReadString.mk) := by
  cases password with
  | none => exact carries_none
  | some s => exact carries_some (carries_smallString (h s rfl))

theorem carries_optionRole (role : Option UserRole) :
    Carries (ByteWrite.write role) ByteRead.read role := by
  cases role with
  | none => exact carries_none
  | some role => exact carries_some (carries_userRole role)

theorem carries_addUserRequest {request : AddUserRequest} (h : (addUser request).Fits) :
    Carries (ByteWrite.write (SmallWriteString.mk request.username,
      SmallWriteString.mk request.password, request.role)) ByteRead.read request :=
  (carries_smallString h.1).bind ((carries_smallString h.2).bind
    ((carries_userRole request.role).map (AddUserRequest.mk _ _)))

theorem carries_updateUserRequest {request : UpdateUserRequest} (h : (updateUser request).Fits) :
    Carries (ByteWrite.write (SmallWriteString.mk request.username,
      request.password.map SmallWriteString.mk, request.role)) ByteRead.read request := by
  refine (carries_smallString h.1).bind ((carries_optionPassword h.2).bind
    ((carries_optionRole request.role).bind_pure ?_))
  rw [Option.map_map, show SmallReadString.val ∘ SmallReadString.mk = id from rfl, Option.map_id]
  rfl

theorem carries_deleteUserRequest {request : DeleteUserRequest} (h : (deleteUser request).Fits) :
    Carries (ByteWrite.write (SmallWriteString.mk request.username)) ByteRead.read request :=
  (carries_smallString h).map fun username => DeleteUserRequest.mk username.val

theorem carries_toggleAuthMethodRequest (request : ToggleAuthMethodRequest) :
    Carries (ByteWrite.write (request.authMethod, request.state)) ByteRead.read request :=
  (carries_authMethod request.authMethod).bind
    ((carries_bool request.state).map (ToggleAuthMethodRequest.mk _))

/-- The owned type of a request and its borrowed type write the same. -/
theorem writeRef_eq (q : ClientRequest) : q.writeRef = q.write := by
  cases q <;> rfl

theorem write_framed {q : ClientRequest} (h : q.Fits) :
    Framed q.command.intoU8 q.write (read q.command) q := by
  cases q with
  | shutdown | listSocks5Sockets | listSandstormSockets | listUsers | listAuthMethods
  | requestCurrentMetrics | getBufferSize | meow => exact framed_of_empty _ rfl
  | eventStreamConfig request => exact framed_of_carries _ ((carries_bool request).map _)
  | addSocks5Socket request => exact framed_of_carries _ ((carries_socketAddr request).map _)
  | removeSocks5Socket request => exact framed_of_carries _ ((carries_socketAddr request).map _)
  | addSandstormSocket request => exact framed_of_carries _ ((carries_socketAddr request).map _)
  | removeSandstormSocket request => exact framed_of_carries _ ((carries_socketAddr request).map _)
  | addUser request => exact framed_of_carries _ ((carries_addUserRequest h).map _)
  | updateUser request => exact framed_of_carries _ ((carries_updateUserRequest h).map _)
  | deleteUser request => exact framed_of_carries _ ((carries_deleteUserRequest h).map _)
  | toggleAuthMethod request =>
    exact framed_of_carries _ ((carries_toggleAuthMethodRequest request).map _)
  | setBufferSize request => exact framed_of_carries _ ((carries_u32 request).map _)

def frame (q : ClientRequest) : Frame SandstormCommandType ClientRequest :=
  ⟨q.command.intoU8, q.command, q.encoding.tail, q⟩

theorem write_eq {q : ClientRequest} (h : q.Fits) :
    q.write [] = (.ok (), q.encoding) ∧ q.frame.bytes = q.encoding
      ∧ Reads (read q.command) q.encoding.tail q :=
  (write_framed h).encoded

theorem wire_frames : ∀ {requests : List ClientRequest}, (∀ q ∈ requests, q.Fits) →
    Frame.wire (requests.map frame) = encodings requests
  | [], _ => rfl
  | q :: requests, h => by
    obtain ⟨hq, hrequests⟩ := List.forall_mem_cons.1 h
    rw [List.map_cons, Frame.wire_cons, (write_eq hq).2.1, wire_frames hrequests]
    rfl

variable {ρ : Type} [AsyncRead ρ] (env : SandstormEnv)

/-- The server's loop as a service of framed messages. -/
def service : Service ρ SandstormContext SandstormEffect SandstormCommandType ClientRequest where
  readTag := ByteRead.read
  readBody := read
  mark command := [.runCommand command]
  act := serve env
  tag_refines := ByteRead.refines
  body_refines := read_refines
  act_readerFree := serve_readerFree env
  tag_end := command_end

theorem handleRequests_eq : ∀ fuel : ℕ,
    (handleRequests env fuel : Proc (SandstormConn ρ) IoError Unit)
      = serveStream (service env) fuel
  | 0 => rfl
  | fuel + 1 => by
    unfold handleRequests serveStream
    congr 1
    funext command
    rcases command with e | command
    · rfl
    · dsimp only
      rw [runCommand_eq, handleRequests_eq fuel, Proc.bind_assoc]
      congr 1
      funext _
      rw [Proc.bind_assoc]
      rfl

theorem frame_valid {q : ClientRequest} (h : q.Fits) : q.frame.Valid (service (ρ := ρ) env) where
  tag := command_reads q.command
  body := (write_eq h).2.2

/-- The requests are served, in order. -/
def serveAll : List ClientRequest → Proc (SandstormConn ρ) IoError Unit
  | [] => pure ()
  | q :: requests => do
    Conn.perform [.runCommand q.command]
    q.serve env
    serveAll requests

/-- The requests are served, and then an error stops `run_command` before it has read `q`. -/
def serveTornAt (q : ClientRequest) (e : IoError) :
    List ClientRequest → Proc (SandstormConn ρ) IoError Unit
  | [] => do
    Conn.perform [.runCommand q.command]
    .throw e
  | q' :: requests => do
    Conn.perform [.runCommand q'.command]
    q'.serve env
    serveTornAt q e requests

theorem serveFrames_eq : ∀ requests : List ClientRequest,
    serveFrames (service (ρ := ρ) env) (requests.map frame) = serveAll env requests
  | [] => rfl
  | q :: requests => by
    rw [List.map_cons, serveFrames, serveFrames_eq requests]
    rfl

theorem serveTorn_eq (q : ClientRequest) (e : IoError) : ∀ requests : List ClientRequest,
    serveTorn (service (ρ := ρ) env) q.frame e (requests.map frame) = serveTornAt env q e requests
  | [] => rfl
  | q' :: requests => by
    rw [List.map_cons, serveTorn, serveTorn_eq q e requests]
    rfl

end Frames

/-! ## Any stream of requests -/

section Stream

variable {ρ : Type} {env : SandstormEnv}

/-- The task that writes the responses can always be told one. -/
def Listening (env : SandstormEnv) : Prop := ∀ n, env.notifierOpen n = true

theorem notify_settles (env : SandstormEnv) (notification : ResponseNotification)
    (conn : SandstormConn ρ) :
    (∃ conn', notify env notification conn = (.ok (), conn'))
      ∨ ¬ Listening env ∧ ∃ e conn', notify env notification conn = (.error (.err e), conn') := by
  unfold notify
  rw [Proc.bind_ok (Proc.get_apply _), Proc.bind_ok (Conn.perform_apply _ _)]
  by_cases h : env.notifierOpen conn.effects.length = true
  · exact .inl ⟨_, by rw [if_pos h]; rfl⟩
  · exact .inr ⟨fun hall => h (hall _), _, _, by rw [if_neg h]; rfl⟩

theorem act_ok (env : SandstormEnv) (q : ClientRequest) (conn : SandstormConn ρ) :
    ∃ notification conn', q.act env conn = (.ok notification, conn') := by
  cases q with
  | requestCurrentMetrics =>
    have h : ∃ receiver conn', requestMetrics env conn = (.ok receiver, conn') := by
      unfold requestMetrics
      rw [Proc.bind_ok (Proc.get_apply _)]
      split_ifs
      · exact ⟨_, _, rfl⟩
      · exact ⟨_, _, rfl⟩
    obtain ⟨receiver, conn', hmetrics⟩ := h
    exact ⟨_, conn', Proc.bind_ok hmetrics _⟩
  | _ => exact ⟨_, _, rfl⟩

theorem serve_settles (env : SandstormEnv) (q : ClientRequest) (conn : SandstormConn ρ) :
    (∃ conn', q.serve env conn = (.ok (), conn'))
      ∨ ¬ Listening env ∧ ∃ e conn', q.serve env conn = (.error (.err e), conn') := by
  obtain ⟨notification, conn', h⟩ := act_ok env q conn
  have := notify_settles env notification conn'
  rwa [← Proc.bind_ok h (notify env)] at this

theorem serveAll_ok (h : Listening env) :
    ∀ (requests : List ClientRequest) (conn : SandstormConn ρ),
      (serveAll env requests conn).1 = .ok ()
  | [], _ => rfl
  | q :: requests, conn => by
    unfold serveAll
    rw [Proc.bind_ok (Conn.perform_apply _ _)]
    obtain ⟨conn', hserve⟩ | ⟨hnot, -⟩ := serve_settles env q _
    · rw [Proc.bind_ok hserve]
      exact serveAll_ok h requests conn'
    · exact absurd h hnot

theorem serveTornAt_error (q : ClientRequest) (e : IoError) :
    ∀ (requests : List ClientRequest) (conn : SandstormConn ρ),
      ∃ e', (serveTornAt env q e requests conn).1 = .error (.err e')
  | [], _ => ⟨e, rfl⟩
  | q' :: requests, conn => by
    unfold serveTornAt
    rw [Proc.bind_ok (Conn.perform_apply _ _)]
    obtain ⟨conn', hserve⟩ | ⟨-, e', conn', hserve⟩ := serve_settles env q' _
    · rw [Proc.bind_ok hserve]
      exact serveTornAt_error q e requests conn'
    · rw [Proc.bind_error hserve]
      exact ⟨e', rfl⟩

variable [AsyncRead ρ]

/-- On a stream of exactly `bytes`, from any reader, `handle_requests` does what `p` does in at most
`rounds` rounds and a last one. -/
def HandledAs (env : SandstormEnv) (bytes : List UInt8) (rounds : ℕ)
    (p : Proc (SandstormConn ρ) IoError Unit) : Prop :=
  ∀ (conn : SandstormConn ρ) (fuel : ℕ), unread conn.reader = bytes → ending conn.reader = .eof →
    rounds < fuel → Conn.outcome (handleRequests env fuel conn) = Conn.outcome (p conn)

theorem handledAs_of_actsLike {bytes : List UInt8} {rounds : ℕ}
    {p : Proc (SandstormConn ρ) IoError Unit} (h : ActsLike (service env) bytes rounds p) :
    HandledAs env bytes rounds p := by
  intro conn fuel hr heof hfuel
  rw [handleRequests_eq]
  exact (h conn fuel hr heof hfuel).1

/-- The bytes of the requests, from the owned types or the borrowed ones, are handled as these
requests, one after the other. Cut anywhere, they are handled as the requests that arrived whole,
with an error at the end exactly if the cut is inside one. While the task that writes the responses
listens, nothing else is an error. -/
theorem requests_served {requests : List ClientRequest} (h : ∀ q ∈ requests, q.Fits) :
    (∀ q ∈ requests, q.write [] = (.ok (), q.encoding) ∧ q.writeRef [] = (.ok (), q.encoding))
      ∧ HandledAs env (encodings requests) requests.length
        (serveAll env requests : Proc (SandstormConn ρ) IoError Unit)
      ∧ (∀ k, ∃ n ≤ requests.length,
        ((encodings requests).take k = encodings (requests.take n)
          ∧ HandledAs env ((encodings requests).take k) requests.length
            (serveAll env (requests.take n) : Proc (SandstormConn ρ) IoError Unit))
        ∨ ∃ q e, requests[n]? = some q ∧ (encodings (requests.take n)).length < k
          ∧ k < (encodings (requests.take (n + 1))).length
          ∧ HandledAs env ((encodings requests).take k) requests.length
            (serveTornAt env q e (requests.take n) : Proc (SandstormConn ρ) IoError Unit))
      ∧ (Listening env → ∀ (n : ℕ) (conn : SandstormConn ρ),
        (serveAll env (requests.take n) conn).1 = .ok ())
      ∧ ∀ (q : ClientRequest) (e : IoError) (n : ℕ) (conn : SandstormConn ρ),
        ∃ e', (serveTornAt env q e (requests.take n) conn).1 = .error (.err e') := by
  have hvalid : ∀ f ∈ requests.map frame, f.Valid (service (ρ := ρ) env) := by
    simp only [List.mem_map]
    rintro f ⟨q, hq, rfl⟩
    exact frame_valid env (h q hq)
  have htake (n : ℕ) : Frame.wire ((requests.take n).map frame) = encodings (requests.take n) :=
    wire_frames fun q hq => h q (List.mem_of_mem_take hq)
  have hwire := wire_frames h
  refine ⟨fun q hq => ?_, ?_, fun k => ?_, fun hlisten n => serveAll_ok hlisten _,
    fun q e n => serveTornAt_error q e _⟩
  · rw [writeRef_eq]
    exact ⟨(write_eq (h q hq)).1, (write_eq (h q hq)).1⟩
  · have hall := serveStream_frames _ hvalid
    rw [hwire, List.length_map, serveFrames_eq] at hall
    exact handledAs_of_actsLike hall
  · obtain ⟨n, hn, hcut⟩ := serveStream_cut _ k hvalid
    rw [List.length_map] at hn hcut
    refine ⟨n, hn, ?_⟩
    simp only [hwire, ← List.map_take, htake, serveFrames_eq] at hcut
    rcases hcut with ⟨hbytes, hacts⟩ | ⟨f, e, hf, hlo, hhi, hacts⟩
    · exact .inl ⟨hbytes, handledAs_of_actsLike hacts⟩
    · rw [List.getElem?_map, Option.map_eq_some_iff] at hf
      obtain ⟨q, hq, rfl⟩ := hf
      rw [serveTorn_eq] at hacts
      exact .inr ⟨q, e, hq, hlo, hhi, handledAs_of_actsLike hacts⟩

def listeningEnv : SandstormEnv := ⟨.ok (), fun _ => true, fun _ => true⟩

/-- Asks for the user `m` to be deleted, and then meows. -/
def deleteAndMeow : List ClientRequest := [.deleteUser ⟨['m']⟩, .meow]

theorem requests_served_deleteAndMeow :
    encodings deleteAndMeow = [0x0C, 1, 0x6D, 0xFF]
      ∧ HandledAs listeningEnv (encodings deleteAndMeow) 2
        (serveAll listeningEnv deleteAndMeow : Proc (SandstormConn Flat) IoError Unit) := by
  have hfits : ∀ q ∈ deleteAndMeow, q.Fits := by
    intro q hq
    simp only [deleteAndMeow, List.mem_cons, List.not_mem_nil, or_false] at hq
    rcases hq with rfl | rfl
    · unfold Fits
      decide
    · trivial
  exact ⟨by decide +kernel, (requests_served hfits).2.1⟩

end Stream

end ClientRequest

end DustDevil
