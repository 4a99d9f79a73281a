import DustDevil.Client.Manager
import DustDevil.Lib.Framing
import DustDevil.Proofs.Logging

/-!
# The server's messages, as the client reads them

Each arm of `reader_task_inner` reads a message and delivers it (`readerArm_eq`). On the bytes of
any messages, one after the other, the task receives exactly these and delivers them in order
(`messages_received`).
-/

namespace DustDevil

open Wire

namespace ServerMessage

section Encoding

/-- The lists and the strings fit their length prefixes. -/
def Fits : ServerMessage → Prop
  | eventStream event => event.Fits
  | listSocks5Sockets addresses | listSandstormSockets addresses => addresses.val.length ≤ 65535
  | addSocks5Socket result | addSandstormSocket result =>
    FitsResult (fun _ => True) FitsIoError result
  | listUsers users => users.val.length ≤ 65535 ∧ ∀ user ∈ users.val, FitsStr user.1
  | listAuthMethods response => response.authMethods.length ≤ 255
  | _ => True

/-- The message with its errors as the codec stores them. -/
def stored : ServerMessage → ServerMessage
  | eventStream event => eventStream event.stored
  | addSocks5Socket result => addSocks5Socket (resultStored ioErrorStored result)
  | addSandstormSocket result => addSandstormSocket (resultStored ioErrorStored result)
  | message => message

/-- The message as the server's response handler writes it. -/
def send : ServerMessage → Proc Sink IoError Unit
  | shutdown => ShutdownRequest.write
  | eventStream event => EventStreamResponseRef.write event
  | message => message.write

def encoding (message : ServerMessage) : List UInt8 := (message.write []).2

def encodings (messages : List ServerMessage) : List UInt8 := messages.flatMap encoding

variable {ρ α : Type} [AsyncRead ρ]

def readAs [ByteRead α] (message : α → ServerMessage) : Proc ρ IoError ServerMessage := do
  let result ← ByteRead.read
  pure (message result)

/-- The reading of a message in `reader_task_inner`'s arm for the command. -/
def read : SandstormCommandType → Proc ρ IoError ServerMessage
  | .shutdown => readAs fun _ : ShutdownResponse => shutdown
  | .eventStreamConfig => readAs eventStreamConfig
  | .eventStream => readAs eventStream
  | .listSocks5Sockets => readAs listSocks5Sockets
  | .addSocks5Socket => readAs addSocks5Socket
  | .removeSocks5Socket => readAs removeSocks5Socket
  | .listSandstormSockets => readAs listSandstormSockets
  | .addSandstormSocket => readAs addSandstormSocket
  | .removeSandstormSocket => readAs removeSandstormSocket
  | .listUsers => readAs listUsers
  | .addUser => readAs addUser
  | .updateUser => readAs updateUser
  | .deleteUser => readAs deleteUser
  | .listAuthMethods => readAs listAuthMethods
  | .toggleAuthMethod => readAs toggleAuthMethod
  | .requestCurrentMetrics => readAs requestCurrentMetrics
  | .getBufferSize => readAs getBufferSize
  | .setBufferSize => readAs setBufferSize
  | .meow => readAs fun _ : MeowResponse => meow

theorem read_refines (command : SandstormCommandType) :
    Refines (read command : Proc ρ _ _) (read command) := by
  cases command <;> exact ByteRead.refines.bind fun _ => .pure _

theorem send_eq (message : ServerMessage) : message.send = message.write := by
  cases message <;> rfl

/-- The owned type of a response and its borrowed type write the same. -/
theorem writeRef_eq (message : ServerMessage) : message.writeRef = message.write := by
  cases message <;> rfl

end Encoding

/-! ## The bytes of a message -/

section Frames

theorem carries_metrics (metrics : Metrics) :
    Carries (ByteWrite.write metrics) ByteRead.read metrics :=
  (carries_u32 _).bind ((carries_u64 _).bind ((carries_u64 _).bind ((carries_u64 _).bind
    ((carries_u32 _).bind ((carries_u64 _).map _)))))

theorem carries_addresses {addresses : Vec SocketAddr} (h : addresses.val.length ≤ 65535) :
    Carries (ByteWrite.write addresses) ByteRead.read addresses :=
  carries_vec (List.forall₂_same.2 fun address _ => carries_socketAddr address) h

theorem carries_removeSocketResponse (response : RemoveSocketResponse) :
    Carries (ByteWrite.write response) ByteRead.read response :=
  (carries_u8 _).bind_pure (by cases response <;> rfl)

theorem carries_addSocketResponse {result : Except IoError Unit}
    (h : FitsResult (fun _ => True) FitsIoError result) :
    Carries (ByteWrite.write (result.map fun _ => ())) ByteRead.read
      (resultStored ioErrorStored result) := by
  have hresult : (result.map fun _ => ()) = result := by cases result <;> rfl
  rw [hresult]
  exact carries_unitResult h

theorem carries_users {users : ListUsersResponse}
    (h : users.val.length ≤ 65535 ∧ ∀ user ∈ users.val, FitsStr user.1) :
    Carries (ByteWrite.write users) ByteRead.read users :=
  carries_vec (List.forall₂_same.2 fun user huser =>
    carries_pair (carries_str (h.2 user huser)) (carries_userRole user.2)) h.1

theorem carries_authMethods {response : ListAuthMethodsResponse}
    (h : response.authMethods.length ≤ 255) :
    Carries (ByteWrite.write (SmallWriteList.mk response.authMethods)) ByteRead.read response :=
  (carries_smallList (List.forall₂_same.2 fun authMethod _ =>
    carries_pair (carries_authMethod authMethod.1) (carries_bool authMethod.2)) h).map
    fun list => ListAuthMethodsResponse.mk list.val

theorem carries_optionMetrics (metrics : Option Metrics) :
    Carries (ByteWrite.write metrics) ByteRead.read metrics := by
  cases metrics with
  | none => exact carries_none
  | some metrics => exact carries_some (carries_metrics metrics)

theorem carries_eventStreamConfigResponse (response : EventStreamConfigResponse) :
    Carries (do
      writeU8 response.typeByte
      match response with
      | .enabled metrics => ByteWrite.write metrics
      | _ => pure () : Proc Sink IoError Unit) ByteRead.read response := by
  cases response with
  | disabled | wasAlreadyEnabled => exact (carries_u8 _).bind (.pure _)
  | enabled metrics => exact (carries_u8 _).bind ((carries_metrics metrics).map _)

theorem carries_addUserResponse (response : AddUserResponse) :
    Carries (ByteWrite.write response.intoU8) ByteRead.read response :=
  (carries_u8 _).bind_pure (by cases response <;> rfl)

theorem carries_updateUserResponse (response : UpdateUserResponse) :
    Carries (ByteWrite.write response.intoU8) ByteRead.read response :=
  (carries_u8 _).bind_pure (by cases response <;> rfl)

theorem carries_deleteUserResponse (response : DeleteUserResponse) :
    Carries (ByteWrite.write response.intoU8) ByteRead.read response :=
  (carries_u8 _).bind_pure (by cases response <;> rfl)

theorem carries_meow :
    Carries (ByteWrite.write ((0x4D : UInt8), (0x45 : UInt8), (0x4F : UInt8), (0x57 : UInt8)))
      ByteRead.read MeowResponse.mk := by
  have hmeow : Carries (ByteWrite.write
      ((0x4D : UInt8), (0x45 : UInt8), (0x4F : UInt8), (0x57 : UInt8))) (readExact 4) meowBytes :=
    ⟨meowBytes, (writeAll_writes [_]).bind ((writeAll_writes [_]).bind ((writeAll_writes [_]).bind
      (writeAll_writes [_]))), readExact_reads rfl⟩
  exact hmeow.bind_pure rfl

theorem write_framed {message : ServerMessage} (h : message.Fits) :
    Framed message.command.intoU8 message.write (read message.command) message.stored := by
  cases message with
  | shutdown => exact framed_of_empty _ rfl
  | eventStreamConfig response =>
    exact framed_of_carries _ ((carries_eventStreamConfigResponse response).map _)
  | eventStream event => exact framed_of_carries _ ((carries_event h).map _)
  | listSocks5Sockets | listSandstormSockets =>
    exact framed_of_carries _ ((carries_addresses h).map _)
  | addSocks5Socket | addSandstormSocket =>
    exact framed_of_carries _ ((carries_addSocketResponse h).map _)
  | removeSocks5Socket response | removeSandstormSocket response =>
    exact framed_of_carries _ ((carries_removeSocketResponse response).map _)
  | listUsers users => exact framed_of_carries _ ((carries_users h).map _)
  | addUser response => exact framed_of_carries _ ((carries_addUserResponse response).map _)
  | updateUser response => exact framed_of_carries _ ((carries_updateUserResponse response).map _)
  | deleteUser response => exact framed_of_carries _ ((carries_deleteUserResponse response).map _)
  | listAuthMethods response => exact framed_of_carries _ ((carries_authMethods h).map _)
  | toggleAuthMethod result | setBufferSize result =>
    exact framed_of_carries _ ((carries_bool result).map _)
  | requestCurrentMetrics metrics =>
    exact framed_of_carries _ ((carries_optionMetrics metrics).map _)
  | getBufferSize size => exact framed_of_carries _ ((carries_u32 size).map _)
  | meow => exact framed_of_carries _ (carries_meow.map _)

end Frames

end ServerMessage

/-! ## Delivering a message -/

section Deliver

variable {ρ : Type} {env : ReaderEnv} {conn : ReaderConn ρ}

namespace ResponseHandlers

/-- The queue loses its first handler, and there is one response less remaining. -/
def pop (handlers : ResponseHandlers) (command : SandstormCommandType) : ResponseHandlers :=
  { handlers.setQueue command (handlers.queue command).tail with
    remaining := handlers.remaining - 1 }

end ResponseHandlers

theorem setHandlers_apply (handlers : ResponseHandlers) (conn : ReaderConn ρ) :
    setHandlers handlers conn
      = (.ok (), { conn with state := ⟨handlers, conn.state.eventStreamSender⟩ }) := rfl

theorem takeHandler_cons {command : SandstormCommandType} {f : ℕ} {queue : List ℕ}
    (hqueue : conn.state.handlers.queue command = f :: queue)
    (hremaining : conn.state.handlers.remaining ≠ 0) :
    takeHandler command conn
      = (.ok f, { conn with state :=
        ⟨conn.state.handlers.pop command, conn.state.eventStreamSender⟩ }) := by
  unfold takeHandler
  rw [Proc.bind_ok (Proc.get_apply _)]
  simp only [hqueue]
  rw [Proc.bind_ok (setHandlers_apply _ _), if_neg hremaining,
    Proc.bind_ok (setHandlers_apply _ _), ResponseHandlers.pop, hqueue]
  rfl

/-- A response goes to the first handler of its command. -/
theorem deliver_response (env : ReaderEnv) (conn : ReaderConn ρ) {message : ServerMessage}
    {f : ℕ} {queue : List ℕ}
    (hevent : message.command ≠ .eventStream)
    (hqueue : conn.state.handlers.queue message.command = f :: queue)
    (hremaining : conn.state.handlers.remaining ≠ 0) :
    ∃ sender, deliver env message conn
      = (.ok (), ⟨conn.reader, ⟨conn.state.handlers.pop message.command, sender⟩,
        conn.effects ++ [.handle f message]⟩) := by
  have hgive : giveToHandler message conn
      = (.ok f, ⟨conn.reader, ⟨conn.state.handlers.pop message.command,
        conn.state.eventStreamSender⟩, conn.effects ++ [.handle f message]⟩) := by
    unfold giveToHandler
    rw [Proc.bind_ok (takeHandler_cons hqueue hremaining)]
    rfl
  cases message with
  | eventStream event => exact absurd rfl hevent
  | eventStreamConfig result => exact ⟨_, Proc.bind_ok hgive _⟩
  | _ => exact ⟨_, Proc.bind_ok hgive _⟩

/-- An event goes to the receiver of events, if there is one. -/
theorem deliver_event (env : ReaderEnv) (conn : ReaderConn ρ) (event : Event) :
    ∃ sender effects, deliver env (.eventStream event) conn
      = (.ok (), ⟨conn.reader, ⟨conn.state.handlers, sender⟩, conn.effects ++ effects⟩)
        ∧ (effects = [] ∨ ∃ receiver, effects = [.event receiver event]) := by
  obtain ⟨reader, ⟨handlers, sender⟩, effects⟩ := conn
  show ∃ sender' effects', streamEvent env event _ = _ ∧ _
  unfold streamEvent
  rw [Proc.bind_ok (Proc.get_apply _)]
  rcases sender with _ | f | s
  · exact ⟨none, [], by rw [List.append_nil]; rfl, .inl rfl⟩
  · exact ⟨some (.function f), _, rfl, .inr ⟨.function f, rfl⟩⟩
  · dsimp only
    by_cases h : env.channelOpen effects.length = true
    · rw [if_pos h]
      exact ⟨some (.channel s), _, rfl, .inr ⟨.channel s, rfl⟩⟩
    · rw [if_neg h]
      exact ⟨none, [], by rw [List.append_nil]; rfl, .inl rfl⟩

/-- The flush that waits is told, if nothing remains. Nothing else changes. -/
theorem notifyFlush_apply (conn : ReaderConn ρ) :
    ∃ notifier effects, notifyFlush conn
      = (.ok (), ⟨conn.reader, ⟨{ conn.state.handlers with flushNotifier := notifier },
        conn.state.eventStreamSender⟩, conn.effects ++ effects⟩)
      ∧ (effects = [] ∨ conn.state.handlers.remaining = 0 ∧ ∃ sender, effects = [.flushed sender])
      := by
  obtain ⟨reader, ⟨⟨remaining, wasShutdown, notifier, queue⟩, sender⟩, effects⟩ := conn
  unfold notifyFlush
  rw [Proc.bind_ok (Proc.get_apply _)]
  dsimp only
  by_cases hzero : remaining = 0
  · rw [if_pos hzero]
    rcases notifier with _ | notifier
    · exact ⟨none, [], by rw [List.append_nil]; rfl, .inl rfl⟩
    · exact ⟨none, _, rfl, .inr ⟨hzero, notifier, rfl⟩⟩
  · rw [if_neg hzero]
    exact ⟨notifier, [], by rw [List.append_nil]; rfl, .inl rfl⟩

end Deliver

/-! ## Any stream of messages -/

section Stream

variable {ρ : Type} (env : ReaderEnv)

theorem takeHandler_readerFree (command : SandstormCommandType) :
    Conn.ReaderFree (takeHandler command : Proc (ReaderConn ρ) IoError ℕ) := by
  unfold takeHandler
  refine .get_bind (fun _ _ => rfl) fun conn => ?_
  dsimp only
  split
  · refine Conn.ReaderFree.bind (fun _ _ => rfl) fun _ => ?_
    split_ifs
    · exact fun _ _ => rfl
    · exact Conn.ReaderFree.bind (fun _ _ => rfl) fun _ => .pure _
  · exact .throw _

theorem giveToHandler_readerFree (message : ServerMessage) :
    Conn.ReaderFree (giveToHandler message : Proc (ReaderConn ρ) IoError ℕ) :=
  (takeHandler_readerFree _).bind fun _ => (Conn.ReaderFree.perform _).bind fun _ => .pure _

theorem deliver_readerFree (message : ServerMessage) :
    Conn.ReaderFree (deliver env message : Proc (ReaderConn ρ) IoError Unit) := by
  cases message with
  | eventStream event =>
    refine Conn.ReaderFree.get_bind (fun _ _ => rfl) fun conn => ?_
    split
    · exact .perform _
    · split_ifs
      · exact .perform _
      · exact fun _ _ => rfl
    · exact .pure _
  | eventStreamConfig result => exact (giveToHandler_readerFree _).bind fun _ _ _ => rfl
  | _ => exact (giveToHandler_readerFree _).bind fun _ => .pure _

theorem notifyFlush_readerFree :
    Conn.ReaderFree (notifyFlush : Proc (ReaderConn ρ) IoError Unit) := by
  refine .get_bind (fun _ _ => rfl) fun conn => ?_
  dsimp only
  split_ifs
  · split
    · exact Conn.ReaderFree.bind (fun _ _ => rfl) fun _ => .perform _
    · exact .pure _
  · exact .pure _

theorem receive_readerFree (message : ServerMessage) :
    Conn.ReaderFree (receive env message : Proc (ReaderConn ρ) IoError Unit) :=
  (Conn.ReaderFree.perform _).bind fun _ => (deliver_readerFree env message).bind fun _ =>
    notifyFlush_readerFree

def receiveAll : List ServerMessage → Proc (ReaderConn ρ) IoError Unit
  | [] => pure ()
  | message :: messages => do
    receive env message
    receiveAll messages

variable [AsyncRead ρ]

/-- An arm of `reader_task_inner` reads the message that the command announces, and delivers it. -/
theorem readerArm_eq (command : SandstormCommandType) :
    (readerArm env command : Proc (ReaderConn ρ) IoError Unit) = (do
      let message ← Conn.read (ServerMessage.read command)
      Conn.perform [.received message]
      deliver env message) := by
  cases command <;>
  · unfold ServerMessage.read ServerMessage.readAs
    rw [Conn.read_map_bind]
    rfl

/-- The client's loop as a service of framed messages. -/
def readerService : Service ρ ReaderState ReaderEffect SandstormCommandType ServerMessage where
  readTag := ByteRead.read
  readBody := ServerMessage.read
  mark _ := []
  act := receive env
  tag_refines := ByteRead.refines
  body_refines := ServerMessage.read_refines
  act_readerFree := receive_readerFree env
  tag_end := command_end

theorem readerLoop_eq : ∀ fuel : ℕ,
    (readerLoop env fuel : Proc (ReaderConn ρ) IoError Unit)
      = serveStream (readerService env) fuel
  | 0 => rfl
  | fuel + 1 => by
    unfold readerLoop serveStream
    congr 1
    funext command
    rcases command with e | command
    · rfl
    · dsimp only
      rw [readerArm_eq, readerLoop_eq fuel, Proc.bind_assoc,
        show (readerService (ρ := ρ) env).mark command = [] from rfl, Conn.perform_nil,
        Proc.pure_bind]
      congr 1
      funext message
      rw [Proc.bind_assoc]
      show _ = (receive env message >>= fun _ => _)
      unfold receive
      rw [Proc.bind_assoc]
      congr 1
      funext _
      rw [Proc.bind_assoc]

namespace ServerMessage

def frame (message : ServerMessage) : Frame SandstormCommandType ServerMessage :=
  ⟨message.command.intoU8, message.command, message.encoding.tail, message.stored⟩

theorem frame_valid {message : ServerMessage} (h : message.Fits) :
    message.frame.Valid (readerService (ρ := ρ) env) where
  tag := command_reads message.command
  body := (write_framed h).encoded.2.2

theorem wire_frames : ∀ {messages : List ServerMessage}, (∀ message ∈ messages, message.Fits) →
    Frame.wire (messages.map frame) = encodings messages
  | [], _ => rfl
  | message :: messages, h => by
    obtain ⟨hmessage, hmessages⟩ := List.forall_mem_cons.1 h
    have hbytes : message.frame.bytes = message.encoding := (write_framed hmessage).encoded.2.1
    rw [List.map_cons, Frame.wire_cons, hbytes, wire_frames hmessages]
    rfl

theorem serveFrames_eq : ∀ messages : List ServerMessage,
    serveFrames (readerService (ρ := ρ) env) (messages.map frame)
      = receiveAll env (messages.map stored)
  | [] => rfl
  | message :: messages => by
    rw [List.map_cons, serveFrames, serveFrames_eq messages,
      show (readerService (ρ := ρ) env).mark _ = [] from rfl, Conn.perform_nil, Proc.pure_bind]
    rfl

end ServerMessage

end Stream

/-! ## With a handler for every response -/

section Expect

variable {ρ : Type} {env : ReaderEnv} {conn : ReaderConn ρ}

/-- The messages that have been read. -/
def received (effects : List ReaderEffect) : List ServerMessage :=
  effects.filterMap fun
    | .received message => some message
    | _ => none

/-- There is a handler for every response among the messages. -/
structure ResponseHandlers.Expect (handlers : ResponseHandlers) (messages : List ServerMessage) :
    Prop where
  queue : ∀ command, command ≠ .eventStream →
    (messages.countP fun message => message.command = command) ≤ (handlers.queue command).length
  remaining : (messages.countP fun message => message.command ≠ .eventStream) ≤ handlers.remaining

theorem received_append (effects effects' : List ReaderEffect) :
    received (effects ++ effects') = received effects ++ received effects' :=
  List.filterMap_append

theorem ResponseHandlers.Expect.event {handlers : ResponseHandlers} {event : Event}
    {messages : List ServerMessage} (h : handlers.Expect (.eventStream event :: messages)) :
    handlers.Expect messages where
  queue command hcommand := by
    have := h.queue command hcommand
    rw [List.countP_cons] at this
    omega
  remaining := by
    have := h.remaining
    rw [List.countP_cons] at this
    omega

theorem ResponseHandlers.Expect.response {handlers : ResponseHandlers} {message : ServerMessage}
    {messages : List ServerMessage} (h : handlers.Expect (message :: messages))
    (hevent : message.command ≠ .eventStream) :
    (∃ f queue, handlers.queue message.command = f :: queue) ∧ handlers.remaining ≠ 0
      ∧ (handlers.pop message.command).Expect messages := by
  have hqueue := h.queue message.command hevent
  have hremaining := h.remaining
  rw [List.countP_cons_of_pos (by simpa using hevent)] at hremaining
  rw [List.countP_cons_of_pos (by simp)] at hqueue
  refine ⟨List.exists_cons_of_length_pos (by omega), by omega, fun command hcommand => ?_, ?_⟩
  · by_cases heq : command = message.command
    · subst heq
      simp only [pop, setQueue, Function.update_self, List.length_tail]
      omega
    · have := h.queue command hcommand
      rw [List.countP_cons] at this
      simp only [pop, setQueue, Function.update_of_ne heq]
      omega
  · show _ ≤ handlers.remaining - 1
    omega

theorem deliver_expect (env : ReaderEnv) {message : ServerMessage} {messages : List ServerMessage}
    (h : conn.state.handlers.Expect (message :: messages)) :
    ∃ conn', deliver env message conn = (.ok (), conn') ∧ conn'.state.handlers.Expect messages
      ∧ received conn'.effects = received conn.effects := by
  by_cases hevent : message.command = .eventStream
  · obtain ⟨event, rfl⟩ := ServerMessage.command_eq_eventStream hevent
    obtain ⟨sender, effects, hdeliver, heffects⟩ := deliver_event env conn event
    refine ⟨_, hdeliver, h.event, ?_⟩
    rw [received_append]
    rcases heffects with rfl | ⟨receiver, rfl⟩ <;> exact List.append_nil _
  · obtain ⟨⟨f, queue, hqueue⟩, hremaining, hrest⟩ := h.response hevent
    obtain ⟨sender, hdeliver⟩ := deliver_response env conn hevent hqueue hremaining
    refine ⟨_, hdeliver, hrest, ?_⟩
    rw [received_append]
    exact List.append_nil _

theorem receive_expect (env : ReaderEnv) {message : ServerMessage} {messages : List ServerMessage}
    (h : conn.state.handlers.Expect (message :: messages)) :
    ∃ conn', receive env message conn = (.ok (), conn') ∧ conn'.state.handlers.Expect messages
      ∧ received conn'.effects = received conn.effects ++ [message] := by
  unfold receive
  rw [Proc.bind_ok (Conn.perform_apply _ _)]
  have hconn : (⟨conn.reader, conn.state, conn.effects ++ [.received message]⟩
      : ReaderConn ρ).state.handlers.Expect (message :: messages) := h
  obtain ⟨conn1, hdeliver, hexpect, hreceived⟩ := deliver_expect env hconn
  obtain ⟨notifier, effects, hflush, heffects⟩ := notifyFlush_apply conn1
  rw [Proc.bind_ok hdeliver, hflush]
  refine ⟨_, rfl, ⟨hexpect.queue, hexpect.remaining⟩, ?_⟩
  rw [received_append, hreceived, received_append]
  rcases heffects with rfl | ⟨-, sender, rfl⟩ <;> exact List.append_nil _

theorem receiveAll_expect (env : ReaderEnv) :
    ∀ {messages : List ServerMessage} {conn : ReaderConn ρ},
    conn.state.handlers.Expect messages →
      ∃ conn', receiveAll env messages conn = (.ok (), conn')
        ∧ received conn'.effects = received conn.effects ++ messages
  | [], conn, _ => ⟨conn, rfl, (List.append_nil _).symm⟩
  | message :: messages, conn, h => by
    obtain ⟨conn1, hreceive, hexpect, hreceived⟩ := receive_expect env h
    obtain ⟨conn2, hall, hreceived'⟩ := receiveAll_expect env hexpect
    refine ⟨conn2, (Proc.bind_ok hreceive _).trans hall, ?_⟩
    rw [hreceived', hreceived, List.append_assoc, List.singleton_append]

theorem ResponseHandlers.Expect.stored {handlers : ResponseHandlers}
    {messages : List ServerMessage} (h : handlers.Expect messages) :
    handlers.Expect (messages.map ServerMessage.stored) := by
  have hcommand (message : ServerMessage) : message.stored.command = message.command := by
    cases message <;> rfl
  constructor
  · intro command hne
    simpa [List.countP_map, Function.comp_def, hcommand] using h.queue command hne
  · simpa [List.countP_map, Function.comp_def, hcommand] using h.remaining

/-- On the bytes of the messages the client's loop does what it does for these messages, one after
the other, and leaves nothing unread. -/
theorem readerLoop_outcome [AsyncRead ρ] (env : ReaderEnv) {messages : List ServerMessage}
    (h : ∀ message ∈ messages, message.Fits) {conn : ReaderConn ρ} {fuel : ℕ}
    (hr : unread conn.reader = ServerMessage.encodings messages)
    (heof : ending conn.reader = .eof) (hfuel : messages.length < fuel) :
    Conn.outcome (readerLoop env fuel conn)
        = Conn.outcome (receiveAll env (messages.map ServerMessage.stored) conn)
      ∧ ((readerLoop env fuel conn).1 = .ok () →
        unread (readerLoop env fuel conn).2.reader = []) := by
  have hvalid : ∀ f ∈ messages.map ServerMessage.frame, f.Valid (readerService (ρ := ρ) env) := by
    simp only [List.mem_map]
    rintro f ⟨message, hmessage, rfl⟩
    exact ServerMessage.frame_valid env (h message hmessage)
  have hloop := serveStream_frames _ hvalid
  rw [ServerMessage.wire_frames h, List.length_map, ServerMessage.serveFrames_eq] at hloop
  rw [readerLoop_eq]
  exact hloop conn fuel hr heof hfuel

/-- With what the messages make of the connection, the loop makes it of it too. -/
theorem readerLoop_of_receiveAll [AsyncRead ρ] {messages : List ServerMessage}
    (h : ∀ message ∈ messages, message.Fits) {conn conn' : ReaderConn ρ} {fuel : ℕ}
    (hr : unread conn.reader = ServerMessage.encodings messages)
    (heof : ending conn.reader = .eof) (hfuel : messages.length < fuel)
    (hall : receiveAll env (messages.map ServerMessage.stored) conn = (.ok (), conn')) :
    ∃ conn'', readerLoop env fuel conn = (.ok (), conn'') ∧ unread conn''.reader = []
      ∧ conn''.effects = conn'.effects := by
  obtain ⟨hsame, hleft⟩ := readerLoop_outcome env h hr heof hfuel
  rw [hall] at hsame
  rcases hread : readerLoop env fuel conn with ⟨x, conn''⟩
  rw [hread] at hsame hleft
  simp only [Conn.outcome, Prod.mk.injEq] at hsame
  obtain ⟨rfl, -, heffects⟩ := hsame
  exact ⟨conn'', rfl, hleft rfl, heffects⟩

/-- The bytes of the messages are the same from the server's handler, the owned types and the
borrowed ones. On them the client's task does what it does for these messages, one after the other,
and then comes to its end. With a handler for every response it receives all of them and leaves
nothing unread. -/
theorem messages_received [AsyncRead ρ] {messages : List ServerMessage}
    (h : ∀ message ∈ messages, message.Fits) :
    (∀ message ∈ messages, message.send [] = (.ok (), message.encoding)
      ∧ message.write [] = (.ok (), message.encoding)
      ∧ message.writeRef [] = (.ok (), message.encoding))
    ∧ ∀ (conn : ReaderConn ρ) (fuel : ℕ), unread conn.reader = ServerMessage.encodings messages →
      ending conn.reader = .eof → messages.length < fuel →
        Conn.outcome (readerTaskInner env fuel conn)
          = Conn.outcome ((receiveAll env (messages.map ServerMessage.stored) >>= fun _ =>
            readerEnd : Proc (ReaderConn ρ) IoError Unit) conn)
        ∧ (conn.state.handlers.Expect messages →
          ∃ conn', readerLoop env fuel conn = (.ok (), conn') ∧ unread conn'.reader = []
            ∧ received conn'.effects
              = received conn.effects ++ messages.map ServerMessage.stored) := by
  refine ⟨fun message hmessage => ?_, fun conn fuel hr heof hfuel => ?_⟩
  · have hwrite : message.write [] = (.ok (), message.encoding) :=
      (ServerMessage.write_framed (h message hmessage)).encoded.1
    rw [ServerMessage.send_eq, ServerMessage.writeRef_eq]
    exact ⟨hwrite, hwrite, hwrite⟩
  obtain ⟨hsame, -⟩ := readerLoop_outcome env h hr heof hfuel
  have hend : Conn.ReaderFree (readerEnd : Proc (ReaderConn ρ) IoError Unit) :=
    .get_bind (fun _ _ => rfl) fun _ _ _ => by
      cases ResponseHandlers.finish _ <;> rfl
  refine ⟨Conn.outcome_bind_congr hsame fun _ => hend, fun hexpect => ?_⟩
  obtain ⟨conn', hall, hreceived⟩ := receiveAll_expect env hexpect.stored
  obtain ⟨conn'', hread, hleft, heffects⟩ := readerLoop_of_receiveAll h hr heof hfuel hall
  exact ⟨conn'', hread, hleft, by rw [heffects, hreceived]⟩

def quietEnv : ReaderEnv := ⟨fun _ _ => none, fun _ => true⟩

/-- An address that is in use, and then a meow. -/
def refusedAndMeow : List ServerMessage :=
  [.addSocks5Socket (.error ⟨.addrInUse, ['n', 'o']⟩), .meow]

/-- A client that waits for these two responses. -/
def waitingConn : ReaderConn Flat :=
  ⟨⟨[0x04, 0, 7, 0, 2, 0x6E, 0x6F, 0xFF, 0x4D, 0x45, 0x4F, 0x57], .eof⟩,
    ⟨(ResponseHandlers.new.push .addSocks5Socket 0).push .meow 1, none⟩, []⟩

theorem messages_received_refusedAndMeow :
    ∃ conn', readerLoop quietEnv 3 waitingConn = (.ok (), conn') ∧ unread conn'.reader = []
      ∧ received conn'.effects = refusedAndMeow := by
  have hfits : ∀ message ∈ refusedAndMeow, message.Fits := by
    intro message hmessage
    simp only [refusedAndMeow, List.mem_cons, List.not_mem_nil, or_false] at hmessage
    rcases hmessage with rfl | rfl
    · show (utf8 ['n', 'o']).length ≤ 65535
      decide
    · trivial
  have hexpect : waitingConn.state.handlers.Expect refusedAndMeow :=
    ⟨fun command _ => by cases command <;> decide, by decide⟩
  exact ((messages_received hfits).2 waitingConn 3 (by decide +kernel) rfl (by decide)).2 hexpect

end Expect

end DustDevil
