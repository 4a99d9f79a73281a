import Mathlib.Data.Fintype.OfMap
import Mathlib.Algebra.BigOperators.Ring.Finset
import Mathlib.Algebra.Order.BigOperators.Group.Finset
import DustDevil.Client.Session
import DustDevil.Lib.Threads
import DustDevil.Proofs.Messages

/-!
# Every response finds the handler of its request

The requests of a command that have been answered, and then those whose handlers are queued, are the
calls of that command in order; the queued ones are in flight, with the server, or being written.
Every step preserves this (`inv_step`), whatever the order in which the calls, the server and the
task that reads take theirs.
-/

namespace DustDevil

open Wire

instance : Fintype SandstormCommandType :=
  .ofList [.shutdown, .eventStreamConfig, .eventStream, .listSocks5Sockets, .addSocks5Socket,
    .removeSocks5Socket, .listSandstormSockets, .addSandstormSocket, .removeSandstormSocket,
    .listUsers, .addUser, .updateUser, .deleteUser, .listAuthMethods, .toggleAuthMethod,
    .requestCurrentMetrics, .getBufferSize, .setBufferSize, .meow] fun c => by cases c <;> decide

theorem ClientRequest.command_ne_eventStream (q : ClientRequest) : q.command ≠ .eventStream := by
  cases q <;> nofun

/-! ## What the task does with a message -/

section Arrive

variable {env : ReaderEnv} {conn : ReaderConn Unit}

/-- The handlers that have run, each with what it was given. -/
def handled (effects : List ReaderEffect) : List (ℕ × ServerMessage) :=
  effects.filterMap fun
    | .handle f message => some (f, message)
    | _ => none

/-- The flushes that have been told. -/
def flushed (effects : List ReaderEffect) : List ℕ :=
  effects.filterMap fun
    | .flushed notifier => some notifier
    | _ => none

theorem handled_append (effects effects' : List ReaderEffect) :
    handled (effects ++ effects') = handled effects ++ handled effects' :=
  List.filterMap_append

theorem arrive_event (env : ReaderEnv) (conn : ReaderConn Unit) (event : Event) :
    ∃ sender effects, Session.arrive env (.eventStream event) conn
      = (.ok .streaming, ⟨(), ⟨conn.state.handlers, sender⟩, conn.effects ++ effects⟩)
        ∧ handled effects = [] ∧ flushed effects = [] := by
  obtain ⟨sender, effects, hdeliver, heffects⟩ := deliver_event env
    ⟨(), conn.state, conn.effects ++ [.received (.eventStream event)]⟩ event
  refine ⟨sender, .received (.eventStream event) :: effects, ?_, ?_⟩
  · show (Conn.perform [.received (.eventStream event)] >>= fun _ => _) conn = _
    rw [Proc.bind_ok (Conn.perform_apply _ _), Proc.bind_ok hdeliver, List.append_assoc]
    rfl
  · rcases heffects with rfl | ⟨receiver, rfl⟩ <;> exact ⟨rfl, rfl⟩

theorem receive_response {ρ : Type} (env : ReaderEnv) (conn : ReaderConn ρ)
    {message : ServerMessage} {f : ℕ} {queue : List ℕ}
    (hevent : message.command ≠ .eventStream)
    (hqueue : conn.state.handlers.queue message.command = f :: queue)
    (hremaining : conn.state.handlers.remaining ≠ 0) :
    ∃ sender notifier effects, receive env message conn
      = (.ok (), ⟨conn.reader, ⟨{ conn.state.handlers.pop message.command with
          flushNotifier := notifier }, sender⟩, conn.effects ++ effects⟩)
        ∧ handled effects = [(f, message)]
        ∧ (flushed effects ≠ [] → (conn.state.handlers.pop message.command).remaining = 0) := by
  obtain ⟨sender, hdeliver⟩ := deliver_response env
    ⟨conn.reader, conn.state, conn.effects ++ [.received message]⟩ hevent hqueue hremaining
  obtain ⟨notifier, effects, hflush, heffects⟩ := notifyFlush_apply
    (⟨conn.reader, ⟨conn.state.handlers.pop message.command, sender⟩,
      (conn.effects ++ [.received message]) ++ [.handle f message]⟩ : ReaderConn ρ)
  refine ⟨sender, notifier, .received message :: .handle f message :: effects, ?_, ?_, ?_⟩
  · unfold receive
    rw [Proc.bind_ok (Conn.perform_apply _ _), Proc.bind_ok hdeliver, hflush, List.append_assoc,
      List.append_assoc]
    rfl
  · rcases heffects with rfl | ⟨-, sender, rfl⟩ <;> rfl
  · rcases heffects with rfl | ⟨hzero, sender, rfl⟩
    · exact fun h => absurd rfl h
    · exact fun _ => hzero

theorem arrive_response (env : ReaderEnv) (conn : ReaderConn Unit) {message : ServerMessage}
    {f : ℕ} {queue : List ℕ}
    (hevent : message.command ≠ .eventStream)
    (hqueue : conn.state.handlers.queue message.command = f :: queue)
    (hremaining : conn.state.handlers.remaining ≠ 0) :
    ∃ sender notifier effects, Session.arrive env message conn
      = (.ok .reading, ⟨(), ⟨{ conn.state.handlers.pop message.command with
          flushNotifier := notifier }, sender⟩, conn.effects ++ effects⟩)
        ∧ handled effects = [(f, message)]
        ∧ (flushed effects ≠ [] → (conn.state.handlers.pop message.command).remaining = 0) := by
  obtain ⟨sender, notifier, effects, hreceive, heffects⟩ :=
    receive_response env conn hevent hqueue hremaining
  refine ⟨sender, notifier, effects, ?_, heffects⟩
  have harrive : Session.arrive env message = (do
      receive env message
      pure .reading) := by
    cases message <;> first | rfl | exact absurd rfl hevent
  rw [harrive, Proc.bind_ok hreceive]
  rfl

end Arrive

/-! ## A run of messages -/

section Dispatch

variable {ρ : Type} {env : ReaderEnv} {conn : ReaderConn ρ}

/-- The handlers that have run for responses of the command, with these. -/
def handledFor (command : SandstormCommandType) (effects : List ReaderEffect) :
    List (ℕ × ServerMessage) :=
  (handled effects).filter fun p => p.2.command = command

/-- The messages of the command. -/
def messagesOf (command : SandstormCommandType) (messages : List ServerMessage) :
    List ServerMessage :=
  messages.filter fun message => message.command = command

theorem messagesOf_cons_self (message : ServerMessage) (messages : List ServerMessage) :
    messagesOf message.command (message :: messages)
      = message :: messagesOf message.command messages :=
  List.filter_cons_of_pos (by simp)

theorem messagesOf_cons_of_ne {command : SandstormCommandType} {message : ServerMessage}
    (h : message.command ≠ command) (messages : List ServerMessage) :
    messagesOf command (message :: messages) = messagesOf command messages :=
  List.filter_cons_of_neg (by simpa using h)

theorem receive_event (env : ReaderEnv) (conn : ReaderConn ρ) (event : Event) :
    ∃ sender notifier effects, receive env (.eventStream event) conn
      = (.ok (), ⟨conn.reader, ⟨{ conn.state.handlers with flushNotifier := notifier }, sender⟩,
        conn.effects ++ effects⟩) ∧ handled effects = [] := by
  obtain ⟨sender, effects, hdeliver, heffects⟩ := deliver_event env
    ⟨conn.reader, conn.state, conn.effects ++ [.received (.eventStream event)]⟩ event
  obtain ⟨notifier, effects', hflush, heffects'⟩ := notifyFlush_apply
    (⟨conn.reader, ⟨conn.state.handlers, sender⟩,
      (conn.effects ++ [.received (.eventStream event)]) ++ effects⟩ : ReaderConn ρ)
  refine ⟨sender, notifier, .received (.eventStream event) :: (effects ++ effects'), ?_, ?_⟩
  · unfold receive
    rw [Proc.bind_ok (Conn.perform_apply _ _), Proc.bind_ok hdeliver, hflush, List.append_assoc,
      List.append_assoc]
    rfl
  · rcases heffects with rfl | ⟨receiver, rfl⟩ <;>
      rcases heffects' with rfl | ⟨-, sender', rfl⟩ <;> rfl

/-- The handlers that wait for responses of a command take them in order: what they have taken and
what they will take stays the same when one is received. -/
theorem receive_handled (env : ReaderEnv) {message : ServerMessage} {messages : List ServerMessage}
    (h : conn.state.handlers.Expect (message :: messages)) :
    ∃ conn', receive env message conn = (.ok (), conn') ∧ conn'.state.handlers.Expect messages
      ∧ ∀ command, command ≠ .eventStream →
        handledFor command conn'.effects
            ++ (conn'.state.handlers.queue command).zip (messagesOf command messages)
          = handledFor command conn.effects
            ++ (conn.state.handlers.queue command).zip
              (messagesOf command (message :: messages)) := by
  by_cases hevent : message.command = .eventStream
  · obtain ⟨event, rfl⟩ := ServerMessage.command_eq_eventStream hevent
    obtain ⟨sender, notifier, effects, hreceive, heffects⟩ := receive_event env conn event
    refine ⟨_, hreceive, ⟨h.event.queue, h.event.remaining⟩, fun command hcommand => ?_⟩
    rw [handledFor, handled_append, heffects, List.append_nil,
      messagesOf_cons_of_ne (hevent.trans_ne hcommand.symm)]
    rfl
  · obtain ⟨⟨f, queue, hqueue⟩, hremaining, hrest⟩ := h.response hevent
    obtain ⟨sender, notifier, effects, hreceive, heffects, -⟩ :=
      receive_response env conn hevent hqueue hremaining
    refine ⟨_, hreceive, ⟨hrest.queue, hrest.remaining⟩, fun command _ => ?_⟩
    rw [handledFor, handled_append, heffects, List.filter_append]
    by_cases heq : message.command = command
    · subst heq
      rw [messagesOf_cons_self, hqueue]
      simp [ResponseHandlers.pop, ResponseHandlers.setQueue, hqueue, handledFor]
    · rw [messagesOf_cons_of_ne heq]
      simp [ResponseHandlers.pop, ResponseHandlers.setQueue, handledFor, heq,
        Function.update_of_ne (Ne.symm heq)]

/-- Each response goes to the handler that was left for it: of the handlers of its command, to the
one at its place among these responses. -/
theorem receiveAll_handled (env : ReaderEnv) :
    ∀ {messages : List ServerMessage} (conn : ReaderConn ρ),
    conn.state.handlers.Expect messages →
      ∃ conn', receiveAll env messages conn = (.ok (), conn')
        ∧ ∀ command, command ≠ .eventStream → handledFor command conn'.effects
          = handledFor command conn.effects
            ++ (conn.state.handlers.queue command).zip (messagesOf command messages)
  | [], conn, _ => ⟨conn, rfl, fun command _ => by
      rw [show messagesOf command [] = [] from rfl, List.zip_nil_right, List.append_nil]⟩
  | message :: messages, conn, h => by
    obtain ⟨conn1, hreceive, hexpect, hhandled⟩ := receive_handled env h
    obtain ⟨conn2, hall, hrest⟩ := receiveAll_handled env conn1 hexpect
    exact ⟨conn2, (Proc.bind_ok hreceive _).trans hall, fun command hcommand =>
      (hrest command hcommand).trans (hhandled command hcommand)⟩

end Dispatch

/-! ## Where the requests are -/

namespace Session

section Places

/-- The requests that these messages answer, of those of the command. -/
def causesOf (command : SandstormCommandType) (sents : List Sent) : List ℕ :=
  sents.filterMap fun sent => if sent.message.command = command then sent.cause else none

/-- What these messages answer and with what. -/
def answers (sents : List Sent) : List (ℕ × ServerMessage) :=
  sents.filterMap fun sent => sent.cause.map fun f => (f, sent.message)

/-- The calls whose requests are of the command. -/
def callIds (command : SandstormCommandType) (calls : List ClientRequest) : List ℕ :=
  (List.range calls.length).filter fun f => calls[f]?.map ClientRequest.command = some command

def writingOf (command : SandstormCommandType) : ManagerPoint → List ℕ
  | .writing f command' => if command' = command then [f] else []
  | _ => []

theorem causesOf_append (command : SandstormCommandType) (sents sents' : List Sent) :
    causesOf command (sents ++ sents') = causesOf command sents ++ causesOf command sents' :=
  List.filterMap_append

theorem causesOf_none (command : SandstormCommandType) (message : ServerMessage) :
    causesOf command [⟨none, message⟩] = [] := by
  simp [causesOf]

theorem causesOf_some (command : SandstormCommandType) (f : ℕ) (message : ServerMessage) :
    causesOf command [⟨some f, message⟩] = if message.command = command then [f] else [] := by
  by_cases h : message.command = command <;> simp [causesOf, h]

theorem answers_append (sents sents' : List Sent) :
    answers (sents ++ sents') = answers sents ++ answers sents' :=
  List.filterMap_append

theorem answers_none (message : ServerMessage) : answers [⟨none, message⟩] = [] := rfl

theorem answers_some (f : ℕ) (message : ServerMessage) :
    answers [⟨some f, message⟩] = [(f, message)] := rfl

theorem mem_answers {sents : List Sent} {f : ℕ} :
    f ∈ (answers sents).map Prod.fst ↔ ∃ command, f ∈ causesOf command sents := by
  unfold answers causesOf
  simp only [List.mem_map, List.mem_filterMap, Option.map_eq_some_iff]
  constructor
  · rintro ⟨_, ⟨sent, hsent, f, hcause, rfl⟩, rfl⟩
    exact ⟨sent.message.command, sent, hsent, by rw [if_pos rfl, hcause]⟩
  · rintro ⟨command, sent, hsent, hcause⟩
    split_ifs at hcause
    exact ⟨(f, sent.message), ⟨sent, hsent, f, hcause, rfl⟩, rfl⟩

theorem mem_callIds {command : SandstormCommandType} {calls : List ClientRequest} {f : ℕ} :
    f ∈ callIds command calls ↔ ∃ q, calls[f]? = some q ∧ q.command = command := by
  unfold callIds
  rw [List.mem_filter, List.mem_range, decide_eq_true_eq, Option.map_eq_some_iff]
  constructor
  · exact fun h => h.2
  · rintro ⟨q, hq, hcommand⟩
    exact ⟨(List.getElem?_eq_some_iff.1 hq).1, q, hq, hcommand⟩

theorem nodup_callIds (command : SandstormCommandType) (calls : List ClientRequest) :
    (callIds command calls).Nodup :=
  List.nodup_range.filter _

theorem callIds_append (command : SandstormCommandType) (calls : List ClientRequest)
    (q : ClientRequest) : callIds command (calls ++ [q])
      = callIds command calls ++ if q.command = command then [calls.length] else [] := by
  unfold callIds
  rw [List.length_append, List.length_singleton, List.range_succ, List.filter_append]
  congr 1
  · refine List.filter_congr fun f hf => ?_
    rw [List.getElem?_append_left (List.mem_range.1 hf)]
  · by_cases h : q.command = command <;> simp [h]

theorem length_callIds (command : SandstormCommandType) (calls : List ClientRequest) :
    (callIds command calls).length = (calls.map ClientRequest.command).count command := by
  induction calls using List.reverseRecOn with
  | nil => rfl
  | append_singleton calls q ih =>
    rw [callIds_append, List.length_append, ih, List.map_append, List.count_append]
    by_cases h : q.command = command <;> simp [h]

theorem callIds_eventStream (calls : List ClientRequest) : callIds .eventStream calls = [] := by
  refine List.eq_nil_iff_forall_not_mem.2 fun f hf => ?_
  obtain ⟨q, -, hq⟩ := mem_callIds.1 hf
  exact q.command_ne_eventStream hq

/-- With the handlers of these calls there is one for each of these responses, if none of the
commands has more responses than calls. -/
theorem expect_of_calls {handlers : ResponseHandlers} {calls : List ClientRequest}
    {messages : List ServerMessage}
    (hqueue : ∀ command, handlers.queue command = callIds command calls)
    (hremaining : handlers.remaining = calls.length)
    (hcalls : ∀ command, command ≠ .eventStream →
      (messagesOf command messages).length ≤ (callIds command calls).length) :
    handlers.Expect messages where
  queue command hcommand := by
    rw [hqueue, List.countP_eq_length_filter]
    exact hcalls command hcommand
  remaining := by
    have hsub : ((messages.filter fun message => message.command ≠ .eventStream).map
        ServerMessage.command).Subperm (calls.map ClientRequest.command) := by
      refine List.subperm_ext_iff.2 fun command hmem => ?_
      obtain ⟨message, hmessage, rfl⟩ := List.mem_map.1 hmem
      have hevent : message.command ≠ .eventStream := by simpa using (List.mem_filter.1 hmessage).2
      rw [← length_callIds]
      refine le_trans ?_ (hcalls _ hevent)
      rw [List.count_eq_length_filter, List.filter_map, List.length_map, messagesOf,
        List.filter_filter]
      exact (List.monotone_filter_right _ fun _ h => by simp_all).length_le
    rw [hremaining, List.countP_eq_length_filter]
    simpa using hsub.length_le

end Places

def ShutdownRequested (s : Session) : Prop :=
  ClientRequest.shutdown ∈ s.calls ∨ s.managerPoint = .closed

structure Inv (s : Session) : Prop where
  calls : ∀ command,
    causesOf command s.taken ++ s.handlers.queue command = callIds command s.calls
  queue : ∀ command, s.handlers.queue command
    = causesOf command s.inFlight ++ s.pending command ++ writingOf command s.managerPoint
  remaining : (s.handlers.remaining : ℤ) = ∑ command, ((s.handlers.queue command).length : ℤ)
  cause : ∀ sent ∈ s.inFlight, sent.cause = none ↔ sent.message.command = .eventStream
  handled : handled s.reader.effects = answers s.taken
  shutdown : s.handlers.wasShutdown = true ↔ s.ShutdownRequested
  once : ((answers s.taken).map Prod.fst).Nodup

section Steps

variable {env : ReaderEnv} {s s' : Session}

theorem Inv.pending_eventStream (h : s.Inv) : s.pending .eventStream = [] := by
  have hcalls := h.calls .eventStream
  rw [h.queue, callIds_eventStream] at hcalls
  simp only [List.append_eq_nil_iff] at hcalls
  exact hcalls.2.1.2

theorem inv_start : start.Inv where
  calls _ := rfl
  queue _ := rfl
  remaining := rfl
  cause _ h := absurd h List.not_mem_nil
  handled := rfl
  shutdown := by simp [start, handlers, ResponseHandlers.new, ShutdownRequested]
  once := List.nodup_nil

theorem register_queue (q : ClientRequest) (f : ℕ) (handlers : ResponseHandlers) :
    (q.register f handlers).queue
      = Function.update handlers.queue q.command (handlers.queue q.command ++ [f]) := by
  cases q <;> rfl

theorem register_remaining (q : ClientRequest) (f : ℕ) (handlers : ResponseHandlers) :
    (q.register f handlers).remaining = handlers.remaining + 1 := by
  cases q <;> rfl

theorem register_wasShutdown (q : ClientRequest) (f : ℕ) (handlers : ResponseHandlers) :
    (q.register f handlers).wasShutdown = true
      ↔ handlers.wasShutdown = true ∨ ClientRequest.shutdown = q := by
  cases q <;> simp [ClientRequest.register, ResponseHandlers.push, ResponseHandlers.setQueue,
    ResponseHandlers.setShutdown]

theorem inv_call (h : s.Inv) (q : ClientRequest) (hs : s.step env (.call q) = some s') :
    s'.Inv := by
  simp only [step] at hs
  split_ifs at hs with hready
  obtain rfl := Option.some.inj hs
  constructor
  · intro command
    show causesOf command s.taken ++ (q.register s.calls.length s.handlers).queue command
      = callIds command (s.calls ++ [q])
    rw [register_queue, callIds_append, ← h.calls]
    by_cases hcommand : q.command = command
    · subst hcommand
      rw [Function.update_self, if_pos rfl, List.append_assoc]
    · rw [Function.update_of_ne (Ne.symm hcommand), if_neg hcommand, List.append_nil]
  · intro command
    show (q.register s.calls.length s.handlers).queue command
      = causesOf command s.inFlight ++ s.pending command
        ++ if q.command = command then [s.calls.length] else []
    have hqueue := h.queue command
    rw [hready] at hqueue
    change _ = _ ++ [] at hqueue
    rw [List.append_nil] at hqueue
    rw [register_queue, ← hqueue]
    by_cases hcommand : q.command = command
    · subst hcommand
      rw [Function.update_self, if_pos rfl]
    · rw [Function.update_of_ne (Ne.symm hcommand), if_neg hcommand, List.append_nil]
  · show ((q.register s.calls.length s.handlers).remaining : ℤ)
      = ∑ command, (((q.register s.calls.length s.handlers).queue command).length : ℤ)
    rw [register_remaining, register_queue, sum_update fun queue : List ℕ => (queue.length : ℤ),
      ← h.remaining, List.length_append, List.length_singleton]
    push_cast
    omega
  · exact h.cause
  · exact h.handled
  · show (q.register s.calls.length s.handlers).wasShutdown = true ↔ _
    rw [register_wasShutdown, h.shutdown]
    simp [ShutdownRequested, hready]
  · exact h.once

theorem inv_written (h : s.Inv) (hs : s.step env .written = some s') : s'.Inv := by
  simp only [step] at hs
  split at hs
  next f command hpoint =>
    obtain rfl := Option.some.inj hs
    refine { h with queue := fun command' => ?_, shutdown := ?_ }
    · have hqueue := h.queue command'
      rw [hpoint] at hqueue
      show s.handlers.queue command' = causesOf command' s.inFlight
        ++ Function.update s.pending command (s.pending command ++ [f]) command' ++ []
      rw [hqueue, List.append_nil]
      by_cases hcommand : command = command'
      · subst hcommand
        rw [Function.update_self, ← List.append_assoc]
        simp [writingOf]
      · rw [Function.update_of_ne (Ne.symm hcommand)]
        simp [writingOf, hcommand]
    · show s.handlers.wasShutdown = true ↔ _
      rw [h.shutdown]
      simp [ShutdownRequested, hpoint]
  next => simp at hs

theorem inv_flushAndWait (h : s.Inv) (notifier : ℕ)
    (hs : s.step env (.flushAndWait notifier) = some s') : s'.Inv := by
  simp only [step] at hs
  split_ifs at hs
  obtain rfl := Option.some.inj hs
  have hsame : ∃ notifier', (s.handlers.flushAndWait notifier).2
      = { s.handlers with flushNotifier := notifier' } := by
    unfold ResponseHandlers.flushAndWait
    split_ifs
    · exact ⟨_, rfl⟩
    · exact ⟨_, rfl⟩
  obtain ⟨notifier', hsame⟩ := hsame
  rw [hsame]
  exact ⟨h.calls, h.queue, h.remaining, h.cause, h.handled, h.shutdown, h.once⟩

theorem inv_shutdownAndClose (h : s.Inv) (hs : s.step env .shutdownAndClose = some s') :
    s'.Inv := by
  simp only [step] at hs
  split_ifs at hs with hready
  obtain rfl := Option.some.inj hs
  refine ⟨h.calls, fun command => ?_, h.remaining, h.cause, h.handled, ?_, h.once⟩
  · have hqueue := h.queue command
    rw [hready] at hqueue
    exact hqueue
  · exact ⟨fun _ => .inr rfl, fun _ => rfl⟩

theorem inv_answer (h : s.Inv) (message : ServerMessage)
    (hs : s.step env (.answer message) = some s') : s'.Inv := by
  simp only [step] at hs
  split at hs
  next f rest hpending =>
    obtain rfl := Option.some.inj hs
    have hevent : message.command ≠ .eventStream := by
      intro hevent
      rw [hevent, h.pending_eventStream] at hpending
      cases hpending
    refine { h with queue := fun command => ?_, cause := fun sent hsent => ?_ }
    · show s.handlers.queue command = causesOf command (s.inFlight ++ [⟨some f, message⟩])
        ++ Function.update s.pending message.command rest command
        ++ writingOf command s.managerPoint
      rw [h.queue, causesOf_append, causesOf_some]
      by_cases hcommand : message.command = command
      · subst hcommand
        rw [Function.update_self, if_pos rfl, hpending]
        simp
      · rw [Function.update_of_ne (Ne.symm hcommand), if_neg hcommand, List.append_nil]
    · rcases List.mem_append.1 hsent with hsent | hsent
      · exact h.cause sent hsent
      · obtain rfl := List.mem_singleton.1 hsent
        simp [hevent]
  next => simp at hs

theorem inv_event (h : s.Inv) (event : Event) (hs : s.step env (.event event) = some s') :
    s'.Inv := by
  obtain rfl := Option.some.inj hs
  refine { h with queue := fun command => ?_, cause := fun sent hsent => ?_ }
  · show s.handlers.queue command = causesOf command (s.inFlight ++ [⟨none, .eventStream event⟩])
      ++ s.pending command ++ writingOf command s.managerPoint
    rw [h.queue, causesOf_append, causesOf_none, List.append_nil]
  · rcases List.mem_append.1 hsent with hsent | hsent
    · exact h.cause sent hsent
    · obtain rfl := List.mem_singleton.1 hsent
      simp [ServerMessage.command]

theorem Inv.queue_length_le (h : s.Inv) (command : SandstormCommandType) :
    (s.handlers.queue command).length ≤ s.handlers.remaining := by
  have hle : ((s.handlers.queue command).length : ℤ)
      ≤ ∑ command, ((s.handlers.queue command).length : ℤ) :=
    Finset.single_le_sum (f := fun command => ((s.handlers.queue command).length : ℤ))
      (fun _ _ => Int.natCast_nonneg _) (Finset.mem_univ command)
  rw [← h.remaining] at hle
  exact Int.ofNat_le.1 hle

theorem Inv.mem_callIds_of_cause (h : s.Inv) {command : SandstormCommandType} {f : ℕ}
    (hf : f ∈ causesOf command s.taken) : f ∈ callIds command s.calls := by
  rw [← h.calls]
  exact List.mem_append_left _ hf

theorem Inv.mem_callIds_of_queue (h : s.Inv) {command : SandstormCommandType} {f : ℕ}
    (hf : f ∈ s.handlers.queue command) : f ∈ callIds command s.calls := by
  rw [← h.calls]
  exact List.mem_append_right _ hf

theorem callIds_unique {calls : List ClientRequest} {command command' : SandstormCommandType}
    {f : ℕ} (h : f ∈ callIds command calls) (h' : f ∈ callIds command' calls) :
    command = command' := by
  obtain ⟨q, hq, rfl⟩ := mem_callIds.1 h
  obtain ⟨q', hq', rfl⟩ := mem_callIds.1 h'
  rw [hq, Option.some.injEq] at hq'
  rw [hq']

theorem Inv.queued_unanswered (h : s.Inv) {command : SandstormCommandType} {f : ℕ}
    (hf : f ∈ s.handlers.queue command) : f ∉ (answers s.taken).map Prod.fst := by
  intro hanswered
  obtain ⟨command', hcause⟩ := mem_answers.1 hanswered
  obtain rfl := callIds_unique (h.mem_callIds_of_queue hf) (h.mem_callIds_of_cause hcause)
  have hnodup := nodup_callIds command s.calls
  rw [← h.calls] at hnodup
  exact List.disjoint_of_nodup_append hnodup hcause hf

/-- The task reads an event, or a response whose request's handler is the first of its queue. -/
theorem take_cases (h : s.Inv) (hs : s.step env .take = some s') :
    (∃ event rest sender effects, s.inFlight = ⟨none, .eventStream event⟩ :: rest
      ∧ s' = { s with
        reader := ⟨(), ⟨s.handlers, sender⟩, s.reader.effects ++ effects⟩
        readerPoint := .streaming
        inFlight := rest
        taken := s.taken ++ [⟨none, .eventStream event⟩] }
      ∧ DustDevil.handled effects = [] ∧ flushed effects = [])
    ∨ ∃ f message rest queue sender notifier effects, s.inFlight = ⟨some f, message⟩ :: rest
      ∧ message.command ≠ .eventStream ∧ s.handlers.queue message.command = f :: queue
      ∧ s' = { s with
        reader := ⟨(), ⟨{ s.handlers.pop message.command with flushNotifier := notifier }, sender⟩,
          s.reader.effects ++ effects⟩
        readerPoint := .reading
        inFlight := rest
        taken := s.taken ++ [⟨some f, message⟩] }
      ∧ DustDevil.handled effects = [(f, message)]
      ∧ (flushed effects ≠ [] → (s.handlers.pop message.command).remaining = 0) := by
  simp only [step] at hs
  split at hs
  next sent rest hpoint hflight =>
    have hcause := h.cause sent (by rw [hflight]; exact List.mem_cons_self)
    obtain ⟨_ | f, message⟩ := sent
    · obtain ⟨event, rfl⟩ := ServerMessage.command_eq_eventStream (hcause.1 rfl)
      obtain ⟨sender, effects, harrive, heffects⟩ := arrive_event env s.reader
        event
      rw [harrive] at hs
      exact .inl ⟨event, rest, sender, effects, hflight, (Option.some.inj hs).symm, heffects⟩
    · have hevent : message.command ≠ .eventStream := fun hevent => by
        simpa using hcause.2 hevent
      have hqueue : s.handlers.queue message.command = f :: (causesOf message.command rest
          ++ s.pending message.command ++ writingOf message.command s.managerPoint) := by
        rw [h.queue, hflight, ← List.singleton_append, causesOf_append, causesOf_some, if_pos rfl]
        rfl
      have hremaining : s.handlers.remaining ≠ 0 := by
        have hle := h.queue_length_le message.command
        rw [hqueue, List.length_cons] at hle
        omega
      obtain ⟨sender, notifier, effects, harrive, heffects⟩ := arrive_response env
        s.reader hevent hqueue hremaining
      rw [harrive] at hs
      exact .inr ⟨f, message, rest, _, sender, notifier, effects, hflight, hevent, hqueue,
        (Option.some.inj hs).symm, heffects⟩
  next => simp at hs

theorem inv_take (h : s.Inv) (hs : s.step env .take = some s') : s'.Inv := by
  obtain ⟨event, rest, sender, effects, hflight, rfl, hhandled, -⟩
    | ⟨f, message, rest, queue, sender, notifier, effects, hflight, hevent, hqueue, rfl,
      hhandled, -⟩
    := take_cases h hs
  · refine ⟨fun command => ?_, fun command => ?_, h.remaining, fun sent hsent => ?_, ?_, h.shutdown,
      ?_⟩
    · show causesOf command (s.taken ++ [⟨none, .eventStream event⟩])
        ++ s.handlers.queue command = _
      rw [causesOf_append, causesOf_none, List.append_nil]
      exact h.calls command
    · have hsame := h.queue command
      rw [hflight, ← List.singleton_append, causesOf_append, causesOf_none] at hsame
      exact hsame
    · exact h.cause sent (by rw [hflight]; exact List.mem_cons_of_mem _ hsent)
    · show DustDevil.handled (s.reader.effects ++ effects) = answers (s.taken ++ [_])
      rw [handled_append, hhandled, h.handled, List.append_nil, answers_append, answers_none,
        List.append_nil]
    · show ((answers (s.taken ++ [_])).map Prod.fst).Nodup
      rw [answers_append, answers_none, List.append_nil]
      exact h.once
  · refine ⟨fun command => ?_, fun command => ?_, ?_, fun sent hsent => ?_, ?_, h.shutdown, ?_⟩
    · show causesOf command (s.taken ++ [⟨some f, message⟩])
        ++ (s.handlers.pop message.command).queue command = callIds command s.calls
      rw [← h.calls, causesOf_append, causesOf_some]
      by_cases hcommand : message.command = command
      · subst hcommand
        simp [ResponseHandlers.pop, ResponseHandlers.setQueue, hqueue]
      · simp [ResponseHandlers.pop, ResponseHandlers.setQueue, hcommand, Ne.symm hcommand]
    · show (s.handlers.pop message.command).queue command = causesOf command rest
        ++ s.pending command ++ writingOf command s.managerPoint
      have hsame := h.queue command
      rw [hflight, ← List.singleton_append, causesOf_append, causesOf_some] at hsame
      by_cases hcommand : message.command = command
      · subst hcommand
        rw [if_pos rfl, hqueue] at hsame
        simp only [ResponseHandlers.pop, ResponseHandlers.setQueue, Function.update_self, hqueue,
          List.tail_cons]
        simpa using hsame
      · rw [if_neg hcommand] at hsame
        simpa [ResponseHandlers.pop, ResponseHandlers.setQueue, Ne.symm hcommand] using hsame
    · show ((s.handlers.pop message.command).remaining : ℤ)
        = ∑ command, (((s.handlers.pop message.command).queue command).length : ℤ)
      have hle := h.queue_length_le message.command
      have hsum := sum_update (fun queue : List ℕ => (queue.length : ℤ)) s.handlers.queue
        message.command (s.handlers.queue message.command).tail
      rw [← h.remaining] at hsum
      simp only [ResponseHandlers.pop, ResponseHandlers.setQueue]
      rw [hsum, List.length_tail]
      rw [hqueue, List.length_cons] at hle ⊢
      push_cast
      omega
    · exact h.cause sent (by rw [hflight]; exact List.mem_cons_of_mem _ hsent)
    · show DustDevil.handled (s.reader.effects ++ effects) = answers (s.taken ++ [_])
      rw [handled_append, hhandled, h.handled, answers_append, answers_some]
    · show ((answers (s.taken ++ [_])).map Prod.fst).Nodup
      rw [answers_append, answers_some, List.map_append]
      refine h.once.append (List.nodup_singleton f) (List.disjoint_singleton.2 ?_)
      exact h.queued_unanswered (by rw [hqueue]; exact List.mem_cons_self)

theorem inv_streamed (h : s.Inv) (hs : s.step env .streamed = some s') : s'.Inv := by
  simp only [step] at hs
  split at hs
  next =>
    obtain rfl := Option.some.inj hs
    obtain ⟨notifier, effects, hflush, heffects⟩ := notifyFlush_apply s.reader
    rw [hflush]
    refine ⟨h.calls, h.queue, h.remaining, h.cause, ?_, h.shutdown, h.once⟩
    show DustDevil.handled (s.reader.effects ++ effects) = answers s.taken
    rw [handled_append, h.handled]
    rcases heffects with rfl | ⟨-, sender, rfl⟩ <;> exact List.append_nil _
  next => simp at hs

theorem inv_endOfStream (h : s.Inv) (hs : s.step env .endOfStream = some s') : s'.Inv := by
  simp only [step] at hs
  split at hs
  next =>
    obtain rfl := Option.some.inj hs
    exact ⟨h.calls, h.queue, h.remaining, h.cause, h.handled, h.shutdown, h.once⟩
  next => simp at hs

theorem inv_step (s : Session) (action : SessionAction) (s' : Session) (h : s.Inv)
    (hs : s.step env action = some s') : s'.Inv := by
  cases action with
  | call q => exact inv_call h q hs
  | written => exact inv_written h hs
  | flushAndWait notifier => exact inv_flushAndWait h notifier hs
  | shutdownAndClose => exact inv_shutdownAndClose h hs
  | answer message => exact inv_answer h message hs
  | event event => exact inv_event h event hs
  | take => exact inv_take h hs
  | streamed => exact inv_streamed h hs
  | endOfStream => exact inv_endOfStream h hs

theorem inv_run {actions : List SessionAction} (hs : run env start actions = some s) : s.Inv :=
  runSteps_keeps inv_step inv_start hs

end Steps

/-! ## When the stream ends -/

section End

variable {env : ReaderEnv} {s s' : Session}

theorem Inv.unanswered_queued (h : s.Inv) {f : ℕ} {q : ClientRequest} (hq : s.calls[f]? = some q)
    (hf : f ∉ (answers s.taken).map Prod.fst) : f ∈ s.handlers.queue q.command := by
  have hmem : f ∈ callIds q.command s.calls := mem_callIds.2 ⟨q, hq, rfl⟩
  rw [← h.calls] at hmem
  rcases List.mem_append.1 hmem with hcause | hqueue
  · exact absurd (mem_answers.2 ⟨_, hcause⟩) hf
  · exact hqueue

/-- Nothing remains, or only the handlers of shutdowns, exactly if all the other queues are
empty. -/
theorem Inv.remaining_iff (h : s.Inv) :
    (s.handlers.remaining = 0 ∨ s.handlers.remaining = (s.handlers.queue .shutdown).length)
      ↔ ∀ command, command ≠ .shutdown → s.handlers.queue command = [] := by
  have hsum := h.remaining
  constructor
  · intro hremaining command hcommand
    have hpair : ∑ c ∈ {command, SandstormCommandType.shutdown}, ((s.handlers.queue c).length : ℤ)
        ≤ ∑ c, ((s.handlers.queue c).length : ℤ) :=
      Finset.sum_le_univ_sum_of_nonneg fun _ => Int.natCast_nonneg _
    rw [Finset.sum_pair hcommand, ← hsum] at hpair
    refine List.length_eq_zero_iff.1 ?_
    omega
  · intro hempty
    right
    rw [Finset.sum_eq_single .shutdown (fun c _ hc => by rw [hempty c hc]; rfl)
      fun hmem => absurd (Finset.mem_univ _) hmem] at hsum
    exact Int.natCast_inj.1 hsum

theorem finish_eq_ok (handlers : ResponseHandlers) : handlers.finish = .ok ()
    ↔ handlers.wasShutdown = true ∧ (handlers.remaining = 0
      ∨ handlers.remaining = (handlers.queue .shutdown).length) := by
  unfold ResponseHandlers.finish
  by_cases hshutdown : handlers.wasShutdown = true
  · by_cases hzero : handlers.remaining = 0
    · simp [hshutdown, hzero]
    · by_cases hlength : handlers.remaining = (handlers.queue .shutdown).length
      · rw [if_pos hshutdown, if_neg hzero, if_pos hlength]
        exact ⟨fun _ => ⟨hshutdown, .inr hlength⟩, fun _ => rfl⟩
      · rw [if_pos hshutdown, if_neg hzero, if_neg hlength]
        exact ⟨nofun, fun h => (h.2.elim hzero hlength).elim⟩
  · rw [if_neg hshutdown]
    exact ⟨nofun, fun h => absurd h.1 hshutdown⟩

theorem readerEnd_eq_ok (reader : ReaderConn Unit) :
    (readerEnd reader).1 = .ok () ↔ reader.state.handlers.finish = .ok () := by
  unfold readerEnd
  rw [Proc.bind_ok (Proc.get_apply _)]
  rcases reader.state.handlers.finish with e | _
  · exact ⟨nofun, nofun⟩
  · exact ⟨fun _ => rfl, fun _ => rfl⟩

theorem command_eq_shutdown {q : ClientRequest} : q.command = .shutdown ↔ q = .shutdown := by
  cases q <;> simp [ClientRequest.command]

/-- Every request that has not been answered is a shutdown. -/
def OnlyShutdownsLeft (s : Session) : Prop :=
  ∀ f q, s.calls[f]? = some q → f ∉ (answers s.taken).map Prod.fst → q = .shutdown

theorem Inv.onlyShutdownsLeft_iff (h : s.Inv) :
    s.OnlyShutdownsLeft ↔ ∀ command, command ≠ .shutdown → s.handlers.queue command = [] := by
  constructor
  · intro hleft command hcommand
    refine List.eq_nil_iff_forall_not_mem.2 fun f hf => hcommand ?_
    obtain ⟨q, hq, rfl⟩ := mem_callIds.1 (h.mem_callIds_of_queue hf)
    rw [hleft f q hq (h.queued_unanswered hf)]
    rfl
  · intro hempty f q hq hf
    by_contra hne
    have hqueue := h.unanswered_queued hq hf
    rw [hempty q.command fun hcommand => hne (command_eq_shutdown.1 hcommand)] at hqueue
    exact absurd hqueue List.not_mem_nil

theorem end_ok_iff (h : s.Inv) (hs : s.step env .endOfStream = some s') :
    s'.readerPoint = .ended (.ok ()) ↔ s.ShutdownRequested ∧ s.OnlyShutdownsLeft := by
  simp only [step] at hs
  split at hs
  next =>
    obtain rfl := Option.some.inj hs
    rw [h.onlyShutdownsLeft_iff, ← h.remaining_iff, ← h.shutdown, ReaderPoint.ended.injEq,
      readerEnd_eq_ok]
    exact finish_eq_ok s.handlers
  next => simp at hs

end End

/-! ## Any run -/

section Run

variable {env : ReaderEnv} {s s' : Session}

/-- The task goes on from a step, unless that is the end of the stream, and tells a flush in it only
if nothing remains then. -/
def GoesOn (s s' : Session) (action : SessionAction) : Prop :=
  (∃ effects, s'.reader.effects = s.reader.effects ++ effects
    ∧ (flushed effects ≠ [] → s'.handlers.remaining = 0))
  ∧ ((∃ result, s'.readerPoint = .ended result) → action = .endOfStream
    ∨ s'.readerPoint = s.readerPoint)

theorem goesOn_step (h : s.Inv) {action : SessionAction} (hs : s.step env action = some s') :
    s.GoesOn s' action := by
  have hquiet (hreader : s'.reader.effects = s.reader.effects)
      (hpoint : s'.readerPoint = s.readerPoint) : s.GoesOn s' action :=
    ⟨⟨[], by rw [hreader, List.append_nil], fun hne => absurd rfl hne⟩, fun _ => .inr hpoint⟩
  cases action with
  | call | flushAndWait | shutdownAndClose =>
    simp only [step] at hs
    split_ifs at hs
    obtain rfl := Option.some.inj hs
    exact hquiet rfl rfl
  | written | answer =>
    simp only [step] at hs
    split at hs
    · obtain rfl := Option.some.inj hs
      exact hquiet rfl rfl
    · simp at hs
  | event =>
    obtain rfl := Option.some.inj hs
    exact hquiet rfl rfl
  | take =>
    obtain ⟨event, rest, sender, effects, -, rfl, -, hflushed⟩
      | ⟨f, message, rest, queue, sender, notifier, effects, -, -, -, rfl, -, hflushed⟩
      := take_cases h hs
    · exact ⟨⟨effects, rfl, fun hne => absurd hflushed hne⟩, nofun⟩
    · exact ⟨⟨effects, rfl, hflushed⟩, nofun⟩
  | streamed =>
    simp only [step] at hs
    split at hs
    next =>
      obtain rfl := Option.some.inj hs
      obtain ⟨notifier, effects, hflush, heffects⟩ := notifyFlush_apply s.reader
      rw [hflush]
      refine ⟨⟨effects, rfl, ?_⟩, nofun⟩
      rcases heffects with rfl | ⟨hzero, sender, rfl⟩
      · exact fun hne => absurd rfl hne
      · exact fun _ => hzero
    next => simp at hs
  | endOfStream =>
    simp only [step] at hs
    split at hs
    · obtain rfl := Option.some.inj hs
      exact ⟨⟨[], (List.append_nil _).symm, fun hne => absurd rfl hne⟩, fun _ => .inl rfl⟩
    · simp at hs

/-- What holds whenever. -/
structure Sound (env : ReaderEnv) (s : Session) : Prop where
  /-- The handlers that have run are those of the requests that the responses answer. -/
  matched : handled s.reader.effects = answers s.taken
  once : ((handled s.reader.effects).map Prod.fst).Nodup
  /-- Each handler is one of a request of the response's command. -/
  own : ∀ f message, (f, message) ∈ handled s.reader.effects →
    ∃ q, s.calls[f]? = some q ∧ q.command = message.command
  counted : s.handlers.remaining = ∑ command, (s.handlers.queue command).length
  flush : ∀ notifier, (s.handlers.flushAndWait notifier).1 = true → s.handlers.remaining = 0
  goesOn : ∀ action s', s.step env action = some s' → s.GoesOn s' action
  ended : ∀ s', s.step env .endOfStream = some s' →
    (s'.readerPoint = .ended (.ok ()) ↔ s.ShutdownRequested ∧ s.OnlyShutdownsLeft)

theorem Inv.own (h : s.Inv) {f : ℕ} {message : ServerMessage}
    (hf : (f, message) ∈ answers s.taken) :
    ∃ q, s.calls[f]? = some q ∧ q.command = message.command := by
  obtain ⟨sent, hsent, hcause⟩ := List.mem_filterMap.1 hf
  rw [Option.map_eq_some_iff] at hcause
  obtain ⟨f, hcause, heq⟩ := hcause
  simp only [Prod.mk.injEq] at heq
  obtain ⟨rfl, rfl⟩ := heq
  refine mem_callIds.1 (h.mem_callIds_of_cause (List.mem_filterMap.2 ⟨sent, hsent, ?_⟩))
  rw [if_pos rfl, hcause]

/-- In whatever order the calls are made, written and answered, and the messages are read, all of it
holds. -/
theorem sound_run {actions : List SessionAction} (hs : run env start actions = some s) :
    s.Sound env := by
  have h := inv_run hs
  refine ⟨h.handled, by rw [h.handled]; exact h.once, fun f message hf => ?_, ?_, ?_,
    fun _ _ hs' => goesOn_step h hs', fun _ hs' => end_ok_iff h hs'⟩
  · rw [h.handled] at hf
    exact h.own hf
  · have hremaining := h.remaining
    rw [← Nat.cast_sum] at hremaining
    exact Int.natCast_inj.1 hremaining
  · intro notifier hflush
    unfold ResponseHandlers.flushAndWait at hflush
    split_ifs at hflush with hremaining
    exact not_not.1 hremaining

/-- A meow that is answered, and a shutdown that is not. -/
def meowAndShutdown : List SessionAction :=
  [.call .meow, .written, .call .shutdown, .answer .meow, .written, .take]

theorem sound_run_meowAndShutdown :
    ∃ s, run quietEnv start meowAndShutdown = some s ∧ s.Sound quietEnv
      ∧ s.handlers.remaining = 1 :=
  ⟨_, rfl, sound_run (show run quietEnv start meowAndShutdown = some _ from rfl), rfl⟩

end Run

end Session

end DustDevil
