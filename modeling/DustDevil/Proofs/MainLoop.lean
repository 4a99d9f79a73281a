import Mathlib.Data.Multiset.AddSub
import DustDevil.Lib.Trace
import DustDevil.Proofs.Logger
import DustDevil.Server.MainLoop
import DustDevil.Server.Startup

/-!
# The main loop's sockets and connections

The main loop is a table of addresses that managers ask and change: it answers their messages one
after the other as the table does, and what it sends to the log tells what the table is
(`sockets_served`). Whatever the tasks of the connections do meanwhile, each connection's events lie
between the one that it was accepted and the one that it has finished, and no two connections share
an id (`events_inLife`).
-/

namespace DustDevil

open Wire

/-! ## The table -/

/-- The addresses at which the server listens. -/
abbrev SocketTable := ConnectionKind → Multiset SocketAddr

namespace SocketTable

def add (table : SocketTable) (kind : ConnectionKind) (address : SocketAddr) : SocketTable :=
  Function.update table kind (address ::ₘ table kind)

def remove (table : SocketTable) (kind : ConnectionKind) (address : SocketAddr) : SocketTable :=
  Function.update table kind ((table kind).erase address)

/-- A new address, unless its bind fails. -/
def serveAdd (table : SocketTable) (kind : ConnectionKind) (address : SocketAddr)
    (bind : Except IoError Listener) : SocketTable × MainAnswer (Multiset SocketAddr) :=
  if address.port = 0 then (table, .added (.error portZero))
  else
    match bind with
    | .ok _ => (table.add kind address, .added (.ok ()))
    | .error e => (table, .added (.error e))

def serveRemove (table : SocketTable) (kind : ConnectionKind) (address : SocketAddr) :
    SocketTable × MainAnswer (Multiset SocketAddr) :=
  if address ∈ table kind then (table.remove kind address, .removed .ok)
  else (table, .removed .socketNotFound)

def serve (table : SocketTable) :
    MessageType × Except IoError Listener → SocketTable × MainAnswer (Multiset SocketAddr)
  | (.shutdownRequest, _) => (table, .shutdown)
  | (.listSocks5Sockets, _) => (table, .sockets (table .client))
  | (.addSocks5Socket address, bind) => table.serveAdd .client address bind
  | (.removeSocks5Socket address, _) => table.serveRemove .client address
  | (.listSandstormSockets, _) => (table, .sockets (table .sandstorm))
  | (.addSandstormSocket address, bind) => table.serveAdd .sandstorm address bind
  | (.removeSandstormSocket address, _) => table.serveRemove .sandstorm address

def serveAll (table : SocketTable) :
    List (MessageType × Except IoError Listener) →
      SocketTable × List (MainAnswer (Multiset SocketAddr))
  | [] => (table, [])
  | message :: messages =>
    let (table, answer) := table.serve message
    let (table, answers) := table.serveAll messages
    (table, answer :: answers)

theorem serveAll_concat (message : MessageType × Except IoError Listener) :
    ∀ (messages : List (MessageType × Except IoError Listener)) (table : SocketTable),
      table.serveAll (messages ++ [message])
        = (((table.serveAll messages).1.serve message).1,
          (table.serveAll messages).2 ++ [((table.serveAll messages).1.serve message).2])
  | [], _ => rfl
  | m :: messages, table => by
    simp only [List.cons_append, serveAll, serveAll_concat message messages]

/-- What an event tells of the addresses. -/
def see (table : SocketTable) : EventData → SocketTable
  | .newSocks5Socket address => table.add .client address
  | .removedSocks5Socket address => table.remove .client address
  | .newSandstormSocket address => table.add .sandstorm address
  | .removedSandstormSocket address => table.remove .sandstorm address
  | _ => table

end SocketTable

/-- The table that the events tell of. -/
def told (events : List EventData) : SocketTable := events.foldl SocketTable.see fun _ => 0

theorem told_append (events events' : List EventData) :
    told (events ++ events') = events'.foldl SocketTable.see (told events) :=
  List.foldl_append

@[simp] theorem told_snoc (events : List EventData) (event : EventData) :
    told (events ++ [event]) = (told events).see event := told_append events [event]

/-- The event is none of those that tell of an address. -/
def EventData.TellsNoSocket (event : EventData) : Prop :=
  ∀ table : SocketTable, table.see event = table

theorem told_append_of_tellsNoSocket (events : List EventData) {events' : List EventData}
    (h : ∀ e ∈ events', e.TellsNoSocket) : told (events ++ events') = told events := by
  rw [told_append]
  induction events' with
  | nil => rfl
  | cons e events' ih =>
    obtain ⟨he, h⟩ := List.forall_mem_cons.1 h
    rw [List.foldl_cons, he, ih h]

theorem EventData.tellsNoSocket_of_connection {event : EventData}
    {connection : ConnectionKind × ℕ} (h : event.connection = some connection) :
    event.TellsNoSocket := by
  intro table
  cases event <;> first | rfl | simp [EventData.connection] at h

/-! ## The sockets -/

section Sockets

/-- A bind for the address gives a listener at it. -/
def BindsAddress (address : SocketAddr) (bind : Except IoError Listener) : Prop :=
  ∀ listener, bind = .ok listener → listener.localAddr = some address

/-- An operation on the listeners of a kind is the table's. -/
structure Performs (table : SocketTable) (kind : ConnectionKind)
    (result : List Listener × List EventData × MainAnswer (List SocketAddr))
    (expected : SocketTable × MainAnswer (Multiset SocketAddr)) : Prop where
  listeners : Function.update table kind (localAddrs result.1) = expected.1
  events : result.2.1.foldl SocketTable.see table = expected.1
  answer : result.2.2.map Multiset.ofList = expected.2

variable {table : SocketTable} {kind : ConnectionKind} {listeners : List Listener}
  {address : SocketAddr}

theorem update_localAddrs (h : table kind = localAddrs listeners) :
    Function.update table kind (localAddrs listeners : Multiset SocketAddr) = table := by
  rw [← h, Function.update_eq_self]

theorem see_newSocket : table.see (kind.newSocket address) = table.add kind address := by
  cases kind <;> rfl

theorem see_removedSocket : table.see (kind.removedSocket address) = table.remove kind address := by
  cases kind <;> rfl

theorem tellsNoSocket_failedBind (e : IoError) : (kind.failedBind address e).TellsNoSocket := by
  cases kind <;> exact fun _ => rfl

theorem performs_listSockets (h : table kind = localAddrs listeners) :
    Performs table kind (listeners, [], .sockets (localAddrs listeners))
      (table, .sockets (table kind)) :=
  ⟨update_localAddrs h, rfl, by rw [h]; rfl⟩

theorem performs_addSocket (h : table kind = localAddrs listeners) {bind : Except IoError Listener}
    (hbind : address.port ≠ 0 → BindsAddress address bind) :
    Performs table kind (addSocket kind address bind listeners)
      (table.serveAdd kind address bind) := by
  unfold addSocket SocketTable.serveAdd
  by_cases hport : address.port = 0
  · rw [if_pos hport, if_pos hport]
    exact ⟨update_localAddrs h, rfl, rfl⟩
  rw [if_neg hport, if_neg hport]
  rcases bind with e | result
  · exact ⟨update_localAddrs h, tellsNoSocket_failedBind e table, rfl⟩
  · have hlocal : localAddrs (listeners ++ [result]) = localAddrs listeners ++ [address] := by
      simp [localAddrs, hbind hport result rfl]
    have hperm : ((localAddrs listeners ++ [address] : List SocketAddr) : Multiset SocketAddr)
        = address ::ₘ table kind := by
      rw [h, Multiset.cons_coe]
      exact Multiset.coe_eq_coe.2 (List.perm_append_singleton address (localAddrs listeners))
    exact ⟨by rw [hlocal, hperm]; rfl, see_newSocket, rfl⟩

theorem mem_table (h : table kind = localAddrs listeners) :
    address ∈ table kind ↔ ∃ l ∈ listeners, l.localAddr = some address := by
  rw [h, Multiset.mem_coe]
  exact List.mem_filterMap

theorem performs_removeSocket (h : table kind = localAddrs listeners) :
    Performs table kind (removeSocket kind address listeners)
      (table.serveRemove kind address) := by
  unfold removeSocket SocketTable.serveRemove
  rcases hfind : listeners.findIdx? (fun l => l.localAddr = some address) with _ | i <;>
    rw [hfind]
  · have hnone := List.findIdx?_eq_none_iff.1 hfind
    rw [if_neg ((mem_table h).not.2 (by simpa using hnone))]
    exact ⟨update_localAddrs h, rfl, rfl⟩
  · obtain ⟨hlt, hlocal, -⟩ := List.findIdx?_eq_some_iff_getElem.1 hfind
    have hlocal' : listeners[i].localAddr = some address := of_decide_eq_true hlocal
    rw [if_pos ((mem_table h).2 ⟨listeners[i], List.getElem_mem hlt, hlocal'⟩)]
    have hperm : (address :: localAddrs (swapRemove listeners i)).Perm (localAddrs listeners) := by
      have hswap := (swapRemove_perm (List.getElem?_eq_getElem hlt)).filterMap Listener.localAddr
      rwa [List.filterMap_cons_some hlocal'] at hswap
    have herase : ((localAddrs (swapRemove listeners i) : List SocketAddr) : Multiset SocketAddr)
        = (table kind).erase address := by
      rw [h, ← Multiset.coe_eq_coe.2 hperm, ← Multiset.cons_coe, Multiset.erase_cons_head]
    exact ⟨by rw [herase]; rfl, see_removedSocket, rfl⟩

end Sockets

/-- The address that a message asks the loop to bind. -/
def MessageType.binds : MessageType → Option SocketAddr
  | addSocks5Socket address => some address
  | addSandstormSocket address => some address
  | _ => none

/-- The message that a manager's task sends. -/
def ServerAction.sends : ServerAction → Option MessageType
  | .message _ sent => some sent
  | _ => none

namespace Server

section Serve

/-- The addresses of the listeners. -/
def sockets (s : Server) : SocketTable := fun kind => localAddrs (s.listeners kind)

theorem sockets_setListeners (s : Server) (kind : ConnectionKind) (listeners : List Listener) :
    (s.setListeners kind listeners).sockets
      = Function.update s.sockets kind (localAddrs listeners : Multiset SocketAddr) := by
  funext kind'
  rcases eq_or_ne kind' kind with rfl | hne
  · simp [sockets, setListeners]
  · simp [sockets, setListeners, hne]

/-- The loop is about to give the message this answer, and has made its table this. -/
structure Answering (s : Server) (message : MessageType)
    (expected : SocketTable × MainAnswer (Multiset SocketAddr)) : Prop where
  sockets : s.sockets = expected.1
  told : told s.events = expected.1
  answer : ∃ answer, s.point = .answering message answer ∧ answer.map Multiset.ofList = expected.2

variable {s : Server}

theorem answering_operate {kind : ConnectionKind} (message : MessageType)
    {result : List Listener × List EventData × MainAnswer (List SocketAddr)}
    {expected : SocketTable × MainAnswer (Multiset SocketAddr)}
    (htold : s.sockets = DustDevil.told s.events) (h : Performs s.sockets kind result expected) :
    (s.operate message kind result).Answering message expected where
  sockets := (sockets_setListeners s kind result.1).trans h.listeners
  told := (told_append _ _).trans (htold ▸ h.events)
  answer := ⟨_, rfl, h.answer⟩

theorem answering_serve {message : MessageType} {bind : Except IoError Listener}
    (htold : s.sockets = DustDevil.told s.events)
    (hbind : ∀ address, message.binds = some address → address.port ≠ 0 →
      BindsAddress address bind) :
    (s.serve message bind).Answering message (s.sockets.serve (message, bind)) := by
  cases message with
  | shutdownRequest => exact ⟨rfl, htold.symm, .shutdown, rfl, rfl⟩
  | listSocks5Sockets => exact answering_operate _ htold (performs_listSockets rfl)
  | addSocks5Socket address =>
    exact answering_operate _ htold (performs_addSocket rfl (hbind address rfl))
  | removeSocks5Socket address => exact answering_operate _ htold (performs_removeSocket rfl)
  | listSandstormSockets => exact answering_operate _ htold (performs_listSockets rfl)
  | addSandstormSocket address =>
    exact answering_operate _ htold (performs_addSocket rfl (hbind address rfl))
  | removeSandstormSocket address => exact answering_operate _ htold (performs_removeSocket rfl)

end Serve

/-! ## What a step does -/

section Step

/-- The event is about no connection and no address. -/
def General (event : EventData) : Prop := event.connection = none ∧ event.TellsNoSocket

/-- All that a step can do. -/
inductive Does (s : Server) : ServerAction → Server → Prop where
  | receives {message : MessageType} {channel : List MessageType} {bind : Except IoError Listener}
      (hpoint : s.point = .selecting) (hchannel : s.channel = message :: channel) :
      Does s (.receive bind) ({ s with
        channel := channel
        received := s.received ++ [(message, bind)] }.serve message bind)
  | answers {message : MessageType} {answer : MainAnswer (List SocketAddr)} {point : MainPoint}
      (hpoint : s.point = .answering message answer)
      (hpoint' : point = .exited ∨ point = .selecting) :
      Does s .answer { s with answers := s.answers ++ [answer], point := point }
  | spawns {kind : ConnectionKind} {polls : List (Poll (Except IoError SocketAddr))}
      {address : SocketAddr} : Does s (.accept kind polls) (s.spawn kind address)
  | reports {action : ServerAction} {event : EventData} {point : MainPoint}
      (haction : action.sends = none) (h : General event)
      (hpoint : s.point = .selecting ∧ (point = .selecting ∨ point = .exited)
        ∨ s.point = .saving ∧ point = .done) :
      Does s action { s.send [event] with point := point }
  | cancels (hpoint : s.point = .exited) :
      Does s .cancel { s.send [.savingUsersToFile s.usersFile] with
        listeners := fun _ => []
        point := .saving
        cancelled := true }
  | logs {connection : ConnectionKind × ℕ} {event : EventData} (hrunning : s.running connection)
      (hwithin : event.Within connection) : Does s (.log connection event) (s.send [event])
  | messages {managerId : ℕ} {message : MessageType} :
      Does s (.message managerId message)
        { s with channel := s.channel ++ if s.cancelled then [] else [message] }
  | finishes {connection : ConnectionKind × ℕ} {event : EventData}
      (hrunning : s.running connection) (hconnection : event.connection = some connection)
      (hfinished : event.finished = some connection) :
      Does s (.finish connection event) ((s.send [event]).setRunning connection false)
  | stops {connection : ConnectionKind × ℕ} :
      Does s (.stop connection) (s.setRunning connection false)

theorem does_accept {s s' : Server} {kind : ConnectionKind}
    {polls : List (Poll (Except IoError SocketAddr))}
    (h : s.step (.accept kind polls) = some s') : s.Does (.accept kind polls) s' := by
  simp only [step] at h
  split at h
  · obtain rfl := Option.some.inj h
    exact .spawns
  · rename_i listener e hpoint haccept
    obtain rfl := Option.some.inj h
    have hreport : Does s (.accept kind polls) { s.send [.clientConnectionAcceptFailed
        listener.localAddr e] with point := .selecting } :=
      .reports rfl ⟨rfl, fun _ => rfl⟩ (.inl ⟨hpoint, .inl rfl⟩)
    rw [← hpoint] at hreport
    exact hreport
  · cases h

theorem step_does {s s' : Server} {action : ServerAction} (h : s.step action = some s') :
    s.Does action s' := by
  cases action with
  | accept kind polls => exact does_accept h
  | receive bind =>
    simp only [step] at h
    split at h
    · rename_i hpoint hchannel
      obtain rfl := Option.some.inj h
      exact .receives hpoint hchannel
    · cases h
  | answer =>
    simp only [step] at h
    split at h
    · rename_i hpoint
      obtain rfl := Option.some.inj h
      exact .answers hpoint (by split_ifs <;> simp)
    · cases h
  | interrupt =>
    simp only [step] at h
    split at h
    · rename_i hpoint
      obtain rfl := Option.some.inj h
      exact .reports rfl ⟨rfl, fun _ => rfl⟩ (.inl ⟨hpoint, .inr rfl⟩)
    · cases h
  | cancel =>
    simp only [step] at h
    split at h
    · rename_i hpoint
      obtain rfl := Option.some.inj h
      exact .cancels hpoint
    · cases h
  | saved result =>
    simp only [step] at h
    split at h
    · rename_i hpoint
      obtain rfl := Option.some.inj h
      exact .reports rfl ⟨rfl, fun _ => rfl⟩ (.inr ⟨hpoint, rfl⟩)
    · cases h
  | log connection event =>
    simp only [step] at h
    split_ifs at h with hlog
    obtain rfl := Option.some.inj h
    exact .logs hlog.1 hlog.2
  | message managerId message =>
    simp only [step] at h
    have hmessages := @Does.messages s managerId message
    split_ifs at h with hrunning hcancelled
    · obtain rfl := Option.some.inj h
      rwa [if_pos hcancelled, List.append_nil] at hmessages
    · obtain rfl := Option.some.inj h
      rwa [if_neg hcancelled] at hmessages
  | finish connection event =>
    simp only [step] at h
    split_ifs at h with hfinish
    obtain rfl := Option.some.inj h
    exact .finishes hfinish.1 hfinish.2.1 hfinish.2.2
  | stop connection =>
    simp only [step] at h
    split_ifs at h
    obtain rfl := Option.some.inj h
    exact .stops

end Step

/-! ## Runs -/

section Sockets

/-- The answer that the loop is about to send. -/
def pending (s : Server) : List (MainAnswer (List SocketAddr)) :=
  match s.point with
  | .answering _ answer => [answer]
  | _ => []

/-- All that the loop has decided is what the table would have. -/
structure Served (table : SocketTable) (s : Server) : Prop where
  serveAll : table.serveAll s.received
    = (told s.events, (s.answers ++ s.pending).map (MainAnswer.map Multiset.ofList))
  sockets : s.cancelled = false → s.sockets = told s.events
  cancelled : s.cancelled = true → s.point = .saving ∨ s.point = .done

/-- What the loop is told to bind, it binds. -/
def BindsAsked (s : Server) : ServerAction → Prop
  | .receive bind => ∀ message ∈ s.channel.head?, ∀ address, message.binds = some address →
      address.port ≠ 0 → BindsAddress address bind
  | _ => True

variable {s s' : Server} {table : SocketTable}

theorem pending_eq_nil (h : s.point = .selecting ∨ s.point = .exited ∨ s.point = .saving
    ∨ s.point = .done) : s.pending = [] := by
  rcases h with h | h | h | h <;> rw [pending, h]

theorem serve_same (message : MessageType) (bind : Except IoError Listener) :
    (s.serve message bind).received = s.received ∧ (s.serve message bind).answers = s.answers
      ∧ (s.serve message bind).cancelled = s.cancelled := by
  cases message <;> exact ⟨rfl, rfl, rfl⟩

theorem Served.notCancelled (h : Served table s) (hpoint : s.point ≠ .saving ∧ s.point ≠ .done) :
    s.cancelled = false := by
  rcases hcancelled : s.cancelled with _ | _
  · rfl
  · rcases h.cancelled hcancelled with hsaving | hdone
    · exact absurd hsaving hpoint.1
    · exact absurd hdone hpoint.2

theorem Served.receive (h : Served table s) {message : MessageType} {channel : List MessageType}
    {bind : Except IoError Listener} (hpoint : s.point = .selecting)
    (hbind : ∀ address, message.binds = some address → address.port ≠ 0 →
      BindsAddress address bind) :
    Served table ({ s with
      channel := channel
      received := s.received ++ [(message, bind)] }.serve message bind) := by
  have hcancelled : s.cancelled = false := h.notCancelled (by simp [hpoint])
  have htold := h.sockets hcancelled
  set s1 : Server := { s with channel := channel, received := s.received ++ [(message, bind)] }
  have hserve : (s1.serve message bind).Answering message (s.sockets.serve (message, bind)) :=
    answering_serve htold hbind
  obtain ⟨hreceived, hanswers, hsame⟩ := serve_same (s := s1) message bind
  obtain ⟨answer, hanswering, hanswer⟩ := hserve.answer
  have hpending : s.pending = [] := pending_eq_nil (.inl hpoint)
  have hpending' : (s1.serve message bind).pending = [answer] := by rw [pending, hanswering]
  constructor
  · rw [hreceived, SocketTable.serveAll_concat, h.serveAll, hserve.told, hanswers, hpending',
      hpending, htold]
    simp [htold ▸ hanswer, s1]
  · exact fun _ => hserve.sockets.trans hserve.told.symm
  · intro htrue
    rw [hsame] at htrue
    exact absurd htrue (by simp [s1, hcancelled])

theorem Served.keep (h : Served table s) (hreceived : s'.received = s.received)
    (htold : told s'.events = told s.events)
    (hanswers : s'.answers ++ s'.pending = s.answers ++ s.pending)
    (hsockets : s'.cancelled = false → s.cancelled = false ∧ s'.sockets = s.sockets)
    (hcancelled : s'.cancelled = true → s'.point = .saving ∨ s'.point = .done) :
    Served table s' where
  serveAll := by rw [hreceived, htold, hanswers, h.serveAll]
  sockets hfalse := by
    obtain ⟨hfalse, hsockets⟩ := hsockets hfalse
    rw [hsockets, htold, h.sockets hfalse]
  cancelled := hcancelled

theorem told_send_general {event : EventData} (h : event.TellsNoSocket) :
    told (s.send [event]).events = told s.events :=
  told_append_of_tellsNoSocket s.events (by simpa using h)

theorem Served.step (h : Served table s) {action : ServerAction} (hbinds : s.BindsAsked action)
    (hstep : s.step action = some s') : Served table s' := by
  cases step_does hstep with
  | receives hpoint hchannel =>
    exact h.receive hpoint (hbinds _ (by rw [hchannel]; rfl))
  | answers hpoint hpoint' =>
    have hcancelled := h.notCancelled (by simp [hpoint])
    refine h.keep rfl rfl ?_ (fun _ => ⟨hcancelled, rfl⟩) (fun htrue => ?_)
    · rw [pending_eq_nil (s := { s with answers := _, point := _ }) (by tauto)]
      simp [pending, hpoint]
    · exact absurd htrue (by simp [hcancelled])
  | @spawns kind _ address =>
    refine h.keep rfl (told_send_general ?_) rfl (fun hfalse => ⟨hfalse, rfl⟩) h.cancelled
    cases kind <;> exact fun _ => rfl
  | reports _ hgeneral hpoint =>
    refine h.keep rfl (told_send_general hgeneral.2) ?_ (fun hfalse => ⟨hfalse, rfl⟩)
      (fun htrue => ?_)
    · rw [pending_eq_nil (s := s) (by tauto), pending_eq_nil (by tauto)]
      rfl
    · rcases hpoint with ⟨hselecting, -⟩ | ⟨-, hdone⟩
      · have hfalse := h.notCancelled (by simp [hselecting])
        exact absurd htrue (by simp [send, hfalse])
      · exact .inr hdone
  | cancels hpoint =>
    refine h.keep rfl (told_send_general fun _ => rfl) ?_ (fun hfalse => ?_)
      (fun _ => .inl rfl)
    · rw [pending_eq_nil (s := s) (by tauto), pending_eq_nil (.inr (.inr (.inl rfl)))]
      rfl
    · cases hfalse
  | logs hrunning hwithin =>
    exact h.keep rfl (told_send_general (EventData.tellsNoSocket_of_connection hwithin.1)) rfl
      (fun hfalse => ⟨hfalse, rfl⟩) h.cancelled
  | messages => exact h.keep rfl rfl rfl (fun hfalse => ⟨hfalse, rfl⟩) h.cancelled
  | finishes hrunning hconnection hfinished =>
    exact h.keep rfl (told_send_general (EventData.tellsNoSocket_of_connection hconnection)) rfl
      (fun hfalse => ⟨hfalse, rfl⟩) h.cancelled
  | stops => exact h.keep rfl rfl rfl (fun hfalse => ⟨hfalse, rfl⟩) h.cancelled

theorem bindSockets_told {kind : ConnectionKind} :
    ∀ (binds : List (SocketAddr × Except IoError Listener)),
      (∀ b ∈ binds, BindsAddress b.1 b.2) → ∀ table : SocketTable,
      (bindSockets kind binds).2.foldl SocketTable.see table
        = Function.update table kind (localAddrs (bindSockets kind binds).1 + table kind)
  | [], _, table => by simp [bindSockets, localAddrs]
  | (address, .error e) :: binds, hbinds, table => by
    obtain ⟨-, hbinds⟩ := List.forall_mem_cons.1 hbinds
    rw [bindSockets, List.foldl_cons, tellsNoSocket_failedBind, bindSockets_told binds hbinds]
  | (address, .ok result) :: binds, hbinds, table => by
    obtain ⟨hbind, hbinds⟩ := List.forall_mem_cons.1 hbinds
    have hlocal : localAddrs (result :: (bindSockets kind binds).1)
        = address :: localAddrs (bindSockets kind binds).1 :=
      List.filterMap_cons_some (hbind result rfl)
    rw [bindSockets, List.foldl_cons, see_newSocket, bindSockets_told binds hbinds, hlocal]
    simp [SocketTable.add, ← Multiset.cons_coe, Multiset.add_cons]

theorem start_served {usersFile : Str} {usersEvents : List EventData}
    {socks sandstorm : List (SocketAddr × Except IoError Listener)}
    (husers : ∀ e ∈ usersEvents, e.TellsNoSocket)
    (hsocks : ∀ b ∈ socks, BindsAddress b.1 b.2)
    (hsandstorm : ∀ b ∈ sandstorm, BindsAddress b.1 b.2) :
    Served (start usersFile usersEvents socks sandstorm).sockets
      (start usersFile usersEvents socks sandstorm) := by
  have hbefore : told (.loadingUsersFromFile usersFile :: usersEvents) = fun _ => 0 := by
    refine told_append_of_tellsNoSocket [] (List.forall_mem_cons.2 ⟨fun _ => rfl, husers⟩)
  suffices htold : (start usersFile usersEvents socks sandstorm).sockets
      = told (start usersFile usersEvents socks sandstorm).events by
    unfold start at htold ⊢
    dsimp only at htold ⊢
    split_ifs at htold ⊢ <;>
      exact ⟨Prod.ext htold rfl, fun _ => htold, fun h => absurd h Bool.false_ne_true⟩
  have hsocks' := @bindSockets_told .client socks hsocks fun _ => 0
  have hsandstorm' := @bindSockets_told .sandstorm sandstorm hsandstorm
  unfold start
  dsimp only
  split_ifs with hnone
  · rw [told_snoc, told_append, hbefore, hsocks', hnone]
    funext kind
    cases kind <;> rfl
  · rw [told_append, told_append, hbefore, hsocks', hsandstorm']
    funext kind
    cases kind <;> simp [sockets]

end Sockets

section Messages

variable {s s' : Server} {sent : List MessageType}

theorem serve_channel (message : MessageType) (bind : Except IoError Listener) :
    (s.serve message bind).channel = s.channel := by
  cases message <;> rfl

/-- What the loop has received and what it has yet to receive. -/
def messages (s : Server) : List MessageType := s.received.map Prod.fst ++ s.channel

theorem step_messages {action : ServerAction} (h : s.step action = some s') :
    s'.messages = s.messages ++ (if s.cancelled then [] else action.sends.toList)
      ∧ (s.cancelled = true → s'.cancelled = true) := by
  cases step_does h with
  | @receives message channel bind hpoint hchannel =>
    have hsame := @serve_same
      { s with channel := channel, received := s.received ++ [(message, bind)] } message bind
    obtain ⟨hreceived, -, hcancelled⟩ := hsame
    refine ⟨?_, fun htrue => hcancelled.trans htrue⟩
    rw [messages, hreceived, serve_channel, messages, hchannel]
    simp [ServerAction.sends]
  | reports haction => simp [messages, send, haction]
  | messages => simp [messages, ServerAction.sends]
  | cancels => simp [messages, send, ServerAction.sends]
  | answers | spawns | logs | finishes | stops =>
    simp [messages, send, spawn, setRunning, ServerAction.sends]

/-- What a run of the loop has received are the messages sent, in the order they were. -/
theorem run_messages {s0 : Server} (hempty : s0.messages = []) {actions : List ServerAction} :
    ∀ {s : Server}, runSteps step s0 actions = some s →
      s.messages <+: actions.filterMap ServerAction.sends
        ∧ (s.cancelled = false → s.messages = actions.filterMap ServerAction.sends) := by
  induction actions using List.reverseRecOn with
  | nil =>
    intro s h
    obtain rfl := Option.some.inj h
    exact ⟨by rw [hempty]; exact List.nil_prefix, fun _ => hempty⟩
  | append_singleton actions action ih =>
    intro s' h
    obtain ⟨s, hs, hstep⟩ := runSteps_snoc.1 h
    obtain ⟨hmessages, hcancelled⟩ := step_messages hstep
    obtain ⟨hreceived, hall⟩ := ih hs
    rw [filterMap_snoc]
    rcases hs : s.cancelled with _ | _
    · rw [hs, if_neg Bool.false_ne_true, hall hs] at hmessages
      exact ⟨by rw [hmessages], fun _ => hmessages⟩
    · rw [hs, if_pos rfl, List.append_nil] at hmessages
      refine ⟨by rw [hmessages]; exact hreceived.trans (List.prefix_append _ _), fun hfalse => ?_⟩
      rw [hcancelled hs] at hfalse
      cases hfalse

end Messages

section Main

variable {ρ : Type} [AsyncRead ρ] {usersFile : Str} {file : Except IoError ρ}
  {newUsers : List (Str × UserData)} {users : UserManager} {usersEvents : List EventData}
  {socks sandstorm : List (SocketAddr × Except IoError Listener)} {actions : List ServerAction}
  {s : Server}

theorem registerByArgs_general : ∀ (newUsers : List (Str × UserData)) (users : UserManager),
    ∀ e ∈ (registerByArgs users newUsers).2, General e
  | [], _ => by simp [registerByArgs]
  | (username, userdata) :: newUsers, users => by
    have ih := registerByArgs_general newUsers
      (users.insertOrUpdate username userdata.password userdata.role).2
    simp only [registerByArgs]
    split_ifs
    · exact List.forall_mem_cons.2 ⟨⟨rfl, fun _ => rfl⟩, ih⟩
    · exact List.forall_mem_cons.2 ⟨⟨rfl, fun _ => rfl⟩, ih⟩

theorem registerDefault_general (users : UserManager) :
    ∀ e ∈ (registerDefault users).2, General e := by
  unfold registerDefault
  split_ifs
  · exact List.forall_mem_singleton.2 ⟨rfl, fun _ => rfl⟩
  · simp

/-- No event of the users' loading is about a connection or a socket. -/
theorem createUserManager_general
    (h : createUserManager usersFile file newUsers = .ok (users, usersEvents)) :
    ∀ e ∈ usersEvents, General e := by
  have hfinish : ∀ (users : UserManager) (loaded : Except UsersLoadingError ℕ),
      ∀ e ∈ EventData.usersLoadedFromFile usersFile loaded :: (registerByArgs users newUsers).2
        ++ (registerDefault (registerByArgs users newUsers).1).2, General e := by
    intro users loaded e he
    rcases List.mem_append.1 he with he | he
    · rcases List.mem_cons.1 he with rfl | he
      · exact ⟨rfl, fun _ => rfl⟩
      · exact registerByArgs_general newUsers users e he
    · exact registerDefault_general _ e he
  unfold createUserManager at h
  split at h
  · obtain ⟨-, rfl⟩ := Prod.ext_iff.1 (Except.ok.inj h)
    exact hfinish _ _
  · obtain ⟨-, rfl⟩ := Prod.ext_iff.1 (Except.ok.inj h)
    exact hfinish _ _
  · cases h

/-- The loop serves the messages in the order the managers send them, as a table of addresses does
that starts with those bound at startup; its events tell what the table is. For a port of 0, which
only a socket bound at startup can have, the event would have the 0 and the table another port. -/
theorem sockets_served
    (husers : createUserManager usersFile file newUsers = .ok (users, usersEvents))
    (hports : ∀ b ∈ socks ++ sandstorm, b.1.port ≠ 0)
    (hstart : ∀ b ∈ socks ++ sandstorm, b.1.port ≠ 0 → BindsAddress b.1 b.2)
    (hbinds : AlongRun step BindsAsked (start usersFile usersEvents socks sandstorm) actions)
    (h : runSteps step (start usersFile usersEvents socks sandstorm) actions = some s) :
    s.messages <+: actions.filterMap ServerAction.sends
      ∧ (s.cancelled = false → s.messages = actions.filterMap ServerAction.sends)
      ∧ (start usersFile usersEvents socks sandstorm).sockets.serveAll s.received
        = (told s.events, (s.answers ++ s.pending).map (MainAnswer.map Multiset.ofList))
      ∧ (s.cancelled = false → s.sockets = told s.events) := by
  have hbound (b) (hb : b ∈ socks ++ sandstorm) : BindsAddress b.1 b.2 := hstart b hb (hports b hb)
  have hserved : Served (start usersFile usersEvents socks sandstorm).sockets
      (start usersFile usersEvents socks sandstorm) :=
    start_served (fun e he => (createUserManager_general husers e he).2)
      (fun b hb => hbound b (List.mem_append_left _ hb))
      fun b hb => hbound b (List.mem_append_right _ hb)
  have hs : Served _ s :=
    runSteps_keeps_along (fun s a s' hs hbinds hstep => hs.step hbinds hstep) hserved hbinds h
  have hempty : (start usersFile usersEvents socks sandstorm).messages = [] := by
    unfold start
    dsimp only
    split_ifs <;> rfl
  obtain ⟨hreceived, hall⟩ := run_messages hempty h
  exact ⟨hreceived, hall, hs.serveAll, hs.sockets⟩

def localPort (port : UInt16) : SocketAddr := .v4 ⟨.ofOctets [127, 0, 0, 1], port⟩

def bindPort (port : UInt16) : SocketAddr × Except IoError Listener :=
  (localPort port, .ok ⟨some (localPort port)⟩)

theorem bindsAddress_bindPort (port : UInt16) :
    BindsAddress (localPort port) (bindPort port).2 := by
  rintro listener hlistener
  obtain rfl := Except.ok.inj hlistener
  rfl

/-- The events of a server without a users file. -/
def noUsersFile : List EventData :=
  [.usersLoadedFromFile [] (.error (.io ⟨.notFound, []⟩)),
    .startingUpWithSingleDefaultUser "admin:admin".toList]

def twoPorts : Server := start [] noUsersFile [bindPort 1080] [bindPort 2222]

/-- A manager has the server listen at another port too. -/
def addPort : List ServerAction :=
  [.accept .sandstorm [.ready (.ok (localPort 50000))],
    .message 1 (.addSocks5Socket (localPort 1081)), .receive (bindPort 1081).2, .answer]

theorem sockets_served_addPort : ∃ s, runSteps step twoPorts addPort = some s
    ∧ s.messages = [.addSocks5Socket (localPort 1081)] ∧ s.sockets = told s.events := by
  have husers : createUserManager [] (.error ⟨.notFound, []⟩ : Except IoError Flat) []
      = .ok (_, noUsersFile) := rfl
  have hports : ∀ b ∈ [bindPort 1080] ++ [bindPort 2222], b.1.port ≠ 0 := by decide
  have hstart : ∀ b ∈ [bindPort 1080] ++ [bindPort 2222],
      b.1.port ≠ 0 → BindsAddress b.1 b.2 := by
    intro b hb _
    rcases List.mem_pair.1 hb with rfl | rfl
    · exact bindsAddress_bindPort 1080
    · exact bindsAddress_bindPort 2222
  have hbinds : AlongRun step BindsAsked twoPorts addPort := by
    refine .cons trivial rfl (.cons trivial rfl (.cons ?_ rfl (.cons trivial rfl trivial)))
    rintro message hmessage address haddress -
    obtain rfl := Option.some.inj hmessage
    obtain rfl := Option.some.inj haddress
    exact bindsAddress_bindPort 1081
  obtain ⟨-, hmessages, -, hsockets⟩ := sockets_served husers hports hstart hbinds rfl
  exact ⟨_, rfl, hmessages rfl, hsockets rfl⟩

end Main

/-! ## The connections -/

section Connections

/-- The first event about a connection is that it was accepted, and then none is, and none comes
after the one that it has finished. -/
structure InLife (before : List EventData) (event : EventData) : Prop where
  accepted : ∀ connection ∈ event.accepted, ∀ e ∈ before, e.connection ≠ some connection
  alive : ∀ connection ∈ event.connection, event.accepted = none →
    connection ∈ before.filterMap EventData.accepted
      ∧ connection ∉ before.filterMap EventData.finished

theorem connection_of_accepted {event : EventData} {connection : ConnectionKind × ℕ}
    (h : event.accepted = some connection) : event.connection = some connection := by
  cases event <;> first | exact h | cases h

theorem connection_of_finished {event : EventData} {connection : ConnectionKind × ℕ}
    (h : event.finished = some connection) : event.connection = some connection := by
  cases event <;> first | exact h | cases h

theorem accepted_of_finished {event : EventData} {connection : ConnectionKind × ℕ}
    (h : event.finished = some connection) : event.accepted = none := by
  cases event <;> first | rfl | cases h

theorem InLife.canSend {before : List EventData} {event : EventData} (h : InLife before event) :
    CanSend before event := fun connection hfinished =>
  h.alive connection (connection_of_finished hfinished) (accepted_of_finished hfinished)

theorem inLife_of_connection_eq_none {before : List EventData} {event : EventData}
    (h : event.connection = none) : InLife before event where
  accepted connection haccepted := by
    rw [connection_of_accepted haccepted] at h
    cases h
  alive connection hconnection := by
    rw [h] at hconnection
    cases hconnection

/-- The ids of the connections of a kind that were accepted. -/
def acceptedIds (kind : ConnectionKind) (events : List EventData) : List ℕ :=
  (events.filterMap EventData.accepted).filterMap fun c => if c.1 = kind then some c.2 else none

/-- Each connection is in its life. -/
structure Lives (s : Server) : Prop where
  inLife : EachAfter InLife s.events
  running : ∀ connection, s.running connection →
    connection ∈ s.events.filterMap EventData.accepted
      ∧ connection ∉ s.events.filterMap EventData.finished
  fresh : ∀ e ∈ s.events, ∀ connection ∈ e.connection, connection.2 < s.idCounter connection.1
  ids : ∀ kind, 0 < s.idCounter kind
    ∧ acceptedIds kind s.events = List.range' 1 (s.idCounter kind - 1)

variable {s s' : Server} {event : EventData}

theorem Lives.same (h : Lives s) (hevents : s'.events = s.events)
    (hids : s'.idCounter = s.idCounter) (hrunning : ∀ c, s'.running c → s.running c) :
    Lives s' where
  inLife := by rw [hevents]; exact h.inLife
  running c hc := by rw [hevents]; exact h.running c (hrunning c hc)
  fresh := by rw [hevents, hids]; exact h.fresh
  ids := by rw [hevents, hids]; exact h.ids

theorem acceptedIds_snoc (kind : ConnectionKind) (events : List EventData) (event : EventData) :
    acceptedIds kind (events ++ [event])
      = acceptedIds kind events
        ++ (event.accepted.toList.filterMap fun c => if c.1 = kind then some c.2 else none) := by
  rw [acceptedIds, filterMap_snoc, List.filterMap_append]
  rfl

theorem Lives.send (h : Lives s) (hinLife : InLife s.events event)
    (haccepted : event.accepted = none) (hfinished : ∀ c ∈ event.finished, ¬ s.running c) :
    Lives (s.send [event]) where
  inLife := h.inLife.snoc hinLife
  running c hc := by
    obtain ⟨hmem, hnmem⟩ := h.running c hc
    refine ⟨?_, ?_⟩ <;> rw [Server.send, filterMap_snoc, List.mem_append]
    · exact .inl hmem
    · rintro (hmem' | hmem')
      · exact hnmem hmem'
      · exact hfinished c (Option.mem_toList.1 hmem') hc
  fresh e he c hc := by
    rcases List.mem_append.1 he with he | he
    · exact h.fresh e he c hc
    · obtain rfl := List.mem_singleton.1 he
      obtain ⟨e', he', hc'⟩ := List.mem_filterMap.1 (hinLife.alive c hc haccepted).1
      exact h.fresh e' he' c (connection_of_accepted hc')
  ids kind := by
    obtain ⟨hpos, hids⟩ := h.ids kind
    refine ⟨hpos, ?_⟩
    rw [Server.send, acceptedIds_snoc, haccepted, hids]
    exact List.append_nil _

theorem Lives.sendAll (h : Lives s) {events : List EventData}
    (hevents : ∀ e ∈ events, e.connection = none) : Lives (s.send events) := by
  induction events generalizing s with
  | nil => exact h.same (List.append_nil _) rfl fun _ hc => hc
  | cons e events ih =>
    obtain ⟨he, hevents⟩ := List.forall_mem_cons.1 hevents
    have hsend : (s.send [e]).send events = s.send (e :: events) := by simp [Server.send]
    have hnone : ∀ c, e.accepted ≠ some c ∧ e.finished ≠ some c := by
      refine fun c => ⟨fun hc => ?_, fun hc => ?_⟩
      · rw [connection_of_accepted hc] at he
        cases he
      · rw [connection_of_finished hc] at he
        cases he
    rw [← hsend]
    have haccepted : e.accepted = none :=
      Option.eq_none_iff_forall_ne_some.2 fun c => (hnone c).1
    exact ih (h.send (inLife_of_connection_eq_none he) haccepted fun c hc => absurd hc (hnone c).2)
      hevents

theorem Lives.spawn (h : Lives s) (kind : ConnectionKind) (address : SocketAddr) :
    Lives (s.spawn kind address) := by
  have haccepted : (kind.newConnection (s.idCounter kind) address).accepted
      = some (kind, s.idCounter kind) := by cases kind <;> rfl
  have hconnection := connection_of_accepted haccepted
  have hnew : ∀ e ∈ s.events, e.connection ≠ some (kind, s.idCounter kind) := fun e he heq =>
    Nat.lt_irrefl _ (h.fresh e he _ heq)
  have hfinished : (kind.newConnection (s.idCounter kind) address).finished = none := by
    cases kind <;> rfl
  constructor
  · refine h.inLife.snoc ⟨fun c hc => ?_, fun c _ hnone => ?_⟩
    · obtain rfl := Option.some.inj (haccepted.symm.trans hc)
      exact hnew
    · rw [haccepted] at hnone
      cases hnone
  · intro c hc
    have hevents : (s.spawn kind address).events
        = s.events ++ [kind.newConnection (s.idCounter kind) address] := rfl
    rw [hevents, filterMap_snoc, filterMap_snoc, haccepted, hfinished, List.mem_append,
      List.mem_append]
    rcases eq_or_ne c (kind, s.idCounter kind) with rfl | hne
    · refine ⟨.inr (List.mem_singleton.2 rfl), ?_⟩
      rintro (hmem | hmem)
      · obtain ⟨e, he, hfinished⟩ := List.mem_filterMap.1 hmem
        exact hnew e he (connection_of_finished hfinished)
      · cases hmem
    · have hrunning : s.running c := by
        simpa [Server.spawn, setRunning, Server.send, hne] using hc
      obtain ⟨hmem, hnmem⟩ := h.running c hrunning
      exact ⟨.inl hmem, fun hmem => hnmem (by simpa using hmem)⟩
  · intro e he c hc
    have hle : s.idCounter c.1 ≤ (s.spawn kind address).idCounter c.1 := by
      rcases eq_or_ne c.1 kind with heq | hne
      · simp [Server.spawn, heq]
      · simp [Server.spawn, setRunning, Server.send, hne]
    rcases List.mem_append.1 he with he | he
    · exact (h.fresh e he c hc).trans_le hle
    · obtain rfl := List.mem_singleton.1 he
      obtain rfl := Option.some.inj (hconnection.symm.trans hc)
      simp [Server.spawn]
  · intro kind'
    obtain ⟨hpos, hids⟩ := h.ids kind'
    have hevents : acceptedIds kind' (s.spawn kind address).events
        = acceptedIds kind' s.events ++ (if kind = kind' then [s.idCounter kind] else []) := by
      refine (acceptedIds_snoc _ _ _).trans ?_
      rw [haccepted]
      split_ifs with heq <;> simp [heq]
    rw [hevents, hids]
    rcases eq_or_ne kind' kind with rfl | hne
    · have hcounter : (s.spawn kind' address).idCounter kind' = s.idCounter kind' - 1 + 1 + 1 := by
        simp [Server.spawn]
        omega
      rw [hcounter, if_pos rfl, Nat.add_sub_cancel, List.range'_concat]
      exact ⟨Nat.succ_pos _, by rw [one_mul, Nat.add_sub_cancel' hpos]⟩
    · have hcounter : (s.spawn kind address).idCounter kind' = s.idCounter kind' := by
        simp [Server.spawn, setRunning, Server.send, hne]
      rw [hcounter, if_neg hne.symm, List.append_nil]
      exact ⟨hpos, rfl⟩

theorem serve_connection (message : MessageType) (bind : Except IoError Listener) :
    ∃ events, (∀ e ∈ events, e.connection = none)
      ∧ (s.serve message bind).events = (s.send events).events
      ∧ (s.serve message bind).running = s.running
      ∧ (s.serve message bind).idCounter = s.idCounter := by
  have hadd : ∀ (kind : ConnectionKind) (address : SocketAddr),
      ∀ e ∈ (addSocket kind address bind (s.listeners kind)).2.1, e.connection = none := by
    intro kind address
    unfold addSocket
    split_ifs
    · simp
    · cases bind <;> cases kind <;> exact List.forall_mem_singleton.2 rfl
  have hremove : ∀ (kind : ConnectionKind) (address : SocketAddr),
      ∀ e ∈ (removeSocket kind address (s.listeners kind)).2.1, e.connection = none := by
    intro kind address
    unfold removeSocket
    split
    · cases kind <;> exact List.forall_mem_singleton.2 rfl
    · simp
  cases message with
  | shutdownRequest => exact ⟨[], by simp, (List.append_nil _).symm, rfl, rfl⟩
  | listSocks5Sockets | listSandstormSockets => exact ⟨[], by simp, rfl, rfl, rfl⟩
  | addSocks5Socket address | addSandstormSocket address =>
    exact ⟨_, hadd _ address, rfl, rfl, rfl⟩
  | removeSocks5Socket address | removeSandstormSocket address =>
    exact ⟨_, hremove _ address, rfl, rfl, rfl⟩

theorem Lives.step (h : Lives s) {action : ServerAction} (hstep : s.step action = some s') :
    Lives s' := by
  have hsetFalse : ∀ connection c, (s.setRunning connection false).running c → s.running c := by
    intro connection c hc
    rcases eq_or_ne c connection with rfl | hne
    · simp [setRunning] at hc
    · simpa [setRunning, hne] using hc
  cases step_does hstep with
  | @receives message channel bind hpoint hchannel =>
    set s1 : Server := { s with channel := channel, received := s.received ++ [(message, bind)] }
    have hs1 : Lives s1 := h.same rfl rfl fun _ hc => hc
    obtain ⟨events, hnone, hevents, hrunning, hids⟩ := serve_connection (s := s1) message bind
    exact (hs1.sendAll hnone).same hevents hids fun c hc => by rwa [hrunning] at hc
  | answers => exact h.same rfl rfl fun _ hc => hc
  | spawns => exact h.spawn _ _
  | reports _ hgeneral =>
    exact (h.sendAll (List.forall_mem_singleton.2 hgeneral.1)).same rfl rfl fun _ hc => hc
  | cancels =>
    exact (h.sendAll (List.forall_mem_singleton.2 rfl)).same rfl rfl fun _ hc => hc
  | @logs connection event hrunning hwithin =>
    obtain ⟨hconnection, haccepted, hfinished⟩ := hwithin
    refine h.send ⟨fun c hc => ?_, fun c hc _ => ?_⟩ haccepted fun c hc => ?_
    · rw [haccepted] at hc
      cases hc
    · obtain rfl := Option.some.inj (hconnection.symm.trans hc)
      exact h.running connection hrunning
    · rw [hfinished] at hc
      cases hc
  | messages => exact h.same rfl rfl fun _ hc => hc
  | @finishes connection event hrunning hconnection hfinished =>
    have hstopped : Lives (s.setRunning connection false) :=
      h.same rfl rfl (hsetFalse connection)
    have haccepted := accepted_of_finished hfinished
    have hinLife : InLife (s.setRunning connection false).events event := by
      refine ⟨fun c hc => ?_, fun c hc _ => ?_⟩
      · rw [haccepted] at hc
        cases hc
      · obtain rfl := Option.some.inj (hconnection.symm.trans hc)
        exact h.running connection hrunning
    refine hstopped.send hinLife haccepted fun c hc => ?_
    obtain rfl := Option.some.inj (hfinished.symm.trans hc)
    simp [setRunning]
  | @stops connection => exact h.same rfl rfl (hsetFalse connection)

theorem lives_of_connection_eq_none (hids : s.idCounter = fun _ => 1)
    (hrunning : s.running = fun _ => false) (h : ∀ e ∈ s.events, e.connection = none) :
    Lives s := by
  have hnil : Lives { s with events := [] } := by
    constructor
    · exact .nil
    · simp [hrunning]
    · simp
    · simp [hids, acceptedIds]
  exact (hnil.sendAll h).same rfl rfl fun _ hc => hc

theorem bindSockets_connection (kind : ConnectionKind) :
    ∀ (binds : List (SocketAddr × Except IoError Listener)),
      ∀ e ∈ (bindSockets kind binds).2, e.connection = none
  | [] => by simp [bindSockets]
  | (address, .ok result) :: binds =>
    List.forall_mem_cons.2 ⟨by cases kind <;> rfl, bindSockets_connection kind binds⟩
  | (address, .error e) :: binds =>
    List.forall_mem_cons.2 ⟨by cases kind <;> rfl, bindSockets_connection kind binds⟩

theorem start_lives {usersFile : Str} {usersEvents : List EventData}
    {socks sandstorm : List (SocketAddr × Except IoError Listener)}
    (husers : ∀ e ∈ usersEvents, e.connection = none) :
    Lives (start usersFile usersEvents socks sandstorm) := by
  have hbefore : ∀ e ∈ EventData.loadingUsersFromFile usersFile :: usersEvents
      ++ (bindSockets .client socks).2, e.connection = none :=
    List.forall_mem_append.2 ⟨List.forall_mem_cons.2 ⟨rfl, husers⟩, bindSockets_connection _ _⟩
  unfold start
  dsimp only
  split_ifs <;> refine lives_of_connection_eq_none rfl rfl ?_
  · exact List.forall_mem_append.2 ⟨hbefore, List.forall_mem_singleton.2 rfl⟩
  · exact List.forall_mem_append.2 ⟨hbefore, bindSockets_connection _ _⟩

theorem sendable_of_inLife {events : List EventData} (h : EachAfter InLife events) :
    Sendable events := by
  induction events using List.reverseRecOn with
  | nil => exact .nil
  | append_singleton events event ih =>
    have hbefore : EachAfter InLife events := fun before e after heq =>
      h before e (after ++ [event]) (by rw [heq, List.append_assoc, List.cons_append])
    exact .snoc (ih hbefore) (h events event [] rfl).canSend

variable {ρ : Type} [AsyncRead ρ] {usersFile : Str} {file : Except IoError ρ}
  {newUsers : List (Str × UserData)} {users : UserManager} {usersEvents : List EventData}
  {socks sandstorm : List (SocketAddr × Except IoError Listener)} {actions : List ServerAction}

/-- In every run, whatever the tasks of the connections do and in whatever order, each event about
a connection stands between the one that it was accepted and the one that it has finished, and the
connections of a kind are numbered from 1 on in the order that they were accepted. -/
theorem events_inLife
    (husers : createUserManager usersFile file newUsers = .ok (users, usersEvents))
    (h : runSteps step (start usersFile usersEvents socks sandstorm) actions = some s) :
    EachAfter InLife s.events ∧ Sendable s.events
      ∧ ∀ kind, ∃ n, acceptedIds kind s.events = List.range' 1 n := by
  have hstart : Lives (start usersFile usersEvents socks sandstorm) :=
    start_lives fun e he => (createUserManager_general husers e he).1
  have hs : Lives s := runSteps_keeps (fun s a s' hs hstep => hs.step hstep) hstart h
  exact ⟨hs.inLife, sendable_of_inLife hs.inLife, fun kind => ⟨_, (hs.ids kind).2⟩⟩

/-- Two clients, the second of which finishes first. -/
def twoClients : List ServerAction :=
  [.accept .client [.ready (.ok (localPort 50000))],
    .accept .client [.ready (.ok (localPort 50001))],
    .finish (.client, 2) (.clientConnectionFinished 2 0 0 (.ok ())),
    .log (.client, 1) (.clientSourceShutdown 1)]

theorem events_inLife_twoClients : ∃ s, runSteps step twoPorts twoClients = some s
    ∧ EachAfter InLife s.events ∧ acceptedIds .client s.events = [1, 2] := by
  have husers : createUserManager [] (.error ⟨.notFound, []⟩ : Except IoError Flat) []
      = .ok (_, noUsersFile) := rfl
  have h : runSteps step twoPorts twoClients = some _ := rfl
  obtain ⟨hinLife, -, -⟩ := events_inLife husers h
  exact ⟨_, h, hinLife, rfl⟩

end Connections

end Server

end DustDevil
