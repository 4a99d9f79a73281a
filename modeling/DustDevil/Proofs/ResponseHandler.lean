import DustDevil.Lib.SameOrder
import DustDevil.Proofs.Requests
import DustDevil.Server.ResponseHandler

/-!
# Every notification is answered once, and each group's in order

At any moment the notifications taken are those answered and those in hand: the one whose receiver
is awaited, those in the three queues and the one to be put in a queue next (`Mid`). In this order
they are, group by group, in the order in which they came. A queue holds notifications of its own
group only, so the others can pass it.

The notifications themselves are one for each request served (`serveAll_notified`).
-/

namespace DustDevil

open Wire

/-! ## What is to be answered -/

section Spec

/-- The response to a notification; `streaming` is whether events are being streamed. -/
def ResponseEnv.response (env : ResponseEnv) (streaming : Bool) (place : ℕ) :
    ResponseNotification → ServerMessage
  | .shutdown => .shutdown
  | .logEventConfig enabled =>
    .eventStreamConfig <|
      if !enabled then .disabled
      else if streaming then .wasAlreadyEnabled
      else match env.subscription place with
        | some (metrics, _) => .enabled metrics
        | none => .disabled
  | .listSocks5Sockets => .listSocks5Sockets (env.sockets place)
  | .addSocks5Socket => .addSocks5Socket (env.socketAdded place)
  | .removeSocks5Socket => .removeSocks5Socket (env.socketRemoved place)
  | .listSandstormSockets => .listSandstormSockets (env.sockets place)
  | .addSandstormSocket => .addSandstormSocket (env.socketAdded place)
  | .removeSandstormSocket => .removeSandstormSocket (env.socketRemoved place)
  | .listUsers snapshot => .listUsers (env.listing place snapshot)
  | .addUser result => .addUser result
  | .updateUser result => .updateUser result
  | .deleteUser result => .deleteUser result
  | .listAuthMethods authMethods => .listAuthMethods ⟨authMethods⟩
  | .toggleAuthMethod result => .toggleAuthMethod result
  | .requestCurrentMetrics maybeReceiver =>
    .requestCurrentMetrics (if maybeReceiver then some (env.metrics place) else none)
  | .getBufferSize bufferSize => .getBufferSize bufferSize
  | .setBufferSize result => .setBufferSize result
  | .meow => .meow

theorem response_command (env : ResponseEnv) (streaming : Bool) (place : ℕ)
    (notification : ResponseNotification) :
    (env.response streaming place notification).command = notification.command := by
  cases notification <;> rfl

/-- A notification and its place. -/
abbrev Placed : Type := ResponseNotification × ℕ

def Placed.group (entry : Placed) : SyncGroup := entry.1.command.group

/-- What has been written is events and the responses to `done`, in order. -/
inductive Answers (env : ResponseEnv) : List (Option ℕ × ServerMessage) → List Placed → Prop
  | nil : Answers env [] []
  | respond {written : List (Option ℕ × ServerMessage)} {done : List Placed}
      (notification : ResponseNotification) (place : ℕ) (streaming : Bool) :
      Answers env written done →
      Answers env (written ++ [(some place, env.response streaming place notification)])
        (done ++ [(notification, place)])
  | event {written : List (Option ℕ × ServerMessage)} {done : List Placed} (event : Event) :
      Answers env written done → Answers env (written ++ [(none, .eventStream event)]) done

namespace ResponseHandler

/-- The places of a group's notifications, in the order in which these came. -/
def requestsOf (h : ResponseHandler) (g : SyncGroup) : List ℕ :=
  (h.notifications.zipIdx.filter (Placed.group · = g)).map Prod.snd

/-- The places of the notifications that a group's responses are for, in the order in which these
have been written. -/
def responsesOf (h : ResponseHandler) (g : SyncGroup) : List ℕ :=
  h.written.filterMap fun entry => if entry.2.command.group = g then entry.1 else none

end ResponseHandler

variable {env : ResponseEnv} {written : List (Option ℕ × ServerMessage)} {done : List Placed}

theorem Answers.places (h : Answers env written done) (g : SyncGroup) :
    written.filterMap (fun entry => if entry.2.command.group = g then entry.1 else none)
      = (done.filter (Placed.group · = g)).map Prod.snd := by
  induction h with
  | nil => rfl
  | respond notification place streaming _ ih =>
    simp only [List.filterMap_append, List.filter_append, List.map_append, ih]
    congr 1
    by_cases hg : notification.command.group = g <;>
      simp [response_command, Placed.group, hg]
  | event event _ ih => simp [ih]

theorem Answers.all_places (h : Answers env written done) :
    written.filterMap Prod.fst = done.map Prod.snd := by
  induction h with
  | nil => rfl
  | respond notification place streaming _ ih => simp [ih]
  | event event _ ih => simp [ih]

theorem Answers.response (h : Answers env written done) {place : ℕ} {message : ServerMessage}
    (hmem : (some place, message) ∈ written) : ∃ notification streaming,
      (notification, place) ∈ done ∧ message = env.response streaming place notification := by
  induction h with
  | nil => cases hmem
  | respond notification place' streaming _ ih =>
    rcases List.mem_append.1 hmem with hmem | hmem
    · obtain ⟨notification', streaming', hdone, hmessage⟩ := ih hmem
      exact ⟨notification', streaming', List.mem_append_left _ hdone, hmessage⟩
    · simp only [List.mem_singleton, Prod.mk.injEq, Option.some.injEq] at hmem
      obtain ⟨rfl, rfl⟩ := hmem
      exact ⟨notification, streaming, by simp, rfl⟩
  | event event _ ih =>
    rcases List.mem_append.1 hmem with hmem | hmem
    · exact ih hmem
    · simp at hmem

theorem Answers.event_of_none (h : Answers env written done) {message : ServerMessage}
    (hmem : (none, message) ∈ written) : ∃ event, message = .eventStream event := by
  induction h with
  | nil => cases hmem
  | respond notification place streaming _ ih =>
    rcases List.mem_append.1 hmem with hmem | hmem
    · exact ih hmem
    · simp at hmem
  | event event _ ih =>
    rcases List.mem_append.1 hmem with hmem | hmem
    · exact ih hmem
    · simp only [List.mem_singleton, Prod.mk.injEq, true_and] at hmem
      exact ⟨event, hmem⟩

end Spec

/-! ## The notifications in hand -/

section InHand

def SocketRequestReceiver.socks5 : SocketRequestReceiver → Placed
  | list place => (.listSocks5Sockets, place)
  | add place => (.addSocks5Socket, place)
  | remove place => (.removeSocks5Socket, place)

def SocketRequestReceiver.sandstorm : SocketRequestReceiver → Placed
  | list place => (.listSandstormSockets, place)
  | add place => (.addSandstormSocket, place)
  | remove place => (.removeSandstormSocket, place)

def MetricsReceiver.placed (receiver : MetricsReceiver) : Placed :=
  (.requestCurrentMetrics receiver.isSome, receiver.place)

namespace HandlerPoint

/-- The notification that is waited for. -/
def front : HandlerPoint → List Placed
  | awaitingShutdown place => [(.shutdown, place)]
  | subscribing place => [(.logEventConfig true, place)]
  | awaitingSocks5 front _ => [front.socks5]
  | awaitingSandstorm front _ => [front.sandstorm]
  | awaitingMetrics front _ => [front.placed]
  | _ => []

/-- The notification that is then put in a queue. -/
def next : HandlerPoint → List Placed
  | awaitingSocks5 _ next => [next.socks5]
  | awaitingSandstorm _ next => [next.sandstorm]
  | awaitingMetrics _ next => [next.placed]
  | _ => []

end HandlerPoint

namespace ResponseHandlerState

variable (state : ResponseHandlerState)

def socksQueue : List Placed := state.socksReceivers.map SocketRequestReceiver.socks5

def sandstormQueue : List Placed := state.sandstormReceivers.map SocketRequestReceiver.sandstorm

def metricsQueue : List Placed := state.metricsReceivers.map MetricsReceiver.placed

def queued : List Placed := state.socksQueue ++ (state.sandstormQueue ++ state.metricsQueue)

end ResponseHandlerState

@[simp] theorem socks5_group (receiver : SocketRequestReceiver) :
    receiver.socks5.group = .socks5Sockets := by
  cases receiver <;> rfl

@[simp] theorem sandstorm_group (receiver : SocketRequestReceiver) :
    receiver.sandstorm.group = .sandstormSockets := by
  cases receiver <;> rfl

@[simp] theorem placed_group (receiver : MetricsReceiver) :
    receiver.placed.group = .only .requestCurrentMetrics := rfl

variable {state : ResponseHandlerState}

theorem group_of_mem_socksQueue {entry : Placed} (h : entry ∈ state.socksQueue) :
    entry.group = .socks5Sockets := by
  obtain ⟨receiver, -, rfl⟩ := List.mem_map.1 h
  exact socks5_group receiver

theorem group_of_mem_sandstormQueue {entry : Placed} (h : entry ∈ state.sandstormQueue) :
    entry.group = .sandstormSockets := by
  obtain ⟨receiver, -, rfl⟩ := List.mem_map.1 h
  exact sandstorm_group receiver

theorem group_of_mem_metricsQueue {entry : Placed} (h : entry ∈ state.metricsQueue) :
    entry.group = .only .requestCurrentMetrics := by
  obtain ⟨receiver, -, rfl⟩ := List.mem_map.1 h
  rfl

/-- Whether the group's notifications are put in a queue. -/
def SyncGroup.queued : SyncGroup → Bool
  | socks5Sockets => true
  | sandstormSockets => true
  | only .requestCurrentMetrics => true
  | _ => false

theorem queued_of_mem_queued {entry : Placed} (h : entry ∈ state.queued) :
    entry.group.queued = true := by
  rcases List.mem_append.1 h with h | h
  · rw [group_of_mem_socksQueue h]
    rfl
  rcases List.mem_append.1 h with h | h
  · rw [group_of_mem_sandstormQueue h]
    rfl
  · rw [group_of_mem_metricsQueue h]
    rfl

end InHand

namespace ResponseHandler

/-- The notifications taken are those answered, `done`, and those in hand. -/
structure Mid (env : ResponseEnv) (h : ResponseHandler) (done inHand : List Placed) : Prop where
  answers : Answers env h.written done
  order : SameOrder Placed.group (done ++ inHand) (h.notifications.take h.taken).zipIdx
  taken_le : h.taken ≤ h.notifications.length
  closed : h.closed = true → h.senderDropped = true ∧ h.taken = h.notifications.length

/-- The notifications in hand are those that the handler's point and queues tell. -/
structure Sound (env : ResponseEnv) (h : ResponseHandler) (done : List Placed) : Prop where
  mid : Mid env h done (h.point.front ++ (h.handlerState.queued ++ h.point.next))
  returned : h.point = .returned →
    h.closed = true ∧ h.buffered = false ∧ h.handlerState.queued = []
  alive : h.point ≠ .panicked

variable {env : ResponseEnv} {h : ResponseHandler} {done inHand : List Placed} {entry : Placed}

section Mid

theorem Mid.setQueue {α : Type} (hm : Mid env h done inHand) (q : ReceiverQueue α)
    (receivers : List α) : Mid env (h.setQueue q receivers) done inHand :=
  ⟨hm.1, hm.2, hm.3, hm.4⟩

theorem Mid.setEvents (hm : Mid env h done inHand) (receiver : Option (List Event)) :
    Mid env (h.setEvents receiver) done inHand := ⟨hm.1, hm.2, hm.3, hm.4⟩

theorem Mid.flush (hm : Mid env h done inHand) : Mid env h.flush done inHand :=
  ⟨hm.1, hm.2, hm.3, hm.4⟩

theorem Mid.goto (hm : Mid env h done inHand) (point : HandlerPoint) :
    Mid env (h.goto point) done inHand := ⟨hm.1, hm.2, hm.3, hm.4⟩

theorem Mid.bringForward {before between after : List Placed}
    (hm : Mid env h done (before ++ (between ++ entry :: after)))
    (hother : ∀ other ∈ between, other.group ≠ entry.group) :
    Mid env h done (before ++ entry :: (between ++ after)) := by
  have hpass := SameOrder.pass (f := Placed.group) hother (done ++ before) after
  simp only [List.append_assoc] at hpass
  exact ⟨hm.answers, hpass.trans hm.order, hm.taken_le, hm.closed⟩

theorem Mid.write {notification : ResponseNotification} {place : ℕ}
    (hm : Mid env h done ((notification, place) :: inHand)) (buffered streaming : Bool) :
    Mid env (h.write buffered (some place) (env.response streaming place notification))
      (done ++ [(notification, place)]) inHand := by
  refine ⟨hm.answers.respond notification place streaming, ?_, hm.taken_le, hm.closed⟩
  rw [List.append_assoc]
  exact hm.order

theorem Mid.writeEvent (hm : Mid env h done inHand) (buffered : Bool) (event : Event) :
    Mid env (h.write buffered none (.eventStream event)) done inHand :=
  ⟨hm.answers.event event, hm.order, hm.taken_le, hm.closed⟩

theorem Mid.take (hm : Mid env h done inHand) {notification : ResponseNotification}
    (hnext : h.notifications[h.taken]? = some notification) (hopen : h.closed = false) :
    Mid env { h with taken := h.taken + 1 } done (inHand ++ [(notification, h.taken)]) := by
  obtain ⟨hlt, rfl⟩ := List.getElem?_eq_some_iff.1 hnext
  refine ⟨hm.answers, ?_, hlt, by simp [hopen]⟩
  rw [← List.append_assoc]
  have htake : (h.notifications.take (h.taken + 1)).zipIdx
      = (h.notifications.take h.taken).zipIdx ++ [(h.notifications[h.taken], h.taken)] := by
    rw [List.take_succ_eq_append_getElem hlt, List.zipIdx_append]
    simp [Nat.min_eq_left hlt.le]
  rw [htake]
  exact hm.order.concat _

theorem Mid.endRound (hm : Mid env h done h.handlerState.queued) : Sound env h.endRound done := by
  unfold ResponseHandler.endRound
  split_ifs with hcond
  · refine ⟨?_, by simp [ResponseHandler.goto], by simp [ResponseHandler.goto]⟩
    simpa [ResponseHandler.goto, HandlerPoint.front, HandlerPoint.next]
      using hm.goto (.polling .notification)
  · refine ⟨?_, fun _ => ?_, by simp [ResponseHandler.goto]⟩
    · simpa [ResponseHandler.goto, HandlerPoint.front, HandlerPoint.next] using hm.goto .returned
    · simp only [Bool.or_eq_true, Bool.not_eq_true', not_or, Bool.not_eq_false,
        Bool.not_eq_true, List.isEmpty_iff] at hcond
      obtain ⟨⟨⟨⟨hclosed, hbuffered⟩, hsocks⟩, hsandstorm⟩, hmetrics⟩ := hcond
      refine ⟨hclosed, hbuffered, ?_⟩
      simp [ResponseHandler.goto, ResponseHandlerState.queued, ResponseHandlerState.socksQueue,
        ResponseHandlerState.sandstormQueue, ResponseHandlerState.metricsQueue, hsocks,
        hsandstorm, hmetrics]

theorem Mid.respond {place : ℕ} {message : ServerMessage}
    (hm : Mid env h done (entry :: h.handlerState.queued)) (buffered streaming : Bool)
    (hplace : entry.2 = place) (hmessage : env.response streaming place entry.1 = message) :
    ∃ done', Sound env (h.respond buffered place message) done' := by
  subst hplace hmessage
  exact ⟨_, Mid.endRound (hm.write buffered streaming)⟩

/-- A state that waits is sound if what is in hand is what its point and queues tell. -/
theorem Mid.wait {point : HandlerPoint}
    (hm : Mid env h done (point.front ++ (h.handlerState.queued ++ point.next)))
    (hreturned : point ≠ .returned) (halive : point ≠ .panicked) :
    Sound env (h.goto point) done :=
  ⟨hm.goto point, fun hpoint => absurd hpoint hreturned, halive⟩

end Mid

/-! ## The queues -/

section Queues

/-- How a queue's receivers stand among the notifications that are queued: those before and after
them are of other groups. -/
structure Stands (env : ResponseEnv) {α : Type} (q : ReceiverQueue α) where
  placed : α → Placed
  before : ResponseHandlerState → List Placed
  after : ResponseHandlerState → List Placed
  queued_eq : ∀ state,
    state.queued = before state ++ ((q.receivers state).map placed ++ after state)
  queued_set : ∀ state receivers, (q.setReceivers state receivers).queued
    = before state ++ (receivers.map placed ++ after state)
  before_ne : ∀ state receiver, ∀ other ∈ before state, other.group ≠ (placed receiver).group
  after_ne : ∀ state receiver, ∀ other ∈ after state, other.group ≠ (placed receiver).group
  place_eq : ∀ receiver, (placed receiver).2 = q.place receiver
  response_eq : ∀ receiver,
    env.response false (q.place receiver) (placed receiver).1 = q.response receiver
  capacity_ne : q.capacity ≠ 0
  front_awaiting : ∀ front next, (q.awaiting front next).front = [placed front]
  next_awaiting : ∀ front next, (q.awaiting front next).next = [placed next]
  awaiting_ne : ∀ front next, q.awaiting front next ≠ .returned ∧ q.awaiting front next ≠ .panicked

def socksStands (env : ResponseEnv) : Stands env env.socksQueue where
  placed := SocketRequestReceiver.socks5
  before _ := []
  after state := state.sandstormQueue ++ state.metricsQueue
  queued_eq _ := rfl
  queued_set _ _ := rfl
  before_ne _ _ := by simp
  after_ne state receiver other hother := by
    rcases List.mem_append.1 hother with hother | hother
    · simp [group_of_mem_sandstormQueue hother]
    · simp [group_of_mem_metricsQueue hother]
  place_eq receiver := by cases receiver <;> rfl
  response_eq receiver := by cases receiver <;> rfl
  capacity_ne := (Nat.lt_of_lt_of_le (by decide : 0 < receiverBufferSize) env.le_socksCapacity).ne'
  front_awaiting _ _ := rfl
  next_awaiting _ _ := rfl
  awaiting_ne _ _ := ⟨nofun, nofun⟩

def sandstormStands (env : ResponseEnv) : Stands env env.sandstormQueue where
  placed := SocketRequestReceiver.sandstorm
  before state := state.socksQueue
  after state := state.metricsQueue
  queued_eq _ := rfl
  queued_set _ _ := rfl
  before_ne state receiver other hother := by simp [group_of_mem_socksQueue hother]
  after_ne state receiver other hother := by simp [group_of_mem_metricsQueue hother]
  place_eq receiver := by cases receiver <;> rfl
  response_eq receiver := by cases receiver <;> rfl
  capacity_ne :=
    (Nat.lt_of_lt_of_le (by decide : 0 < receiverBufferSize) env.le_sandstormCapacity).ne'
  front_awaiting _ _ := rfl
  next_awaiting _ _ := rfl
  awaiting_ne _ _ := ⟨nofun, nofun⟩

def metricsStands (env : ResponseEnv) : Stands env env.metricsQueue where
  placed := MetricsReceiver.placed
  before state := state.socksQueue ++ state.sandstormQueue
  after _ := []
  queued_eq state := by
    simp [ResponseHandlerState.queued, ResponseHandlerState.metricsQueue, ResponseEnv.metricsQueue]
  queued_set state receivers := by
    simp [ResponseHandlerState.queued, ResponseHandlerState.socksQueue,
      ResponseHandlerState.sandstormQueue, ResponseHandlerState.metricsQueue,
      ResponseEnv.metricsQueue]
  before_ne state receiver other hother := by
    rcases List.mem_append.1 hother with hother | hother
    · simp [group_of_mem_socksQueue hother]
    · simp [group_of_mem_sandstormQueue hother]
  after_ne _ _ := by simp
  place_eq _ := rfl
  response_eq _ := rfl
  capacity_ne :=
    (Nat.lt_of_lt_of_le (by decide : 0 < receiverBufferSize) env.le_metricsCapacity).ne'
  front_awaiting _ _ := rfl
  next_awaiting _ _ := rfl
  awaiting_ne _ _ := ⟨nofun, nofun⟩

variable {α : Type} {q : ReceiverQueue α} {receiver : α}

theorem Stands.queued_setQueue (stands : Stands env q) (h : ResponseHandler)
    (receivers : List α) : (h.setQueue q receivers).handlerState.queued
      = stands.before h.handlerState
        ++ (receivers.map stands.placed ++ stands.after h.handlerState) :=
  stands.queued_set h.handlerState receivers

/-- Put last in its queue, a notification that came last is passed by those of other groups. -/
theorem Mid.push (stands : Stands env q) (inHand : List Placed)
    (hm : Mid env h done (inHand ++ (h.handlerState.queued ++ [stands.placed receiver]))) :
    Mid env (h.setQueue q (q.receivers h.handlerState ++ [receiver])) done
      (inHand
        ++ (h.setQueue q (q.receivers h.handlerState ++ [receiver])).handlerState.queued) := by
  have hm' : Mid env h done ((inHand ++ (stands.before h.handlerState
      ++ (q.receivers h.handlerState).map stands.placed))
      ++ (stands.placed receiver :: (stands.after h.handlerState ++ []))) := by
    refine Mid.bringForward ?_ (stands.after_ne h.handlerState receiver)
    simpa [stands.queued_eq] using hm
  rw [stands.queued_setQueue]
  simpa using hm'.setQueue q (q.receivers h.handlerState ++ [receiver])

/-- The first of a queue passes those of other groups that are before it. -/
theorem Mid.pop (stands : Stands env q) {receivers : List α} {after : List Placed}
    (hm : Mid env h done (h.handlerState.queued ++ after))
    (hqueue : q.receivers h.handlerState = receiver :: receivers) :
    Mid env (h.setQueue q receivers) done
      (stands.placed receiver :: ((h.setQueue q receivers).handlerState.queued ++ after)) := by
  have hm' : Mid env h done ([] ++ stands.placed receiver :: (stands.before h.handlerState
      ++ (receivers.map stands.placed ++ (stands.after h.handlerState ++ after)))) := by
    refine Mid.bringForward ?_ (stands.before_ne h.handlerState receiver)
    simpa [stands.queued_eq, hqueue] using hm
  rw [stands.queued_setQueue]
  simpa using hm'.setQueue q receivers

theorem receive_sound (stands : Stands env q)
    (hm : Mid env h done (h.handlerState.queued ++ [stands.placed receiver])) :
    ∃ done', Sound env (h.receive q receiver) done' := by
  unfold receive
  split_ifs with hfull
  · rcases hqueue : q.receivers h.handlerState with _ | ⟨front, receivers⟩
    · rw [hqueue] at hfull
      exact absurd hfull.symm stands.capacity_ne
    · obtain ⟨hreturned, halive⟩ := stands.awaiting_ne front receiver
      refine ⟨done, Mid.wait ?_ hreturned halive⟩
      rw [stands.front_awaiting, stands.next_awaiting]
      exact hm.pop stands hqueue
  · exact ⟨done, Mid.endRound (Mid.push stands [] hm)⟩

theorem getFirst_sound (stands : Stands env q) (hm : Mid env h done h.handlerState.queued)
    {buffered : Bool} {h' : ResponseHandler} (hfirst : h.getFirst q buffered = some h') :
    ∃ done', Sound env h' done' := by
  unfold getFirst at hfirst
  rcases hqueue : q.receivers h.handlerState with _ | ⟨receiver, receivers⟩ <;>
    rw [hqueue] at hfirst
  · cases hfirst
  simp only at hfirst
  split_ifs at hfirst
  obtain rfl := Option.some.inj hfirst
  have hm' := Mid.pop stands (by rwa [List.append_nil] : Mid env h done (_ ++ [])) hqueue
  rw [List.append_nil] at hm'
  exact hm'.respond buffered false (stands.place_eq receiver) (stands.response_eq receiver)

theorem awaited_sound (stands : Stands env q) {front next : α}
    (hm : Mid env h done (stands.placed front :: (h.handlerState.queued ++ [stands.placed next])))
    {buffered : Bool} {h' : ResponseHandler}
    (hawaited : h.awaited q buffered front next = some h') : ∃ done', Sound env h' done' := by
  unfold awaited at hawaited
  split_ifs at hawaited
  obtain rfl := Option.some.inj hawaited
  exact (Mid.push stands [stands.placed front] hm).respond buffered false (stands.place_eq front)
    (stands.response_eq front)

end Queues

/-! ## What a step keeps -/

section Step

/-- A notification of none of the queues' groups can be answered before those that are queued. -/
theorem Mid.overtake (hm : Mid env h done (h.handlerState.queued ++ [entry]))
    (hentry : entry.group.queued = false) : Mid env h done (entry :: h.handlerState.queued) := by
  have hm' : Mid env h done ([] ++ entry :: (h.handlerState.queued ++ [])) := by
    refine Mid.bringForward (by simpa using hm) fun other hother hgroup => ?_
    have hqueued := queued_of_mem_queued hother
    rw [hgroup, hentry] at hqueued
    cases hqueued
  simpa using hm'

theorem handleNotification_sound {notification : ResponseNotification} {place : ℕ}
    (hm : Mid env h done (h.handlerState.queued ++ [(notification, place)])) (buffered : Bool) :
    ∃ done', Sound env (h.handleNotification env buffered place notification) done' := by
  unfold handleNotification
  rcases notification with _ | enabled | _ | _ | _ | _ | _ | _ | snapshot | result | result | result
    | authMethods | result | maybeReceiver | bufferSize | result | _
  · refine ⟨done, Mid.wait ?_ (by simp) (by simp)⟩
    simpa [HandlerPoint.front, HandlerPoint.next] using hm.overtake rfl
  · have hm' := hm.overtake rfl
    rcases enabled with _ | _
    · exact (hm'.setEvents none).respond buffered false rfl rfl
    · rcases hevents : h.handlerState.eventStreamReceiver with _ | events
      · refine ⟨done, Mid.wait ?_ (by simp) (by simp)⟩
        simpa [HandlerPoint.front, HandlerPoint.next] using hm'
      · exact hm'.respond buffered true rfl rfl
  · exact receive_sound (socksStands env) hm
  · exact receive_sound (socksStands env) hm
  · exact receive_sound (socksStands env) hm
  · exact receive_sound (sandstormStands env) hm
  · exact receive_sound (sandstormStands env) hm
  · exact receive_sound (sandstormStands env) hm
  · exact (hm.overtake rfl).respond buffered false rfl rfl
  · exact (hm.overtake rfl).respond buffered false rfl rfl
  · exact (hm.overtake rfl).respond buffered false rfl rfl
  · exact (hm.overtake rfl).respond buffered false rfl rfl
  · exact (hm.overtake rfl).respond buffered false rfl rfl
  · exact (hm.overtake rfl).respond buffered false rfl rfl
  · exact receive_sound (metricsStands env) hm
  · exact (hm.overtake rfl).respond buffered false rfl rfl
  · exact ⟨_, Mid.endRound (Mid.flush ((hm.overtake rfl).write buffered false))⟩
  · exact (hm.overtake rfl).respond buffered false rfl rfl

/-- A branch that is not ready. -/
theorem Mid.pollNext (hm : Mid env h done h.handlerState.queued) (branch : SelectBranch) :
    Sound env (h.goto (.polling branch)) done := by
  refine Mid.wait ?_ (by simp) (by simp)
  simpa [HandlerPoint.front, HandlerPoint.next] using hm

/-- A queue's branch: its first receiver is ready, or the next branch is polled. -/
theorem queueBranch_sound {α : Type} {q : ReceiverQueue α} (stands : Stands env q)
    (hm : Mid env h done h.handlerState.queued) (buffered : Bool) (branch : SelectBranch) :
    ∃ done', Sound env ((h.getFirst q buffered).getD (h.goto (.polling branch))) done' := by
  rcases hfirst : h.getFirst q buffered with _ | h'
  · exact ⟨done, hm.pollNext branch⟩
  · exact getFirst_sound stands hm hfirst

theorem pollBranch_sound (hm : Mid env h done h.handlerState.queued) (buffered : Bool)
    (branch : SelectBranch) : ∃ done', Sound env (h.pollBranch env buffered branch) done' := by
  unfold pollBranch
  rcases branch with _ | _ | _ | _ | _ | _
  · by_cases hclosed : h.closed = true
    · rw [if_pos hclosed]
      exact ⟨done, hm.pollNext .socks⟩
    rw [if_neg hclosed]
    rcases hnext : h.notifications[h.taken]? with _ | notification
    · simp only
      split_ifs with hdropped
      · have htaken : h.taken = h.notifications.length :=
          le_antisymm hm.taken_le (List.getElem?_eq_none_iff.1 hnext)
        have hclosing : Mid env { h with closed := true } done h.handlerState.queued :=
          ⟨hm.answers, hm.order, hm.taken_le, fun _ => ⟨hdropped, htaken⟩⟩
        exact ⟨done, hclosing.endRound⟩
      · exact ⟨done, hm.pollNext .socks⟩
    · exact handleNotification_sound (hm.take hnext (by simpa using hclosed)) buffered
  · exact queueBranch_sound (socksStands env) hm buffered .sandstorm
  · exact queueBranch_sound (sandstormStands env) hm buffered .metrics
  · exact queueBranch_sound (metricsStands env) hm buffered .event
  · rcases hevents : h.handlerState.eventStreamReceiver with _ | _ | ⟨event, events⟩
    · exact ⟨done, hm.pollNext .flush⟩
    · exact ⟨done, hm.pollNext .flush⟩
    · exact ⟨done, Mid.endRound ((hm.setEvents (some events)).writeEvent buffered event)⟩
  · simp only
    split_ifs
    · exact ⟨done, Mid.endRound hm.flush⟩
    · exact ⟨done, hm.pollNext .notification⟩

theorem subscribed_sound {place : ℕ}
    (hm : Mid env h done ((.logEventConfig true, place) :: h.handlerState.queued))
    (buffered : Bool) : ∃ done', Sound env (h.subscribed env buffered place) done' := by
  unfold subscribed
  rcases hsubscription : env.subscription place with _ | ⟨metrics, events⟩
  · exact hm.respond buffered false rfl (by simp [ResponseEnv.response, hsubscription])
  · exact (hm.setEvents (some events)).respond buffered false rfl
      (by simp [ResponseEnv.response, hsubscription])

theorem poll_sound (hs : Sound env h done) {buffered : Bool} {h' : ResponseHandler}
    (hpoll : h.poll env buffered = some h') : ∃ done', Sound env h' done' := by
  have hm := hs.mid
  unfold poll at hpoll
  rcases hpoint : h.point with branch | place | place | ⟨front, next⟩ | ⟨front, next⟩
    | ⟨front, next⟩ | _ | _ <;> rw [hpoint] at hpoll hm <;>
    simp only [HandlerPoint.front, HandlerPoint.next, List.nil_append, List.append_nil,
      List.singleton_append, reduceCtorEq] at hpoll hm
  · obtain rfl := Option.some.inj hpoll
    exact pollBranch_sound hm buffered branch
  · split_ifs at hpoll
    obtain rfl := Option.some.inj hpoll
    exact hm.respond buffered false rfl rfl
  · split_ifs at hpoll
    obtain rfl := Option.some.inj hpoll
    exact subscribed_sound hm buffered
  · exact awaited_sound (socksStands env) hm hpoll
  · exact awaited_sound (sandstormStands env) hm hpoll
  · exact awaited_sound (metricsStands env) hm hpoll

theorem step_sound (hs : ∃ done, Sound env h done) {action : Action} {h' : ResponseHandler}
    (hstep : step env h action = some h') : ∃ done', Sound env h' done' := by
  obtain ⟨done, hs⟩ := hs
  obtain ⟨⟨hanswers, horder, htaken, hclosed⟩, hreturned, halive⟩ := hs
  unfold step at hstep
  rcases action with notification | _ | place | event | buffered <;> simp only at hstep
  · split_ifs at hstep with hdropped
    obtain rfl := Option.some.inj hstep
    refine ⟨done, ⟨hanswers, ?_, htaken.trans (by simp), fun h' => ?_⟩, hreturned, halive⟩
    · rw [List.take_append_of_le_length htaken]
      exact horder
    · exact absurd (hclosed h').1 hdropped
  · obtain rfl := Option.some.inj hstep
    exact ⟨done, ⟨hanswers, horder, htaken, fun h' => ⟨rfl, (hclosed h').2⟩⟩, hreturned, halive⟩
  · obtain rfl := Option.some.inj hstep
    exact ⟨done, ⟨hanswers, horder, htaken, hclosed⟩, hreturned, halive⟩
  · obtain rfl := Option.some.inj hstep
    exact ⟨done, ⟨hanswers, horder, htaken, hclosed⟩, hreturned, halive⟩
  · exact poll_sound ⟨⟨hanswers, horder, htaken, hclosed⟩, hreturned, halive⟩ hstep

theorem start_sound : Sound env start [] :=
  ⟨⟨.nil, SameOrder.refl _ _, le_rfl, fun hclosed => absurd hclosed (by decide)⟩,
    (fun hreturned => by cases hreturned), (fun hpanicked => by cases hpanicked)⟩

theorem run_sound {actions : List Action} (hrun : run env actions = some h) :
    ∃ done, Sound env h done :=
  runSteps_keeps (fun _ _ _ hs hstep => step_sound hs hstep) ⟨[], start_sound⟩ hrun

end Step

section Run

theorem zipIdx_take_isPrefix {α : Type} (xs : List α) (n : ℕ) :
    (xs.take n).zipIdx <+: xs.zipIdx := by
  conv_rhs => rw [← List.take_append_drop n xs, List.zipIdx_append]
  exact List.prefix_append _ _

theorem Sound.responsesOf_isPrefix (hs : Sound env h done) (g : SyncGroup) :
    h.responsesOf g <+: h.requestsOf g := by
  unfold responsesOf requestsOf
  rw [hs.mid.answers.places g]
  refine List.IsPrefix.map _ ((hs.mid.order.filter_isPrefix g).trans ?_)
  exact (zipIdx_take_isPrefix h.notifications h.taken).filter _

theorem Sound.notification_of_mem (hs : Sound env h done) (hmem : entry ∈ done) :
    h.notifications[entry.2]? = some entry.1 := by
  have htaken : entry ∈ (h.notifications.take h.taken).zipIdx :=
    hs.mid.order.perm.mem_iff.1 (List.mem_append_left _ hmem)
  have hall := (zipIdx_take_isPrefix h.notifications h.taken).subset htaken
  exact List.mem_zipIdx_iff_getElem?.1 hall

theorem Sound.places_perm (hs : Sound env h done) (hreturned : h.point = .returned) :
    (h.written.filterMap Prod.fst).Perm (List.range h.notifications.length) := by
  obtain ⟨hclosed, -, hqueued⟩ := hs.returned hreturned
  have hperm := hs.mid.order.perm
  rw [hreturned, hqueued, (hs.mid.closed hclosed).2, List.take_length] at hperm
  have hplaces := hperm.map Prod.snd
  rw [List.zipIdx_map_snd, ← List.range_eq_range'] at hplaces
  rw [hs.mid.answers.all_places]
  simpa [HandlerPoint.front, HandlerPoint.next] using hplaces

/-- Of each group the responses written so far are for the first of its notifications, in the order
in which these came; each is the response to its notification, and what else is written are events.
Once the handler has returned each notification has been answered once, and nothing is left in the
writer's buffer. -/
theorem answered_run {actions : List Action} (hrun : run env actions = some h) :
    (∀ g, h.responsesOf g <+: h.requestsOf g)
      ∧ (∀ place message, (some place, message) ∈ h.written → ∃ notification streaming,
        h.notifications[place]? = some notification
          ∧ message = env.response streaming place notification)
      ∧ (∀ message, (none, message) ∈ h.written → ∃ event, message = .eventStream event)
      ∧ (h.point = .returned → h.senderDropped = true ∧ h.buffered = false
        ∧ ∀ place, place < h.notifications.length →
          (h.written.filterMap Prod.fst).count place = 1) := by
  obtain ⟨done, hs⟩ := run_sound hrun
  refine ⟨hs.responsesOf_isPrefix, fun place message hmem => ?_,
    fun message => hs.mid.answers.event_of_none, fun hreturned => ?_⟩
  · obtain ⟨notification, streaming, hdone, hmessage⟩ := hs.mid.answers.response hmem
    exact ⟨notification, streaming, hs.notification_of_mem hdone, hmessage⟩
  · obtain ⟨hclosed, hbuffered, -⟩ := hs.returned hreturned
    refine ⟨(hs.mid.closed hclosed).1, hbuffered, fun place hplace => ?_⟩
    rw [(hs.places_perm hreturned).count_eq]
    exact List.count_eq_one_of_mem List.nodup_range (List.mem_range.2 hplace)

/-- The `unwrap`s of `handle_notification` do not panic. -/
theorem not_panicked_run {actions : List Action} (hrun : run env actions = some h) :
    h.point ≠ .panicked := by
  obtain ⟨done, hs⟩ := run_sound hrun
  exact hs.alive

end Run

section FullQueue

noncomputable def quietEnv : ResponseEnv where
  sockets _ := ⟨[]⟩
  socketAdded _ := .ok ()
  socketRemoved _ := .ok
  metrics _ := ⟨0, 0, 0, 0, 0, 0⟩
  subscription _ := none
  listing _ users := ⟨users.toList⟩
  listing_val _ users := Multiset.coe_toList users
  socksCapacity := 4
  sandstormCapacity := 4
  metricsCapacity := 4
  le_socksCapacity := le_rfl
  le_sandstormCapacity := le_rfl
  le_metricsCapacity := le_rfl

/-- The fifth request for the sockets waits for the first one's answer, and a ping comes after. -/
def fullQueue : List Action :=
  List.replicate 5 (.notify .listSocks5Sockets) ++ [.notify .meow, .dropSender]
    ++ List.replicate 5 (.poll true) ++ [.answer 0] ++ List.replicate 3 (.poll true)
    ++ [.answer 1, .answer 2, .answer 3, .answer 4] ++ List.replicate 14 (.poll true)

theorem answered_run_fullQueue : ∃ h, run quietEnv fullQueue = some h ∧ h.point = .returned
    ∧ h.written.filterMap Prod.fst = [0, 5, 1, 2, 3, 4]
    ∧ h.responsesOf .socks5Sockets <+: h.requestsOf .socks5Sockets
    ∧ ∀ place, place < h.notifications.length →
      (h.written.filterMap Prod.fst).count place = 1 := by
  obtain ⟨h, hrun⟩ : ∃ h, run quietEnv fullQueue = some h := ⟨_, rfl⟩
  obtain ⟨hinOrder, -, -, hreturned⟩ := answered_run hrun
  obtain rfl := Option.some.inj (hrun.symm.trans rfl)
  exact ⟨_, hrun, rfl, rfl, hinOrder _, (hreturned rfl).2.2⟩

end FullQueue

end ResponseHandler

/-! ## Where the notifications come from -/

namespace ClientRequest

section Notified

variable {ρ : Type} {env : SandstormEnv}

/-- The notifications among a connection's effects. -/
def notified (effects : List SandstormEffect) : List ResponseNotification :=
  effects.filterMap fun
    | .notify notification => some notification
    | _ => none

theorem notified_append (effects effects' : List SandstormEffect) :
    notified (effects ++ effects') = notified effects ++ notified effects' :=
  List.filterMap_append

theorem notified_logs (events : List EventData) :
    notified (events.map SandstormEffect.log) = [] := by
  simp [notified]

theorem askMainLoop_notified {operation : SandstormContext → MessageType × List EventData}
    {conn conn' : SandstormConn ρ} {u : Unit}
    (h : askMainLoop operation conn = (.ok u, conn')) :
    notified conn'.effects = notified conn.effects := by
  cases h
  show notified (conn.effects ++ ((operation conn.state).2.map .log
    ++ [.message (operation conn.state).1])) = _
  rw [notified_append, notified_append, notified_logs]
  exact List.append_nil _

theorem operate_notified {α : Type} {a : α}
    {operation : SandstormContext → α × ServerState × List EventData}
    {conn conn' : SandstormConn ρ} (h : operate operation conn = (.ok a, conn')) :
    notified conn'.effects = notified conn.effects := by
  cases h
  show notified (conn.effects ++ (operation conn.state).2.2.map .log) = _
  rw [notified_append, notified_logs, List.append_nil]

theorem requestMetrics_notified {receiver : Bool} {conn conn' : SandstormConn ρ}
    (h : requestMetrics env conn = (.ok receiver, conn')) :
    notified conn'.effects = notified conn.effects := by
  unfold requestMetrics at h
  rw [Proc.bind_ok (Proc.get_apply _)] at h
  split_ifs at h <;> cases h
  · exact (notified_append _ _).trans (List.append_nil _)
  · rfl

/-- Acting on a request notifies nobody yet, and the notification is for the request's type. -/
theorem act_notified (q : ClientRequest) {conn conn' : SandstormConn ρ}
    {notification : ResponseNotification} (h : q.act env conn = (.ok notification, conn')) :
    notification.command = q.command ∧ notified conn'.effects = notified conn.effects := by
  cases q with
  | shutdown | listSocks5Sockets | addSocks5Socket | removeSocks5Socket | listSandstormSockets
  | addSandstormSocket | removeSandstormSocket =>
    obtain ⟨_, _, hask, hrest⟩ := Proc.bind_eq_ok h
    cases hrest
    exact ⟨rfl, askMainLoop_notified hask⟩
  | addUser | updateUser | deleteUser | toggleAuthMethod | setBufferSize =>
    obtain ⟨_, _, hoperate, hrest⟩ := Proc.bind_eq_ok h
    cases hrest
    exact ⟨rfl, operate_notified hoperate⟩
  | requestCurrentMetrics =>
    obtain ⟨_, _, hmetrics, hrest⟩ := Proc.bind_eq_ok h
    cases hrest
    exact ⟨rfl, requestMetrics_notified hmetrics⟩
  | eventStreamConfig | listUsers | listAuthMethods | getBufferSize | meow =>
    cases h
    exact ⟨rfl, rfl⟩

/-- While the handler listens, the notifications it is sent are one for each request served, of the
same types and in the same order. -/
theorem serveAll_notified (h : Listening env) :
    ∀ (requests : List ClientRequest) (conn : SandstormConn ρ),
      (notified (serveAll env requests conn).2.effects).map ResponseNotification.command
        = (notified conn.effects).map ResponseNotification.command ++ requests.map command
  | [], conn => (List.append_nil _).symm
  | q :: requests, conn => by
    unfold serveAll
    rw [Proc.bind_ok (Conn.perform_apply _ _)]
    obtain ⟨notification, conn1, hact⟩ := act_ok env q
      ⟨conn.reader, conn.state, conn.effects ++ [.runCommand q.command]⟩
    obtain ⟨hcommand, hnotified⟩ := act_notified q hact
    have hserve : q.serve env ⟨conn.reader, conn.state, conn.effects ++ [.runCommand q.command]⟩
        = (.ok (), ⟨conn1.reader, conn1.state, conn1.effects ++ [.notify notification]⟩) := by
      unfold serve notify
      rw [Proc.bind_ok hact, Proc.bind_ok (Proc.get_apply _),
        Proc.bind_ok (Conn.perform_apply _ _), if_pos (h _)]
      rfl
    rw [Proc.bind_ok hserve, serveAll_notified h requests]
    have hone : notified [.notify notification] = [notification] := rfl
    have hnone : notified [.runCommand q.command] = [] := rfl
    rw [notified_append, hnotified, notified_append, hone, hnone]
    simp [hcommand]

end Notified

end ClientRequest

end DustDevil
