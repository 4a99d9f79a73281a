import DustDevil.Lib.Trace
import DustDevil.Proofs.ResponseHandler

/-!
# When events are streamed

Events are written only while the last response to a configuration that has been written says that
the stream is on, which is while there is a receiver of events (`Streams`). What a step does to the
stream is one of seven things (`Streamed`), and none of them loses an event: what has been written
since the stream was turned on, and what the receiver still holds, is what the receiver got
(`eventStream_run`).
-/

namespace DustDevil

open Wire

section Written

def ServerMessage.config? : ServerMessage → Option EventStreamConfigResponse
  | .eventStreamConfig answer => some answer
  | _ => none

def ServerMessage.event? : ServerMessage → Option Event
  | .eventStream event => some event
  | _ => none

/-- The last response to a configuration that has been written leaves the stream on. -/
def Streaming (written : List (Option ℕ × ServerMessage)) : Prop :=
  ∃ answer, latest (fun entry => entry.2.config?) written = some answer ∧ answer ≠ .disabled

def eventsOf (written : List (Option ℕ × ServerMessage)) : List Event :=
  written.filterMap fun entry => entry.2.event?

variable {written : List (Option ℕ × ServerMessage)} {place : Option ℕ} {message : ServerMessage}

theorem streaming_snoc_other (h : message.config? = none) :
    Streaming (written ++ [(place, message)]) ↔ Streaming written := by
  simp [Streaming, h]

theorem streaming_snoc_config {answer : EventStreamConfigResponse} :
    Streaming (written ++ [(place, .eventStreamConfig answer)]) ↔ answer ≠ .disabled := by
  simp [Streaming, ServerMessage.config?]

theorem eventsOf_append (written since : List (Option ℕ × ServerMessage)) :
    eventsOf (written ++ since) = eventsOf written ++ eventsOf since := List.filterMap_append

end Written

namespace ResponseHandler

/-! ## What a step does to the stream -/

section Streamed

variable {env : ResponseEnv} {h h' : ResponseHandler}

/-- The events that the receiver holds, if there is one. -/
def receiver (h : ResponseHandler) : Option (List Event) := h.handlerState.eventStreamReceiver

/-- While the subscription is awaited the stream is off, and it was asked for. -/
def Asked (h : ResponseHandler) : Prop :=
  ∀ place, h.point = .subscribing place →
    h.notifications[place]? = some (.logEventConfig true) ∧ h.receiver = none

/-- What is written and what becomes of the receiver. -/
inductive Streamed (env : ResponseEnv) (h h' : ResponseHandler) : Prop where
  | silent (hwritten : h'.written = h.written) (hreceiver : h'.receiver = h.receiver)
  | respond (place : ℕ) (message : ServerMessage) (hconfig : message.config? = none)
      (hevent : message.event? = none)
      (hwritten : h'.written = h.written ++ [(some place, message)])
      (hreceiver : h'.receiver = h.receiver)
  | event (event : Event) (events : List Event) (hholds : h.receiver = some (event :: events))
      (hwritten : h'.written = h.written ++ [(none, .eventStream event)])
      (hreceiver : h'.receiver = some events)
  | disabled (place : ℕ) (hasked : h.notifications[place]? = some (.logEventConfig false))
      (hwritten : h'.written = h.written ++ [(some place, .eventStreamConfig .disabled)])
      (hreceiver : h'.receiver = none)
  | refused (place : ℕ) (hasked : h.notifications[place]? = some (.logEventConfig true))
      (hoff : h.receiver = none)
      (hwritten : h'.written = h.written ++ [(some place, .eventStreamConfig .disabled)])
      (hreceiver : h'.receiver = none)
  | wasAlreadyEnabled (place : ℕ) (events : List Event)
      (hasked : h.notifications[place]? = some (.logEventConfig true))
      (hon : h.receiver = some events)
      (hwritten : h'.written = h.written ++ [(some place, .eventStreamConfig .wasAlreadyEnabled)])
      (hreceiver : h'.receiver = some events)
  | enabled (place : ℕ) (metrics : Metrics) (events : List Event)
      (hasked : h.notifications[place]? = some (.logEventConfig true)) (hoff : h.receiver = none)
      (hsubscribed : env.subscription place = some (metrics, events))
      (hwritten : h'.written = h.written ++ [(some place, .eventStreamConfig (.enabled metrics))])
      (hreceiver : h'.receiver = some events)

/-- A step of the handler, which sends itself no notification. -/
structure Polled (env : ResponseEnv) (h h' : ResponseHandler) : Prop where
  notifications : h'.notifications = h.notifications
  streamed : Streamed env h h'
  asked : h'.Asked

/-- The two have been asked the same, have written the same and hold the same events. -/
structure SameStream (h h' : ResponseHandler) : Prop where
  notifications : h'.notifications = h.notifications
  written : h'.written = h.written
  receiver : h'.receiver = h.receiver

theorem SameStream.refl (h : ResponseHandler) : SameStream h h := ⟨rfl, rfl, rfl⟩

theorem SameStream.goto (hs : SameStream h h') (point : HandlerPoint) :
    SameStream h (h'.goto point) := ⟨hs.1, hs.2, hs.3⟩

theorem SameStream.flush (hs : SameStream h h') : SameStream h h'.flush := ⟨hs.1, hs.2, hs.3⟩

@[simp] theorem endRound_written (h : ResponseHandler) : h.endRound.written = h.written := by
  unfold endRound ResponseHandler.goto
  split_ifs <;> rfl

@[simp] theorem endRound_receiver (h : ResponseHandler) : h.endRound.receiver = h.receiver := by
  unfold endRound ResponseHandler.goto
  split_ifs <;> rfl

@[simp] theorem endRound_notifications (h : ResponseHandler) :
    h.endRound.notifications = h.notifications := by
  unfold endRound ResponseHandler.goto
  split_ifs <;> rfl

theorem endRound_asked (h : ResponseHandler) : h.endRound.Asked := by
  intro place hpoint
  unfold endRound ResponseHandler.goto at hpoint
  split_ifs at hpoint

theorem respond_written (h : ResponseHandler) (buffered : Bool) (place : ℕ)
    (message : ServerMessage) :
    (h.respond buffered place message).written = h.written ++ [(some place, message)] :=
  endRound_written _

theorem respond_receiver (h : ResponseHandler) (buffered : Bool) (place : ℕ)
    (message : ServerMessage) : (h.respond buffered place message).receiver = h.receiver :=
  endRound_receiver _

theorem respond_notifications (h : ResponseHandler) (buffered : Bool) (place : ℕ)
    (message : ServerMessage) :
    (h.respond buffered place message).notifications = h.notifications := endRound_notifications _

theorem SameStream.endRound (hs : SameStream h h') : SameStream h h'.endRound :=
  ⟨(endRound_notifications h').trans hs.1, (endRound_written h').trans hs.2,
    (endRound_receiver h').trans hs.3⟩

theorem SameStream.polled (hs : SameStream h h') (hasked : h'.Asked) : Polled env h h' :=
  ⟨hs.notifications, .silent hs.written hs.receiver, hasked⟩

theorem SameStream.polled_goto (hs : SameStream h h') {point : HandlerPoint}
    (hpoint : ∀ place, point ≠ .subscribing place) : Polled env h (h'.goto point) :=
  (hs.goto point).polled fun place hplace => absurd hplace (hpoint place)

theorem SameStream.polled_endRound (hs : SameStream h h') : Polled env h h'.endRound :=
  hs.endRound.polled (endRound_asked h')

/-- A response that is about something else. -/
structure Aside (message : ServerMessage) : Prop where
  config : message.config? = none
  event : message.event? = none

theorem SameStream.respond (hs : SameStream h h') {place : ℕ} {message : ServerMessage}
    (buffered : Bool) (haside : Aside message) :
    Polled env h (h'.respond buffered place message) := by
  refine ⟨?_, .respond place message haside.config haside.event ?_ ?_, endRound_asked _⟩
  · rw [respond_notifications, hs.notifications]
  · rw [respond_written, hs.written]
  · rw [respond_receiver, hs.receiver]

section Queues

variable {α : Type} {q : ReceiverQueue α}

/-- A queue of receivers of something else. -/
structure AsideQueue (q : ReceiverQueue α) : Prop where
  response : ∀ receiver, Aside (q.response receiver)
  setReceivers : ∀ state receivers,
    (q.setReceivers state receivers).eventStreamReceiver = state.eventStreamReceiver
  awaiting : ∀ front next place, q.awaiting front next ≠ .subscribing place

theorem socksQueue_aside (env : ResponseEnv) : AsideQueue env.socksQueue :=
  ⟨fun receiver => by cases receiver <;> exact ⟨rfl, rfl⟩, fun _ _ => rfl, fun _ _ _ => nofun⟩

theorem sandstormQueue_aside (env : ResponseEnv) : AsideQueue env.sandstormQueue :=
  ⟨fun receiver => by cases receiver <;> exact ⟨rfl, rfl⟩, fun _ _ => rfl, fun _ _ _ => nofun⟩

theorem metricsQueue_aside (env : ResponseEnv) : AsideQueue env.metricsQueue :=
  ⟨fun _ => ⟨rfl, rfl⟩, fun _ _ => rfl, fun _ _ _ => nofun⟩

theorem SameStream.setQueue (hs : SameStream h h') (hq : AsideQueue q) (receivers : List α) :
    SameStream h (h'.setQueue q receivers) :=
  ⟨hs.1, hs.2, (hq.setReceivers _ _).trans hs.3⟩

theorem SameStream.receive (hs : SameStream h h') (hq : AsideQueue q) (receiver : α) :
    Polled env h (h'.receive q receiver) := by
  unfold ResponseHandler.receive
  split_ifs
  · rcases q.receivers h'.handlerState with _ | ⟨front, receivers⟩
    · exact hs.polled_goto nofun
    · exact (hs.setQueue hq receivers).polled_goto (hq.awaiting front receiver)
  · exact (hs.setQueue hq _).polled_endRound

theorem polled_getFirst (hq : AsideQueue q) (buffered : Bool) {branch : SelectBranch} :
    Polled env h ((h.getFirst q buffered).getD (h.goto (.polling branch))) := by
  unfold getFirst
  split
  · split_ifs
    · exact ((SameStream.refl h).setQueue hq _).respond buffered (hq.response _)
    · exact (SameStream.refl h).polled_goto nofun
  · exact (SameStream.refl h).polled_goto nofun

theorem polled_awaited (hq : AsideQueue q) {buffered : Bool} {front next : α}
    (hpoll : h.awaited q buffered front next = some h') : Polled env h h' := by
  unfold awaited at hpoll
  split_ifs at hpoll
  obtain rfl := Option.some.inj hpoll
  exact ((SameStream.refl h).setQueue hq _).respond buffered (hq.response front)

end Queues

theorem handleConfig_polled (hs : SameStream h h') {place : ℕ} {enabled : Bool} (buffered : Bool)
    (hplace : h.notifications[place]? = some (.logEventConfig enabled)) :
    Polled env h (h'.handleNotification env buffered place (.logEventConfig enabled)) := by
  have hreceiver := hs.receiver
  unfold receiver at hreceiver
  simp only [handleNotification]
  rcases enabled with _ | _
  · refine ⟨?_, .disabled place hplace ?_ (respond_receiver _ _ _ _), endRound_asked _⟩
    · exact (respond_notifications _ _ _ _).trans hs.notifications
    · rw [respond_written, setEvents, hs.written]
  rcases hevents : h'.handlerState.eventStreamReceiver with _ | events <;>
    rw [hevents] at hreceiver <;> simp only
  · refine (hs.goto _).polled fun place' hpoint => ?_
    cases hpoint
    exact ⟨by rw [(hs.goto _).notifications, hplace], hevents⟩
  · refine ⟨?_, .wasAlreadyEnabled place events hplace hreceiver.symm ?_ ?_, endRound_asked _⟩
    · rw [respond_notifications, hs.notifications]
    · rw [respond_written, hs.written]
    · exact (respond_receiver _ _ _ _).trans hevents

theorem handleNotification_polled (hs : SameStream h h') {place : ℕ}
    {notification : ResponseNotification} (buffered : Bool)
    (hplace : h.notifications[place]? = some notification) :
    Polled env h (h'.handleNotification env buffered place notification) := by
  rcases notification with _ | enabled | _ | _ | _ | _ | _ | _ | snapshot | result | result
    | result | authMethods | result | maybeReceiver | bufferSize | result | _ <;>
    simp only [handleNotification]
  · exact hs.polled_goto nofun
  · exact handleConfig_polled hs buffered hplace
  · exact hs.receive (socksQueue_aside env) _
  · exact hs.receive (socksQueue_aside env) _
  · exact hs.receive (socksQueue_aside env) _
  · exact hs.receive (sandstormQueue_aside env) _
  · exact hs.receive (sandstormQueue_aside env) _
  · exact hs.receive (sandstormQueue_aside env) _
  · exact hs.respond buffered ⟨rfl, rfl⟩
  · exact hs.respond buffered ⟨rfl, rfl⟩
  · exact hs.respond buffered ⟨rfl, rfl⟩
  · exact hs.respond buffered ⟨rfl, rfl⟩
  · exact hs.respond buffered ⟨rfl, rfl⟩
  · exact hs.respond buffered ⟨rfl, rfl⟩
  · exact hs.receive (metricsQueue_aside env) _
  · exact hs.respond buffered ⟨rfl, rfl⟩
  · refine ⟨(endRound_notifications _).trans hs.notifications,
      .respond place (.setBufferSize result) rfl rfl ?_ ?_, endRound_asked _⟩
    · rw [endRound_written, ResponseHandler.flush, write, hs.written]
    · exact (endRound_receiver _).trans hs.receiver
  · exact hs.respond buffered ⟨rfl, rfl⟩

theorem pollBranch_polled (buffered : Bool) (branch : SelectBranch) :
    Polled env h (h.pollBranch env buffered branch) := by
  have hs := SameStream.refl h
  rcases branch with _ | _ | _ | _ | _ | _ <;> simp only [pollBranch]
  · by_cases hclosed : h.closed = true
    · rw [if_pos hclosed]
      exact hs.polled_goto nofun
    rw [if_neg hclosed]
    rcases hnext : h.notifications[h.taken]? with _ | notification <;> simp only
    · split_ifs
      · exact SameStream.polled_endRound ⟨rfl, rfl, rfl⟩
      · exact hs.polled_goto nofun
    · have htaken : SameStream h { h with taken := h.taken + 1 } := ⟨rfl, rfl, rfl⟩
      exact handleNotification_polled htaken buffered hnext
  · exact polled_getFirst (socksQueue_aside env) buffered
  · exact polled_getFirst (sandstormQueue_aside env) buffered
  · exact polled_getFirst (metricsQueue_aside env) buffered
  · rcases hevents : h.handlerState.eventStreamReceiver with _ | _ | ⟨event, events⟩ <;> simp only
    · exact hs.polled_goto nofun
    · exact hs.polled_goto nofun
    · exact ⟨endRound_notifications _, .event event events hevents (endRound_written _)
        (endRound_receiver _), endRound_asked _⟩
  · split_ifs
    · exact hs.flush.polled_endRound
    · exact hs.polled_goto nofun

theorem subscribed_polled {place : ℕ} (buffered : Bool)
    (hasked : h.notifications[place]? = some (.logEventConfig true) ∧ h.receiver = none) :
    Polled env h (h.subscribed env buffered place) := by
  obtain ⟨hplace, hoff⟩ := hasked
  unfold subscribed
  rcases hsubscription : env.subscription place with _ | ⟨metrics, events⟩ <;> simp only
  · exact ⟨respond_notifications _ _ _ _, .refused place hplace hoff (respond_written _ _ _ _)
      ((respond_receiver _ _ _ _).trans hoff), endRound_asked _⟩
  · exact ⟨respond_notifications _ _ _ _, .enabled place metrics events hplace hoff hsubscription
      (respond_written _ _ _ _) (respond_receiver _ _ _ _), endRound_asked _⟩

theorem poll_polled (hasked : h.Asked) {buffered : Bool}
    (hpoll : h.poll env buffered = some h') : Polled env h h' := by
  have hs := SameStream.refl h
  unfold poll at hpoll
  rcases hpoint : h.point with branch | place | place | ⟨front, next⟩ | ⟨front, next⟩
    | ⟨front, next⟩ | _ | _ <;> rw [hpoint] at hpoll <;> simp only [reduceCtorEq] at hpoll
  · obtain rfl := Option.some.inj hpoll
    exact pollBranch_polled buffered branch
  · split_ifs at hpoll
    obtain rfl := Option.some.inj hpoll
    exact hs.respond buffered ⟨rfl, rfl⟩
  · split_ifs at hpoll
    obtain rfl := Option.some.inj hpoll
    exact subscribed_polled buffered (hasked place hpoint)
  · exact polled_awaited (socksQueue_aside env) hpoll
  · exact polled_awaited (sandstormQueue_aside env) hpoll
  · exact polled_awaited (metricsQueue_aside env) hpoll

end Streamed

/-! ## Runs -/

section Run

variable {env : ResponseEnv} {h h' : ResponseHandler}

/-- As `Action`, or the handler is over: its receiver of events has lagged behind or is closed, the
sender of an answer is gone, a write has failed or the connection is dropped. -/
inductive StreamAction where
  | act (action : Action)
  | finish

def streamStep (env : ResponseEnv) (h : ResponseHandler) : StreamAction → Option ResponseHandler
  | .act action => step env h action
  | .finish => some (h.goto .returned)

def StreamAction.broadcast? : StreamAction → Option Event
  | act (.broadcast event) => some event
  | _ => none

/-- The events that happen, in order. -/
def broadcasts (actions : List StreamAction) : List Event :=
  actions.filterMap StreamAction.broadcast?

/-- What is written of the stream is allowed by what has been written before. -/
def Allowed (notifications : List ResponseNotification)
    (before : List (Option ℕ × ServerMessage)) (entry : Option ℕ × ServerMessage) : Prop :=
  (∀ event, entry.2 = .eventStream event → Streaming before)
    ∧ ∀ answer, entry.2 = .eventStreamConfig answer → ∃ place enabled, entry.1 = some place
      ∧ notifications[place]? = some (.logEventConfig enabled)
      ∧ (enabled = true → (answer = .wasAlreadyEnabled ↔ Streaming before))

theorem allowed_config {notifications : List ResponseNotification}
    {before : List (Option ℕ × ServerMessage)} {place : ℕ} {enabled : Bool}
    {answer : EventStreamConfigResponse}
    (hasked : notifications[place]? = some (.logEventConfig enabled))
    (hexactly : enabled = true → (answer = .wasAlreadyEnabled ↔ Streaming before)) :
    Allowed notifications before (some place, .eventStreamConfig answer) := by
  refine ⟨fun event heq => (nomatch heq), fun answer' heq => ?_⟩
  cases heq
  exact ⟨place, enabled, rfl, hasked, hexactly⟩

/-- The stream is on exactly while there is a receiver, and each message was allowed. -/
structure Streams (h : ResponseHandler) : Prop where
  receiver_iff : h.receiver ≠ none ↔ Streaming h.written
  allowed : EachAfter (Allowed h.notifications) h.written
  asked : h.Asked

theorem start_streams : start.Streams :=
  ⟨iff_of_false (fun hne => hne rfl) (fun ⟨_, hlatest, _⟩ => nomatch hlatest), .nil,
    fun _ hpoint => nomatch hpoint⟩

/-- A step of the handler keeps to the stream's rules. -/
theorem Streams.polled (hs : h.Streams) (hp : Polled env h h') : h'.Streams := by
  obtain ⟨hiff, hallowed, -⟩ := hs
  obtain ⟨hnotifications, hstreamed, hasked⟩ := hp
  suffices (h'.receiver ≠ none ↔ Streaming h'.written)
      ∧ EachAfter (Allowed h.notifications) h'.written from
    ⟨this.1, hnotifications ▸ this.2, hasked⟩
  cases hstreamed with
  | silent hwritten hreceiver =>
    rw [hwritten, hreceiver]
    exact ⟨hiff, hallowed⟩
  | respond place message hconfig hevent hwritten hreceiver =>
    rw [hwritten, hreceiver, streaming_snoc_other hconfig]
    refine ⟨hiff, hallowed.snoc ⟨fun event heq => ?_, fun answer heq => ?_⟩⟩
    · rw [show message = _ from heq] at hevent
      cases hevent
    · rw [show message = _ from heq] at hconfig
      cases hconfig
  | event event events hholds hwritten hreceiver =>
    have hon : Streaming h.written := hiff.1 (by rw [hholds]; exact nofun)
    rw [hwritten, hreceiver, streaming_snoc_other rfl]
    exact ⟨iff_of_true nofun hon, hallowed.snoc ⟨fun _ _ => hon, fun _ heq => nomatch heq⟩⟩
  | disabled place hasked hwritten hreceiver =>
    rw [hwritten, hreceiver, streaming_snoc_config]
    exact ⟨iff_of_false (fun hne => hne rfl) (fun hne => hne rfl),
      hallowed.snoc (allowed_config hasked nofun)⟩
  | refused place hasked hoff hwritten hreceiver =>
    have hoff' : ¬ Streaming h.written := fun hon => hiff.2 hon hoff
    rw [hwritten, hreceiver, streaming_snoc_config]
    exact ⟨iff_of_false (fun hne => hne rfl) (fun hne => hne rfl),
      hallowed.snoc (allowed_config hasked fun _ => iff_of_false nofun hoff')⟩
  | wasAlreadyEnabled place events hasked hon hwritten hreceiver =>
    have hon' : Streaming h.written := hiff.1 (by rw [hon]; exact nofun)
    rw [hwritten, hreceiver, streaming_snoc_config]
    exact ⟨iff_of_true nofun nofun,
      hallowed.snoc (allowed_config hasked fun _ => iff_of_true rfl hon')⟩
  | enabled place metrics events hasked hoff hsubscribed hwritten hreceiver =>
    have hoff' : ¬ Streaming h.written := fun hon => hiff.2 hon hoff
    rw [hwritten, hreceiver, streaming_snoc_config]
    exact ⟨iff_of_true nofun nofun,
      hallowed.snoc (allowed_config hasked fun _ => iff_of_false nofun hoff')⟩

theorem Streams.notify (hs : h.Streams) (notification : ResponseNotification) :
    Streams { h with notifications := h.notifications ++ [notification] } := by
  have hmore {place : ℕ} {asked : ResponseNotification}
      (hplace : h.notifications[place]? = some asked) :
      (h.notifications ++ [notification])[place]? = some asked := by
    rw [List.getElem?_append_left (List.getElem?_eq_some_iff.1 hplace).1, hplace]
  refine ⟨hs.receiver_iff, hs.allowed.mono fun before entry hallowed => ?_, fun place hpoint => ?_⟩
  · refine ⟨hallowed.1, fun answer heq => ?_⟩
    obtain ⟨place, enabled, hentry, hplace, hexactly⟩ := hallowed.2 answer heq
    exact ⟨place, enabled, hentry, hmore hplace, hexactly⟩
  · obtain ⟨hplace, hoff⟩ := hs.asked place hpoint
    exact ⟨hmore hplace, hoff⟩

theorem Streams.broadcast (hs : h.Streams) (event : Event) :
    Streams (h.setEvents (h.receiver.map fun events => events ++ [event])) := by
  refine ⟨?_, hs.allowed, fun place hpoint => ?_⟩
  · exact (not_congr Option.map_eq_none_iff).trans hs.receiver_iff
  · obtain ⟨hplace, hoff⟩ := hs.asked place hpoint
    exact ⟨hplace, Option.map_eq_none_iff.2 hoff⟩

theorem Streams.step (hs : h.Streams) {action : StreamAction}
    (hstep : streamStep env h action = some h') : h'.Streams := by
  rcases action with (notification | _ | place | event | buffered) | _ <;>
    simp only [streamStep, ResponseHandler.step] at hstep
  · split_ifs at hstep
    obtain rfl := Option.some.inj hstep
    exact hs.notify notification
  · obtain rfl := Option.some.inj hstep
    exact ⟨hs.receiver_iff, hs.allowed, hs.asked⟩
  · obtain rfl := Option.some.inj hstep
    exact ⟨hs.receiver_iff, hs.allowed, hs.asked⟩
  · obtain rfl := Option.some.inj hstep
    exact hs.broadcast event
  · exact hs.polled (poll_polled hs.asked hstep)
  · obtain rfl := Option.some.inj hstep
    exact ⟨hs.receiver_iff, hs.allowed, fun _ hpoint => nomatch hpoint⟩

theorem run_streams {actions : List StreamAction}
    (hrun : runSteps (streamStep env) start actions = some h) : h.Streams :=
  runSteps_keeps (fun _ _ _ hs hstep => hs.step hstep) start_streams hrun

/-- While the stream is on, what is written of the events and what is still held is what was held
and what happened. -/
structure Delivers (h h' : ResponseHandler) (since : List (Option ℕ × ServerMessage))
    (happened : List Event) : Prop where
  written : h'.written = h.written ++ since
  exactly : ∀ events, h.receiver = some events →
    (∀ entry ∈ since, entry.2 ≠ .eventStreamConfig .disabled) →
      ∃ held, h'.receiver = some held ∧ eventsOf since ++ held = events ++ happened

theorem Delivers.still (hwritten : h'.written = h.written) (hreceiver : h'.receiver = h.receiver) :
    Delivers h h' [] [] :=
  ⟨by rw [hwritten, List.append_nil], fun events hevents _ =>
    ⟨events, hreceiver.trans hevents, by simp [eventsOf]⟩⟩

theorem Delivers.trans {h'' : ResponseHandler} {since since' : List (Option ℕ × ServerMessage)}
    {happened happened' : List Event} (hd : Delivers h h' since happened)
    (hd' : Delivers h' h'' since' happened') :
    Delivers h h'' (since ++ since') (happened ++ happened') := by
  refine ⟨by rw [hd'.written, hd.written, List.append_assoc], fun events hevents hon => ?_⟩
  obtain ⟨held, hheld, heq⟩ := hd.exactly events hevents
    fun entry hentry => hon entry (List.mem_append_left _ hentry)
  obtain ⟨held', hheld', heq'⟩ := hd'.exactly held hheld
    fun entry hentry => hon entry (List.mem_append_right _ hentry)
  refine ⟨held', hheld', ?_⟩
  rw [eventsOf_append, List.append_assoc, heq', ← List.append_assoc, heq, List.append_assoc]

theorem Polled.delivers (hp : Polled env h h') : ∃ since, Delivers h h' since [] := by
  cases hp.streamed with
  | silent hwritten hreceiver =>
    exact ⟨[], .still hwritten hreceiver⟩
  | respond place message hconfig hevent hwritten hreceiver =>
    exact ⟨_, hwritten, fun events hevents _ =>
      ⟨events, hreceiver.trans hevents, by simp [eventsOf, hevent]⟩⟩
  | event event events hholds hwritten hreceiver =>
    refine ⟨_, hwritten, fun events' hevents' _ => ⟨events, hreceiver, ?_⟩⟩
    obtain rfl := Option.some.inj (hholds.symm.trans hevents')
    simp [eventsOf, ServerMessage.event?]
  | disabled place hasked hwritten hreceiver =>
    exact ⟨_, hwritten, fun _ _ hon => absurd rfl (hon _ (List.mem_singleton.2 rfl))⟩
  | refused place hasked hoff hwritten hreceiver =>
    exact ⟨_, hwritten, fun _ _ hon => absurd rfl (hon _ (List.mem_singleton.2 rfl))⟩
  | wasAlreadyEnabled place events hasked hon hwritten hreceiver =>
    refine ⟨_, hwritten, fun events' hevents' _ => ⟨events, hreceiver, ?_⟩⟩
    obtain rfl := Option.some.inj (hon.symm.trans hevents')
    simp [eventsOf, ServerMessage.event?]
  | enabled place metrics events hasked hoff hsubscribed hwritten hreceiver =>
    exact ⟨_, hwritten, fun events' hevents' _ => nomatch hoff.symm.trans hevents'⟩

theorem delivers_of_step (hs : h.Streams) {action : StreamAction}
    (hstep : streamStep env h action = some h') :
    ∃ since, Delivers h h' since (broadcasts [action]) := by
  rcases action with (notification | _ | place | event | buffered) | _ <;>
    simp only [streamStep, ResponseHandler.step] at hstep
  · split_ifs at hstep
    obtain rfl := Option.some.inj hstep
    exact ⟨[], .still rfl rfl⟩
  · obtain rfl := Option.some.inj hstep
    exact ⟨[], .still rfl rfl⟩
  · obtain rfl := Option.some.inj hstep
    exact ⟨[], .still rfl rfl⟩
  · obtain rfl := Option.some.inj hstep
    refine ⟨[], (List.append_nil _).symm, fun events hevents _ => ⟨events ++ [event], ?_, rfl⟩⟩
    exact congrArg (Option.map fun events => events ++ [event]) hevents
  · exact (poll_polled hs.asked hstep).delivers
  · obtain rfl := Option.some.inj hstep
    exact ⟨[], .still rfl rfl⟩

theorem delivers_of_run {actions : List StreamAction} :
    ∀ {h h' : ResponseHandler}, h.Streams → runSteps (streamStep env) h actions = some h' →
      ∃ since, Delivers h h' since (broadcasts actions) := by
  induction actions with
  | nil =>
    rintro h h' - hrun
    obtain rfl := Option.some.inj hrun
    exact ⟨[], .still rfl rfl⟩
  | cons action actions ih =>
    intro h h' hs hrun
    obtain ⟨h1, hstep, hrest⟩ := runSteps_cons.1 hrun
    obtain ⟨since, hd⟩ := delivers_of_step hs hstep
    obtain ⟨since', hd'⟩ := ih (hs.step hstep) hrest
    rw [← List.singleton_append, broadcasts, List.filterMap_append]
    exact ⟨_, hd.trans hd'⟩

/-- The step that turns the stream on leaves the subscription's receiver. -/
theorem Polled.subscribed (hp : Polled env h h') {place : ℕ} {metrics : Metrics}
    (hwritten : h'.written = h.written ++ [(some place, .eventStreamConfig (.enabled metrics))]) :
    ∃ events, env.subscription place = some (metrics, events) ∧ h'.receiver = some events := by
  have hentry {entry : Option ℕ × ServerMessage} (h1 : h'.written = h.written ++ [entry]) :
      entry = (some place, .eventStreamConfig (.enabled metrics)) :=
    (List.cons.inj (List.append_cancel_left (h1.symm.trans hwritten))).1
  cases hp.streamed with
  | silent h1 => exact absurd (h1.symm.trans hwritten) (by simp)
  | respond place' message hconfig hevent h1 =>
    obtain ⟨-, rfl⟩ := Prod.mk.inj (hentry h1)
    cases hconfig
  | event event events hholds h1 => cases hentry h1
  | disabled place' hasked h1 => cases hentry h1
  | refused place' hasked hoff h1 => cases hentry h1
  | wasAlreadyEnabled place' events hasked hon h1 => cases hentry h1
  | enabled place' metrics' events hasked hoff hsubscribed h1 hreceiver =>
    cases hentry h1
    exact ⟨events, hsubscribed, hreceiver⟩

/-- An event is written only while the stream is on, a request to turn it on is answered that it was
already on exactly when it was, and what has been written since it was turned on, with what the
receiver still holds, is what the receiver was given at the start and what has happened since. -/
theorem eventStream_run {actions : List StreamAction}
    (hrun : runSteps (streamStep env) start actions = some h) :
    (∀ before place event after, h.written = before ++ (place, .eventStream event) :: after →
      Streaming before)
    ∧ (∀ before place answer after,
      h.written = before ++ (some place, .eventStreamConfig answer) :: after →
      h.notifications[place]? = some (.logEventConfig true) →
      (answer = .wasAlreadyEnabled ↔ Streaming before))
    ∧ ∀ before buffered after h0 h1 place metrics,
      actions = before ++ .act (.poll buffered) :: after →
      runSteps (streamStep env) start before = some h0 →
      streamStep env h0 (.act (.poll buffered)) = some h1 →
      h1.written = h0.written ++ [(some place, .eventStreamConfig (.enabled metrics))] →
      ∃ events since, env.subscription place = some (metrics, events)
        ∧ h.written = h1.written ++ since
        ∧ ((∀ entry ∈ since, entry.2 ≠ .eventStreamConfig .disabled) →
          ∃ held, h.receiver = some held
            ∧ eventsOf since ++ held = events ++ broadcasts after) := by
  have hs := run_streams hrun
  refine ⟨fun before place event after hwritten => ?_, fun before place answer after hwritten hplace
    => ?_, fun before buffered after h0 h1 place metrics hactions hbefore hstep hwritten => ?_⟩
  · exact (hs.allowed before _ after hwritten).1 event rfl
  · obtain ⟨place', enabled, hentry, hplace', hexactly⟩ :=
      (hs.allowed before _ after hwritten).2 answer rfl
    obtain rfl := Option.some.inj hentry
    cases hplace.symm.trans hplace'
    exact hexactly rfl
  · have hs0 := run_streams hbefore
    obtain ⟨events, hsubscription, hreceiver⟩ := (poll_polled hs0.asked hstep).subscribed hwritten
    rw [hactions, runSteps_append, hbefore, Option.bind_some] at hrun
    obtain ⟨h1', hstep', hafter⟩ := runSteps_cons.1 hrun
    obtain rfl := Option.some.inj (hstep.symm.trans hstep')
    obtain ⟨since, hd⟩ := delivers_of_run (hs0.step hstep) hafter
    exact ⟨events, since, hsubscription, hd.written, hd.exactly events hreceiver⟩

/-- The one event of `streamedOnce`. -/
def someEvent : Event := ⟨0, .failedBindAnySocketAborting⟩

noncomputable def streamingEnv : ResponseEnv :=
  { quietEnv with subscription := fun _ => some (⟨0, 0, 0, 0, 0, 0⟩, []) }

/-- The stream is turned on, an event happens and is written. -/
def streamedOnce : List StreamAction :=
  [.act (.notify (.logEventConfig true)), .act (.poll true), .act (.answer 0), .act (.poll true),
    .act (.broadcast someEvent)] ++ List.replicate 5 (.act (.poll true))

theorem eventStream_run_streamedOnce :
    ∃ h, runSteps (streamStep streamingEnv) start streamedOnce = some h
      ∧ h.written = [(some 0, .eventStreamConfig (.enabled ⟨0, 0, 0, 0, 0, 0⟩)),
        (none, .eventStream someEvent)]
      ∧ Streaming [(some 0, .eventStreamConfig (.enabled ⟨0, 0, 0, 0, 0, 0⟩))] := by
  obtain ⟨h, hrun⟩ : ∃ h, runSteps (streamStep streamingEnv) start streamedOnce = some h :=
    ⟨_, rfl⟩
  obtain ⟨hevents, -, -⟩ := eventStream_run hrun
  have hwritten : h.written = [(some 0, .eventStreamConfig (.enabled ⟨0, 0, 0, 0, 0, 0⟩)),
      (none, .eventStream someEvent)] := by
    obtain rfl := Option.some.inj (hrun.symm.trans rfl)
    rfl
  exact ⟨h, hrun, hwritten, hevents [_] none someEvent [] hwritten⟩

end Run

end ResponseHandler

end DustDevil
