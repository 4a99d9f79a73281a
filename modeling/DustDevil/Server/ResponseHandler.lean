import DustDevil.Core.Responses
import DustDevil.Lib.Steps
import DustDevil.Server.Sandstorm

/-!
# The task that writes the responses

`response_handler.rs`: `handle_responses` takes notifications, waits for the receivers that they
bring and writes the responses. A step is one poll of a branch of its biased `select!`, the rest of
the round of its loop if the branch is ready, or one of the waits inside `handle_notification`.
Between two steps notifications and events may arrive and receivers be answered. A receiver is named
by its notification's place among all of them, and `Receiver::recv` and `BufWriter` do not fail.
-/

namespace DustDevil

open Wire

/-- `RECEIVER_BUFFER_SIZE`. -/
def receiverBufferSize : ℕ := 4

inductive SocketRequestReceiver where
  | list (place : ℕ)
  | add (place : ℕ)
  | remove (place : ℕ)

inductive SocketRequestResult where
  | list (result : Vec SocketAddr)
  | add (result : Except IoError Unit)
  | remove (result : RemoveSocketResponse)

/-- A receiver of metrics, if there is one, with the place of its notification. -/
structure MetricsReceiver where
  place : ℕ
  isSome : Bool

/-- What each receiver is sent, by the place of its notification, and what else the handler finds
outside. -/
structure ResponseEnv where
  sockets : ℕ → Vec SocketAddr
  socketAdded : ℕ → Except IoError Unit
  socketRemoved : ℕ → RemoveSocketResponse
  metrics : ℕ → Metrics
  /-- What `request_metrics_and_subscribe` leads to: nothing, or the metrics and a receiver, which
  may already hold events. -/
  subscription : ℕ → Option (Metrics × List Event)
  /-- A users snapshot as the vector that it is. -/
  listing : ℕ → Multiset (Str × UserRole) → Vec (Str × UserRole)
  listing_val : ∀ place users, ((listing place users).val : Multiset (Str × UserRole)) = users
  /-- The capacities of the queues, of which `with_capacity` says this much. -/
  socksCapacity : ℕ
  sandstormCapacity : ℕ
  metricsCapacity : ℕ
  le_socksCapacity : receiverBufferSize ≤ socksCapacity
  le_sandstormCapacity : receiverBufferSize ≤ sandstormCapacity
  le_metricsCapacity : receiverBufferSize ≤ metricsCapacity

structure ResponseHandlerState where
  socksReceivers : List SocketRequestReceiver
  sandstormReceivers : List SocketRequestReceiver
  metricsReceivers : List MetricsReceiver
  /-- The events that the receiver holds, if there is one. -/
  eventStreamReceiver : Option (List Event)

/-- The branches of the `select!`. -/
inductive SelectBranch where
  | notification
  | socks
  | sandstorm
  | metrics
  | event
  | flush
  deriving DecidableEq

/-- What the handler does next. -/
inductive HandlerPoint where
  | polling (branch : SelectBranch)
  | awaitingShutdown (place : ℕ)
  | subscribing (place : ℕ)
  -- a queue is full: its first receiver is awaited, and another one is to be put in
  | awaitingSocks5 (front next : SocketRequestReceiver)
  | awaitingSandstorm (front next : SocketRequestReceiver)
  | awaitingMetrics (front next : MetricsReceiver)
  | returned
  | panicked

structure ResponseHandler where
  /-- The notifications sent to the handler, of which it has taken the first `taken`. -/
  notifications : List ResponseNotification
  taken : ℕ
  /-- Whether the sender of the notifications is gone, and whether the handler knows. -/
  senderDropped : Bool
  closed : Bool
  /-- The places of the receivers that have been answered. -/
  answered : List ℕ
  handlerState : ResponseHandlerState
  /-- What has been written, with the place of the notification that a response is for. -/
  written : List (Option ℕ × ServerMessage)
  /-- Whether there is something in the writer's buffer. -/
  buffered : Bool
  point : HandlerPoint

namespace SocketRequestReceiver

def place : SocketRequestReceiver → ℕ
  | list place => place
  | add place => place
  | remove place => place

def result (env : ResponseEnv) : SocketRequestReceiver → SocketRequestResult
  | list place => .list (env.sockets place)
  | add place => .add (env.socketAdded place)
  | remove place => .remove (env.socketRemoved place)

end SocketRequestReceiver

def MetricsReceiver.result (env : ResponseEnv) (receiver : MetricsReceiver) : Option Metrics :=
  if receiver.isSome then some (env.metrics receiver.place) else none

/-- What `handle_socks5_response` writes. -/
def handleSocks5Response : SocketRequestResult → ServerMessage
  | .list result => .listSocks5Sockets result
  | .add result => .addSocks5Socket result
  | .remove result => .removeSocks5Socket result

/-- What `handle_sandstorm_response` writes. -/
def handleSandstormResponse : SocketRequestResult → ServerMessage
  | .list result => .listSandstormSockets result
  | .add result => .addSandstormSocket result
  | .remove result => .removeSandstormSocket result

/-- One of the queues of receivers, and what is done with a receiver in it. -/
structure ReceiverQueue (α : Type) where
  receivers : ResponseHandlerState → List α
  setReceivers : ResponseHandlerState → List α → ResponseHandlerState
  capacity : ℕ
  place : α → ℕ
  /-- Whether there is something to wait for. -/
  waits : α → Bool
  response : α → ServerMessage
  awaiting : α → α → HandlerPoint

namespace ResponseEnv

variable (env : ResponseEnv)

def socksQueue : ReceiverQueue SocketRequestReceiver where
  receivers state := state.socksReceivers
  setReceivers state receivers := { state with socksReceivers := receivers }
  capacity := env.socksCapacity
  place := SocketRequestReceiver.place
  waits _ := true
  response receiver := handleSocks5Response (receiver.result env)
  awaiting := .awaitingSocks5

def sandstormQueue : ReceiverQueue SocketRequestReceiver where
  receivers state := state.sandstormReceivers
  setReceivers state receivers := { state with sandstormReceivers := receivers }
  capacity := env.sandstormCapacity
  place := SocketRequestReceiver.place
  waits _ := true
  response receiver := handleSandstormResponse (receiver.result env)
  awaiting := .awaitingSandstorm

def metricsQueue : ReceiverQueue MetricsReceiver where
  receivers state := state.metricsReceivers
  setReceivers state receivers := { state with metricsReceivers := receivers }
  capacity := env.metricsCapacity
  place := MetricsReceiver.place
  waits := MetricsReceiver.isSome
  response receiver := .requestCurrentMetrics (receiver.result env)
  awaiting := .awaitingMetrics

end ResponseEnv

namespace ResponseHandler

def start : ResponseHandler :=
  ⟨[], 0, false, false, [], ⟨[], [], [], none⟩, [], false, .polling .notification⟩

section Round

variable (h : ResponseHandler)

def goto (point : HandlerPoint) : ResponseHandler := { h with point := point }

def setEvents (receiver : Option (List Event)) : ResponseHandler :=
  { h with handlerState := { h.handlerState with eventStreamReceiver := receiver } }

/-- `buffered` is whether the writer then has something in its buffer, which it writes through when
it is full. -/
def write (buffered : Bool) (place : Option ℕ) (message : ServerMessage) : ResponseHandler :=
  { h with written := h.written ++ [(place, message)], buffered := buffered }

def flush : ResponseHandler := { h with buffered := false }

/-- The condition of the loop. -/
def endRound : ResponseHandler :=
  if !h.closed || h.buffered || !h.handlerState.socksReceivers.isEmpty
      || !h.handlerState.sandstormReceivers.isEmpty || !h.handlerState.metricsReceivers.isEmpty then
    h.goto (.polling .notification)
  else h.goto .returned

/-- The rest of a round in which a response is written. -/
def respond (buffered : Bool) (place : ℕ) (message : ServerMessage) : ResponseHandler :=
  (h.write buffered (some place) message).endRound

end Round

section Queue

variable {α : Type} (q : ReceiverQueue α) (h : ResponseHandler)

def setQueue (receivers : List α) : ResponseHandler :=
  { h with handlerState := q.setReceivers h.handlerState receivers }

def ready (receiver : α) : Bool := !q.waits receiver || q.place receiver ∈ h.answered

/-- The arms of `handle_notification` that put a receiver in a queue. -/
def receive (receiver : α) : ResponseHandler :=
  if (q.receivers h.handlerState).length = q.capacity then
    match q.receivers h.handlerState with
    | front :: receivers => (h.setQueue q receivers).goto (q.awaiting front receiver)
    | [] => h.goto .panicked
  else (h.setQueue q (q.receivers h.handlerState ++ [receiver])).endRound

/-- A poll of `get_first_if` or `get_first_optional`, and what its branch does with the result. -/
def getFirst (buffered : Bool) : Option ResponseHandler :=
  match q.receivers h.handlerState with
  | receiver :: receivers =>
    if h.ready q receiver then
      some ((h.setQueue q receivers).respond buffered (q.place receiver) (q.response receiver))
    else none
  | [] => none

/-- What follows the wait for the first receiver of a full queue. -/
def awaited (buffered : Bool) (front next : α) : Option ResponseHandler :=
  if h.ready q front then
    some ((h.setQueue q (q.receivers h.handlerState ++ [next])).respond buffered (q.place front)
      (q.response front))
  else none

end Queue

section Handle

variable (env : ResponseEnv) (h : ResponseHandler)

/-- The rest of the round once `handle_notification` has been called, up to its first wait if there
is one. -/
def handleNotification (buffered : Bool) (place : ℕ) : ResponseNotification → ResponseHandler
  | .shutdown => h.goto (.awaitingShutdown place)
  | .logEventConfig enabled =>
    match enabled, h.handlerState.eventStreamReceiver with
    | false, _ =>
      (h.setEvents none).respond buffered place (.eventStreamConfig .disabled)
    | true, some _ => h.respond buffered place (.eventStreamConfig .wasAlreadyEnabled)
    | true, none => h.goto (.subscribing place)
  | .listSocks5Sockets => h.receive env.socksQueue (.list place)
  | .addSocks5Socket => h.receive env.socksQueue (.add place)
  | .removeSocks5Socket => h.receive env.socksQueue (.remove place)
  | .listSandstormSockets => h.receive env.sandstormQueue (.list place)
  | .addSandstormSocket => h.receive env.sandstormQueue (.add place)
  | .removeSandstormSocket => h.receive env.sandstormQueue (.remove place)
  | .listUsers snapshot => h.respond buffered place (.listUsers (env.listing place snapshot))
  | .addUser result => h.respond buffered place (.addUser result)
  | .updateUser result => h.respond buffered place (.updateUser result)
  | .deleteUser result => h.respond buffered place (.deleteUser result)
  | .listAuthMethods authMethods => h.respond buffered place (.listAuthMethods ⟨authMethods⟩)
  | .toggleAuthMethod result => h.respond buffered place (.toggleAuthMethod result)
  | .requestCurrentMetrics maybeReceiver => h.receive env.metricsQueue ⟨place, maybeReceiver⟩
  | .getBufferSize bufferSize => h.respond buffered place (.getBufferSize bufferSize)
  | .setBufferSize result =>
    ((h.write buffered (some place) (.setBufferSize result)).flush).endRound
  | .meow => h.respond buffered place .meow

/-- A poll of a branch. If the branch is not ready the next one is polled, and after the last one
the handler is woken to poll from the first. -/
def pollBranch (buffered : Bool) : SelectBranch → ResponseHandler
  | .notification =>
    if h.closed then h.goto (.polling .socks)
    else
      match h.notifications[h.taken]? with
      | some notification =>
        ({ h with taken := h.taken + 1 } : ResponseHandler).handleNotification env buffered h.taken
          notification
      | none =>
        if h.senderDropped then ({ h with closed := true } : ResponseHandler).endRound
        else h.goto (.polling .socks)
  | .socks => (h.getFirst env.socksQueue buffered).getD (h.goto (.polling .sandstorm))
  | .sandstorm => (h.getFirst env.sandstormQueue buffered).getD (h.goto (.polling .metrics))
  | .metrics => (h.getFirst env.metricsQueue buffered).getD (h.goto (.polling .event))
  | .event =>
    match h.handlerState.eventStreamReceiver with
    | some (event :: events) =>
      ((h.setEvents (some events)).write buffered none (.eventStream event)).endRound
    | _ => h.goto (.polling .flush)
  | .flush => if h.buffered then h.flush.endRound else h.goto (.polling .notification)

/-- What follows the wait for `request_metrics_and_subscribe` and its receiver. -/
def subscribed (buffered : Bool) (place : ℕ) : ResponseHandler :=
  match env.subscription place with
  | some (metrics, events) =>
    (h.setEvents (some events)).respond buffered place (.eventStreamConfig (.enabled metrics))
  | none => h.respond buffered place (.eventStreamConfig .disabled)

/-- The handler's next step, if it has one: `none` while it waits. -/
def poll (buffered : Bool) : Option ResponseHandler :=
  match h.point with
  | .polling branch => some (h.pollBranch env buffered branch)
  | .awaitingShutdown place =>
    if place ∈ h.answered then some (h.respond buffered place .shutdown) else none
  | .subscribing place =>
    if place ∈ h.answered then some (h.subscribed env buffered place) else none
  | .awaitingSocks5 front next => h.awaited env.socksQueue buffered front next
  | .awaitingSandstorm front next => h.awaited env.sandstormQueue buffered front next
  | .awaitingMetrics front next => h.awaited env.metricsQueue buffered front next
  | .returned => none
  | .panicked => none

end Handle

/-- What can happen next. -/
inductive Action where
  -- the request handler sends a notification, or is done
  | notify (notification : ResponseNotification)
  | dropSender
  | answer (place : ℕ)
  | broadcast (event : Event)
  | poll (buffered : Bool)

def step (env : ResponseEnv) (h : ResponseHandler) : Action → Option ResponseHandler
  | .notify notification =>
    if h.senderDropped then none
    else some { h with notifications := h.notifications ++ [notification] }
  | .dropSender => some { h with senderDropped := true }
  | .answer place => some { h with answered := place :: h.answered }
  | .broadcast event =>
    some (h.setEvents (h.handlerState.eventStreamReceiver.map fun events => events ++ [event]))
  | .poll buffered => h.poll env buffered

def run (env : ResponseEnv) (actions : List Action) : Option ResponseHandler :=
  runSteps (step env) start actions

end ResponseHandler

/-! ## The responses that are to come in order -/

/-- Requests whose responses are synchronized: one of the groups that are listed, or a type on its
own. -/
inductive SyncGroup where
  | socks5Sockets
  | sandstormSockets
  | users
  | bufferSize
  | authMethods
  | only (command : SandstormCommandType)
  deriving DecidableEq

def SandstormCommandType.group : SandstormCommandType → SyncGroup
  | .listSocks5Sockets | .addSocks5Socket | .removeSocks5Socket => .socks5Sockets
  | .listSandstormSockets | .addSandstormSocket | .removeSandstormSocket => .sandstormSockets
  | .listUsers | .addUser | .updateUser | .deleteUser => .users
  | .getBufferSize | .setBufferSize => .bufferSize
  | .listAuthMethods | .toggleAuthMethod => .authMethods
  | command => .only command

/-- The type of the request that a notification is for. -/
def ResponseNotification.command : ResponseNotification → SandstormCommandType
  | shutdown => .shutdown
  | logEventConfig _ => .eventStreamConfig
  | listSocks5Sockets => .listSocks5Sockets
  | addSocks5Socket => .addSocks5Socket
  | removeSocks5Socket => .removeSocks5Socket
  | listSandstormSockets => .listSandstormSockets
  | addSandstormSocket => .addSandstormSocket
  | removeSandstormSocket => .removeSandstormSocket
  | listUsers _ => .listUsers
  | addUser _ => .addUser
  | updateUser _ => .updateUser
  | deleteUser _ => .deleteUser
  | listAuthMethods _ => .listAuthMethods
  | toggleAuthMethod _ => .toggleAuthMethod
  | requestCurrentMetrics _ => .requestCurrentMetrics
  | getBufferSize _ => .getBufferSize
  | setBufferSize _ => .setBufferSize
  | meow => .meow

end DustDevil
