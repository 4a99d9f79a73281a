import DustDevil.Core.Responses
import DustDevil.Lib.Broadcast
import DustDevil.Lib.Steps

/-!
# The metrics tracker

`metrics_task` of `logger.rs`, step by step: other tasks may send events between any two of its
steps. A poll of the events' receiver is one step, a poll of the requests' another, and so is the
`resubscribe`. With each receiver handed out there is the `MetricsDisplay` of the client that gets
its events. The counters have the sizes that the source gives them, and an operation that overflows
stops whoever does it, as in a build that checks for it.
-/

namespace DustDevil

open Wire

section Metrics

/-- An addition or a subtraction that overflows. -/
inductive Overflow where
  | add
  | sub
  deriving DecidableEq, Repr

def increment32 (n : UInt32) : Except Overflow UInt32 :=
  if n.toNat + 1 < 2 ^ 32 then .ok (n + 1) else .error .add

def decrement32 (n : UInt32) : Except Overflow UInt32 :=
  if n = 0 then .error .sub else .ok (n - 1)

def add64 (n : UInt64) (count : ℕ) : Except Overflow UInt64 :=
  if n.toNat + count < 2 ^ 64 then .ok (n + UInt64.ofNat count) else .error .add

namespace Metrics

/-- The counters at the start, and `Metrics::default()`. -/
def zero : Metrics := ⟨0, 0, 0, 0, 0, 0⟩

variable (metrics : Metrics)

/-- The match of `metrics_task` on an event. -/
def count : EventData → Except Overflow Metrics
  | .newClientConnectionAccepted _ _ => do
    let current ← increment32 metrics.currentClientConnections
    let historic ← add64 metrics.historicClientConnections 1
    pure { metrics with currentClientConnections := current, historicClientConnections := historic }
  | .clientConnectionFinished _ _ _ _ => do
    let current ← decrement32 metrics.currentClientConnections
    pure { metrics with currentClientConnections := current }
  | .clientBytesSent _ count => do
    let sent ← add64 metrics.clientBytesSent count
    pure { metrics with clientBytesSent := sent }
  | .clientBytesReceived _ count => do
    let received ← add64 metrics.clientBytesReceived count
    pure { metrics with clientBytesReceived := received }
  | .newSandstormConnectionAccepted _ _ => do
    let current ← increment32 metrics.currentSandstormConnections
    let historic ← add64 metrics.historicSandstormConnections 1
    pure { metrics with
      currentSandstormConnections := current
      historicSandstormConnections := historic }
  | .sandstormConnectionFinished _ _ => do
    let current ← decrement32 metrics.currentSandstormConnections
    pure { metrics with currentSandstormConnections := current }
  | _ => pure metrics

end Metrics

/-- `MetricsDisplay`: the metrics that it shows. -/
abbrev MetricsDisplay := Metrics

namespace MetricsDisplay

variable (display : MetricsDisplay)

def onNewClientConnectionAccepted : Except Overflow MetricsDisplay := do
  let current ← increment32 display.currentClientConnections
  let historic ← add64 display.historicClientConnections 1
  pure { display with currentClientConnections := current, historicClientConnections := historic }

def onClientConnectionFinished : Except Overflow MetricsDisplay := do
  let current ← decrement32 display.currentClientConnections
  pure { display with currentClientConnections := current }

def onClientBytesSent (count : ℕ) : Except Overflow MetricsDisplay := do
  let sent ← add64 display.clientBytesSent count
  pure { display with clientBytesSent := sent }

def onClientBytesReceived (count : ℕ) : Except Overflow MetricsDisplay := do
  let received ← add64 display.clientBytesReceived count
  pure { display with clientBytesReceived := received }

def onNewSandstormConnectionAccepted : Except Overflow MetricsDisplay := do
  let current ← increment32 display.currentSandstormConnections
  let historic ← add64 display.historicSandstormConnections 1
  pure { display with
    currentSandstormConnections := current
    historicSandstormConnections := historic }

def onSandstormConnectionFinished : Except Overflow MetricsDisplay := do
  let current ← decrement32 display.currentSandstormConnections
  pure { display with currentSandstormConnections := current }

/-- What `MainView::new_stream_event` does with its `metrics_display`. -/
def newStreamEvent : EventData → Except Overflow MetricsDisplay
  | .clientBytesSent _ count => display.onClientBytesSent count
  | .clientBytesReceived _ count => display.onClientBytesReceived count
  | .newClientConnectionAccepted _ _ => display.onNewClientConnectionAccepted
  | .clientConnectionFinished _ _ _ _ => display.onClientConnectionFinished
  | .newSandstormConnectionAccepted _ _ => display.onNewSandstormConnectionAccepted
  | .sandstormConnectionFinished _ _ => display.onSandstormConnectionFinished
  | _ => pure display

/-- The client counts as the server does. -/
theorem newStreamEvent_eq (data : EventData) :
    display.newStreamEvent data = display.count data := by
  cases data <;> rfl

end MetricsDisplay

end Metrics

section Events

inductive ConnectionKind where
  | client
  | sandstorm
  deriving DecidableEq

/-- The connection that an event says was accepted. -/
def EventData.accepted : EventData → Option (ConnectionKind × ℕ)
  | newClientConnectionAccepted id _ => some (.client, id)
  | newSandstormConnectionAccepted id _ => some (.sandstorm, id)
  | _ => none

/-- The connection that an event says has finished. -/
def EventData.finished : EventData → Option (ConnectionKind × ℕ)
  | clientConnectionFinished id _ _ _ => some (.client, id)
  | sandstormConnectionFinished id _ => some (.sandstorm, id)
  | _ => none

/-- The server can send the event after these: a connection finishes after it was accepted, and
once. -/
def CanSend (sent : List EventData) (data : EventData) : Prop :=
  ∀ connection ∈ data.finished,
    connection ∈ sent.filterMap EventData.accepted ∧ connection ∉ sent.filterMap EventData.finished

instance (sent : List EventData) (data : EventData) : Decidable (CanSend sent data) :=
  inferInstanceAs (Decidable (∀ connection ∈ data.finished, _))

end Events

/-- `MetricsRequest`, the sender for its answer apart. -/
inductive MetricsRequest where
  | metrics
  | metricsAndSubscribe
  deriving DecidableEq

/-- Where `metrics_task` is. -/
inductive TaskPoint where
  /-- In the `select!`, before it polls the events' receiver. -/
  | polling
  /-- That receiver was empty when it polled, with so many events sent. -/
  | foundEmpty (sent : ℕ)
  /-- Before the `resubscribe`, with the metrics that it is to send. -/
  | subscribing (metrics : Metrics) (foundEmptyAt : ℕ)
  | failed (overflow : Overflow)

/-- An answer to a `MetricsAndSubscribe` request, and what has come of it. -/
structure Subscription where
  metrics : Metrics
  /-- How many events had been sent when the task found its receiver empty. -/
  foundEmptyAt : ℕ
  /-- How many events had been sent at the `resubscribe`. -/
  start : ℕ
  cursor : ℕ
  delivered : List EventData
  display : Except Overflow MetricsDisplay

/-- The client gets what its receiver has. -/
def Subscription.receive (cap : ℕ) (sent : List EventData) (subscription : Subscription) :
    Subscription :=
  match broadcastRecv cap sent subscription.cursor with
  | (.value data, cursor) => { subscription with
      cursor := cursor
      delivered := subscription.delivered ++ [data]
      display := subscription.display.bind fun display => display.newStreamEvent data }
  | (_, cursor) => { subscription with cursor := cursor }

structure Logger where
  sent : List EventData
  cursor : ℕ
  /-- The events that the task has received. -/
  counted : List EventData
  metrics : Metrics
  point : TaskPoint
  requests : List MetricsRequest
  /-- The metrics that were sent in answer to requests, each with the task's position among the
  events. -/
  answers : List (ℕ × Metrics)
  subscriptions : List Subscription

inductive LoggerAction where
  | send (data : EventData)
  | request (request : MetricsRequest)
  /-- The task polls the events' receiver. -/
  | pollEvents
  /-- The task polls the requests' receiver. -/
  | pollRequests
  | resubscribe
  /-- A client gets the next event of its subscription. -/
  | deliver (subscription : ℕ)

namespace Logger

def start : Logger := ⟨[], 0, [], .zero, .polling, [], [], []⟩

/-- The task counts an event that it has received. -/
def countEvent (s : Logger) (data : EventData) : Logger :=
  match s.metrics.count data with
  | .ok metrics => { s with counted := s.counted ++ [data], metrics := metrics }
  | .error overflow => { s with counted := s.counted ++ [data], point := .failed overflow }

/-- The next state after the action, if it can happen. The channel of events keeps `cap` of them. -/
def step (cap : ℕ) (s : Logger) : LoggerAction → Option Logger
  | .send data => if CanSend s.sent data then some { s with sent := s.sent ++ [data] } else none
  | .request request => some { s with requests := s.requests ++ [request] }
  | .pollEvents =>
    match s.point with
    | .polling =>
      match broadcastRecv cap s.sent s.cursor with
      | (.value data, cursor) => some ({ s with cursor := cursor }.countEvent data)
      -- `continue`
      | (.lagged _, cursor) => some { s with cursor := cursor }
      | (.empty, _) => some { s with point := .foundEmpty s.sent.length }
    | _ => none
  | .pollRequests =>
    match s.point with
    | .foundEmpty foundEmptyAt =>
      match s.requests with
      | [] => some { s with point := .polling }
      | .metrics :: requests => some { s with
          requests := requests
          answers := s.answers ++ [(s.cursor, s.metrics)]
          point := .polling }
      | .metricsAndSubscribe :: requests => some { s with
          requests := requests
          point := .subscribing s.metrics foundEmptyAt }
    | _ => none
  | .resubscribe =>
    match s.point with
    | .subscribing metrics foundEmptyAt => some { s with
        answers := s.answers ++ [(s.cursor, metrics)]
        subscriptions := s.subscriptions
          ++ [⟨metrics, foundEmptyAt, s.sent.length, s.sent.length, [], .ok metrics⟩]
        point := .polling }
    | _ => none
  | .deliver i =>
    match s.subscriptions[i]? with
    | some subscription => some { s with
        subscriptions := s.subscriptions.set i (subscription.receive cap s.sent) }
    | none => none

/-- `EVENT_LOG_BUFFER`. -/
def eventLogBuffer : ℕ := 0x1000

end Logger

end DustDevil
