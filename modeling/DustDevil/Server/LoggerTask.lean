import DustDevil.Core.EventText
import DustDevil.Lib.Broadcast
import DustDevil.Lib.Steps

/-!
# The logger task

`logger_task` of `logger.rs`, step by step: it writes what it receives to the standard output or to
a file. Other tasks may send events between any two of its steps. Its writer has a buffer, of which
any part may go out in a write, and all of it does in a flush; each of these may fail.
-/

namespace DustDevil

open Wire
open Display (fmt)

/-- Where `logger_task` is. -/
inductive LoggerPoint where
  /-- In `recv`. -/
  | receiving
  /-- Before the `write_all` of `parse_vec`. -/
  | writing (parseVec : List UInt8)
  /-- Before `is_empty`. -/
  | checking
  | flushing
  | shuttingDown
  | ended (result : Except IoError Unit)

/-- What is not in the writer yet. -/
def LoggerPoint.unwritten : LoggerPoint → List UInt8
  | writing parseVec => parseVec
  | _ => []

structure LoggerTask where
  sent : List Event
  /-- Whether there are senders. -/
  senders : Bool
  cursor : ℕ
  received : List (Recv Event)
  /-- What has gone out of the writer. -/
  output : List UInt8
  buffered : List UInt8
  point : LoggerPoint

inductive LoggerTaskAction where
  | send (event : Event)
  | dropSenders
  | recv
  /-- So many bytes go out of the writer. -/
  | write (out : ℕ) (result : Except IoError Unit)
  | check
  | flush (out : ℕ) (result : Except IoError Unit)
  | shutdown (out : ℕ) (result : Except IoError Unit)

namespace LoggerTask

def start : LoggerTask := ⟨[], true, 0, [], [], [], .receiving⟩

/-- What `writeln!` makes of what is received. -/
def parsed (localDateTime : LocalDateTime) : Recv Event → List UInt8
  | .value event => utf8 (event.line localDateTime ++ ['\n'])
  | .lagged lostCount =>
    utf8 ("ERROR!! ".toList ++ fmt lostCount ++ " events lost due to slowdown!\n".toList)
  | .empty => []

/-- So many bytes of the writer's buffer go out. -/
def goOut (out : ℕ) (s : LoggerTask) : LoggerTask :=
  { s with output := s.output ++ s.buffered.take out, buffered := s.buffered.drop out }

/-- All of the buffer goes out and the task goes on, or a part of it does and the task ends with the
error. -/
def flushTo (point : LoggerPoint) (out : ℕ) (result : Except IoError Unit) (s : LoggerTask) :
    LoggerTask :=
  match result with
  | .ok () => { s.goOut s.buffered.length with point := point }
  | .error e => { s.goOut out with point := .ended (.error e) }

/-- The next state after the action, if it can happen. The channel keeps `cap` events. -/
def step (cap : ℕ) (localDateTime : LocalDateTime) (s : LoggerTask) :
    LoggerTaskAction → Option LoggerTask
  | .send event => if s.senders then some { s with sent := s.sent ++ [event] } else none
  | .dropSenders => some { s with senders := false }
  | .recv =>
    match s.point, broadcastRecv cap s.sent s.cursor with
    | .receiving, (.empty, _) =>
      if s.senders then none else some { s with point := .shuttingDown }
    | .receiving, (got, cursor) => some { s with
        cursor := cursor
        received := s.received ++ [got]
        point := .writing (parsed localDateTime got) }
    | _, _ => none
  | .write out result =>
    match s.point with
    | .writing parseVec =>
      let s := { s with buffered := s.buffered ++ parseVec }.goOut out
      match result with
      | .ok () => some { s with point := .checking }
      | .error e => some { s with point := .ended (.error e) }
    | _ => none
  | .check =>
    match s.point with
    | .checking =>
      some { s with point := if s.cursor = s.sent.length then .flushing else .receiving }
    | _ => none
  | .flush out result =>
    match s.point with
    | .flushing => some (s.flushTo .receiving out result)
    | _ => none
  | .shutdown out result =>
    match s.point with
    | .shuttingDown => some (s.flushTo (.ended (.ok ())) out result)
    | _ => none

end LoggerTask

end DustDevil
