import DustDevil.Client.ColoredLogs

/-!
# The log

The client's `main_view/log_block.rs`: a list of the events that the server has streamed, the last
of them first selected. Events that only tell of bytes are not among them.
-/

namespace DustDevil

open Wire

def maximumEventHistoryLength : ℕ := 0x10000

def logLineMinLength : ℕ := 20

def logTitle : StaticString := .static "─Logs".toList

def selectedEventBackgroundColor : LogColor := .darkGray

def selectedTimestampBackgroundColor : LogColor := .gray

def withBackground (bg : Option LogColor) (span : LogSpan) : LogSpan :=
  (span.1, { span.2 with bg := bg })

/-- The spans of an event in lines of at least `LOG_LINE_MIN_LENGTH` characters. There are rounds
enough for each character and each span. -/
def logLines (localDateTime : LocalDateTime) (wrapWidth : ℕ) (event : Event) :
    Except (Stop Empty) (List (Line LogStyle)) :=
  let spans := logEventToSingleLine localDateTime event
  let fuel := (spans.flatMap fun span => span.1.toStr).length + spans.length + 1
  wrapLinesByChars fuel (max wrapWidth logLineMinLength) spans

structure LogListHandler where
  eventHistory : List Event
  localDateTime : LocalDateTime

namespace LogListHandler

def getItemLines (handler : LogListHandler) (index wrapWidth : ℕ) :
    Option (List (Line LogStyle)) := do
  let event ← handler.eventHistory[index]?
  (logLines handler.localDateTime wrapWidth event).toOption

def modifyLineToSelected (line : Line LogStyle) (itemLineNumber : UInt16) : Line LogStyle :=
  let selected := withBackground (some selectedEventBackgroundColor)
  match line with
  | [] => []
  | span :: spans =>
    if itemLineNumber = 0 then
      withBackground (some selectedTimestampBackgroundColor) span :: spans.map selected
    else selected span :: spans.map selected

def modifyLineToUnselected (line : Line LogStyle) : Line LogStyle := line.map (withBackground none)

/-- Its `LongListHandler`. -/
def items (handler : LogListHandler) : LongListHandler (Line LogStyle) where
  getItemLines := handler.getItemLines
  modifyLineToSelected _ line itemLineNumber := modifyLineToSelected line itemLineNumber
  modifyLineToUnselected _ line _ := modifyLineToUnselected line
  onEnter _ := .unhandled

end LogListHandler

structure LogBlock where
  list : LongList (Line LogStyle)
  handler : LogListHandler

namespace LogBlock

variable {ε : Type}

def new (localDateTime : LocalDateTime) : LogBlock where
  list := .new logTitle 0 true false
  handler := ⟨[], localDateTime⟩

/-- Whether `new_stream_event` returns at once. -/
def ignores : EventData → Bool
  | .clientBytesSent _ _ => true
  | .clientBytesReceived _ _ => true
  | _ => false

/-- `pop_front` and what the list is told of it. -/
def popFront (block : LogBlock) : LogBlock where
  list := block.list.onItemRemoved 0
  handler := { block.handler with eventHistory := block.handler.eventHistory.tail }

def pushBack (event : Event) (block : LogBlock) : LogBlock :=
  let eventHistory := block.handler.eventHistory ++ [event]
  { list := block.list.setItemCount eventHistory.length
    handler := { block.handler with eventHistory := eventHistory } }

def newStreamEvent (event : Event) (block : LogBlock) : LogBlock :=
  if ignores event.data then block
  else if maximumEventHistoryLength ≤ block.handler.eventHistory.length then
    block.popFront.pushBack event
  else block.pushBack event

/-! ### As an element -/

def resize (area : Rect) (block : LogBlock) : LogBlock :=
  { block with list := block.list.resize area }

def render (search : KeySearch (Line LogStyle × ℕ)) (borders : BlockInner) (area : Rect)
    (block : LogBlock) : Except (Stop ε) (List (Drawn (Line LogStyle)) × LogBlock) := do
  let (drawn, list) ← block.list.render block.handler.items search borders area
  pure (drawn, { block with list := list })

def handleEvent (event : TuiEvent) (isFocused : Bool) (block : LogBlock) :
    HandleEventStatus × LogBlock :=
  let (status, list) := block.list.handleEvent block.handler.items event isFocused
  (status, { block with list := list })

def receiveFocus (block : LogBlock) : Bool × LogBlock :=
  let (received, list) := block.list.receiveFocus
  (received, { block with list := list })

def focusLost (block : LogBlock) : LogBlock := { block with list := block.list.focusLost }

end LogBlock

end DustDevil
