import DustDevil.Client.Popups
import DustDevil.Lib.Broadcast
import DustDevil.Lib.Steps
import DustDevil.Lib.Writes

/-!
# A popup and the server's list

`load_users_task` and `load_sockets_task` among what goes on around them, a step at a time. The
server's list changes with the events that tell so, and at one moment the server takes it for the
popup; the events and this response are written in any order that keeps the events' own. The client
reads the messages in the order in which they are written: an event goes to the stream, from which
the UI thread hands it to `handle_stream_event`, and the response goes to the task that waits for
it. That task loads the list and subscribes, and then receives one notification after another.
-/

namespace DustDevil

open Wire

/-- What sets the popups of lists apart. -/
structure ListPopup (κ α ν γ : Type) where
  key : α → κ
  /-- What an event says of the server's list. -/
  change : EventData → Option (Change κ α)
  /-- The popup's channel. -/
  watch : WatchMessage → Option ν
  new : γ
  loaded : List α → γ → γ
  changed : ν → γ → γ
  things : γ → List α
  /-- Whether the popup takes none of its things for another one that the notification is about. -/
  noticeFits : ν → γ → Prop

def usersPopup (toLowercase : Char → List Char) (sort : UnstableSort (Str × UserRole)) :
    ListPopup Str (Str × UserRole) (UserNotificationType × Str × UserRole) UsersController where
  key := Prod.fst
  change
    | .userRegisteredByManager _ username role => some (.set (username, role))
    | .userUpdatedByManager _ username role _ => some (.set (username, role))
    | .userDeletedByManager _ username _ => some (.remove username)
    | _ => none
  watch
    | .users notificationType username role => some (notificationType, username, role)
    | _ => none
  new := .new
  loaded := UsersController.usersLoaded toLowercase sort
  changed notice := UsersController.userChanged toLowercase notice.1 notice.2.1 notice.2.2
  things inner := inner.users
  noticeFits _ _ := True

/-- What an event says of the sockets of a type. -/
def SocketPopupType.change : SocketPopupType → EventData → Option (Change SocketAddr SocketAddr)
  | .socks5, .newSocks5Socket address => some (.set address)
  | .socks5, .removedSocks5Socket address => some (.remove address)
  | .sandstorm, .newSandstormSocket address => some (.set address)
  | .sandstorm, .removedSandstormSocket address => some (.remove address)
  | _, _ => none

/-- The `sockets_watch` that the popup of a type is given. -/
def SocketPopupType.watch : SocketPopupType → WatchMessage → Option (SocketAddr × Bool)
  | .socks5, .socks5Sockets address state => some (address, state)
  | .sandstorm, .sandstormSockets address state => some (address, state)
  | _, _ => none

def socketsPopup (socketType : SocketPopupType) (sort : UnstableSort SocketAddr) :
    ListPopup SocketAddr SocketAddr (SocketAddr × Bool) SocketsController where
  key := id
  change := socketType.change
  watch := socketType.watch
  new := .new
  loaded := SocketsController.socketsLoaded sort
  changed notice := SocketsController.socketChanged notice.1 notice.2
  things inner := inner.sockets
  noticeFits notice inner := ∀ x ∈ inner.sockets, socketSortCmp x notice.1 = .eq → x = notice.1

inductive ListMessage (α : Type) where
  /-- An event, and whether it happened after the list was taken. -/
  | event (event : Event) (later : Bool)
  | list (list : List α)

structure ListSession (α ν γ : Type) where
  /-- The server's list, and whether it has been taken. -/
  server : List α
  taken : Bool
  /-- The events and the response that the server has yet to write. -/
  events : List (Event × Bool)
  response : Option (List α)
  inFlight : List (ListMessage α)
  /-- The events that the UI thread has yet to take. -/
  stream : List (Event × Bool)
  /-- The response, until the task that waits for it runs. -/
  listReceived : Option (List α)
  /-- The popup's channel, and where its receiver is once there is one. -/
  sent : List ν
  cursor : Option ℕ
  popup : γ

inductive ListAction (α : Type) where
  | occur (event : Event)
  | takeList (list : List α)
  | writeEvent
  | writeList
  | readMessage
  | dispatch
  /-- `users_loaded` or `sockets_loaded`, and `subscribe`. -/
  | load
  /-- A `recv` of the task, and what it does with the result. -/
  | receive

/-- The capacity that `UIManager::new` gives the channels. -/
def watchCapacity : ℕ := 32

namespace ListSession

variable {κ α ν γ : Type} [DecidableEq κ] [DecidableEq α] (p : ListPopup κ α ν γ)

def start (server : List α) : ListSession α ν γ :=
  ⟨server, false, [], none, [], [], none, [], none, p.new⟩

variable (s : ListSession α ν γ)

def receivers : ℕ := if s.cursor.isSome then 1 else 0

/-- `handle_stream_event`. A channel without receivers keeps nothing. -/
def handleStreamEvent (data : EventData) : ListSession α ν γ :=
  match (DustDevil.handleStreamEvent s.receivers data).bind p.watch with
  | some notice => if s.receivers ≠ 0 then { s with sent := s.sent ++ [notice] } else s
  | none => s

def step : ListAction α → Option (ListSession α ν γ)
  | .occur event => some { s with
      server := (p.change event.data).elim s.server (changeEntries p.key s.server)
      events := s.events ++ [(event, s.taken)] }
  | .takeList list =>
    if s.taken = false ∧ list.Perm s.server then
      some { s with taken := true, response := some list }
    else none
  | .writeEvent =>
    match s.events with
    | (event, later) :: events => some { s with
        events := events
        inFlight := s.inFlight ++ [.event event later] }
    | [] => none
  | .writeList =>
    match s.response with
    | some list => some { s with response := none, inFlight := s.inFlight ++ [.list list] }
    | none => none
  | .readMessage =>
    match s.inFlight with
    | .event event later :: inFlight => some { s with
        inFlight := inFlight
        stream := s.stream ++ [(event, later)] }
    | .list list :: inFlight => some { s with inFlight := inFlight, listReceived := some list }
    | [] => none
  | .dispatch =>
    match s.stream with
    | (event, _) :: stream => some ({ s with stream := stream }.handleStreamEvent p event.data)
    | [] => none
  | .load =>
    match s.listReceived with
    | some list => some { s with
        listReceived := none
        popup := p.loaded list s.popup
        cursor := some s.sent.length }
    | none => none
  | .receive =>
    match s.cursor with
    | some cursor =>
      match broadcastRecv watchCapacity s.sent cursor with
      | (.value notice, next) => some { s with
          cursor := some next
          popup := p.changed notice s.popup }
      | (.lagged _, next) => some { s with cursor := some next }
      | (.empty, _) => none
    | none => none

/-- Everything that has been sent has been handled. -/
structure Handled : Prop where
  loaded : s.cursor = some s.sent.length
  events : s.events = []
  inFlight : s.inFlight = []
  stream : s.stream = []

/-- No event from after the list was taken with a notification for the popup is handed on before the
popup subscribes, the popup's receiver does not lag, and the popup takes nothing for what the
notification is about but that. -/
def StepOk (s : ListSession α ν γ) : ListAction α → Prop
  | .dispatch => ∀ event stream, s.stream = (event, true) :: stream → p.change event.data ≠ none →
      s.cursor ≠ none
  | .receive => ∀ cursor, s.cursor = some cursor → s.sent.length ≤ cursor + watchCapacity
      ∧ ∀ notice, s.sent[cursor]? = some notice → p.noticeFits notice s.popup
  | _ => True

end ListSession

end DustDevil
