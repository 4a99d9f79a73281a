import Mathlib.Logic.Function.Basic
import DustDevil.Lib.Steps
import DustDevil.Server.Context

/-!
# Managers' calls, step by step

The calls of `context.rs` that change the server and send an event of it, as they run for several
managers at once. A call changes the server in one step and sends its event in another, and between
the two any other calls may run. `set_buffer_size` sends its event first, the others change the
server first.
-/

namespace DustDevil

open Wire

inductive ManagerCall where
  | addUser (username password : Str) (role : UserRole)
  | updateUser (username : Str) (password : Option Str) (role : Option UserRole)
  | deleteUser (username : Str)
  | toggleAuthMethod (authMethod : AuthMethod) (state : Bool)
  | setBufferSize (value : UInt32)

/-- The server's state after a call, and the events the call sends. -/
def ManagerCall.perform (cx : SandstormContext) : ManagerCall → ServerState × List EventData
  | addUser username password role => (cx.addUser username password role).2
  | updateUser username password role => (cx.updateUser username password role).2
  | deleteUser username => (cx.deleteUser username).2
  | toggleAuthMethod authMethod state => (cx.toggleAuthMethod authMethod state).2
  | setBufferSize value => (cx.setBufferSize value).2

/-- Where a call is. -/
inductive OpPoint where
  | start
  -- the server is changed, the event is to be sent
  | logging (event : EventData)
  -- `set_buffer_size` has sent its event, the store is to come
  | storing (value : UInt32)
  | done

/-- What the calls share, and where each of them is. The server has a log sender. -/
structure ManagerOps (ι : Type) where
  state : ServerState
  events : List EventData
  point : ι → OpPoint

namespace ManagerOps

variable {ι : Type} [DecidableEq ι]

/-- A server, before any of the calls has begun. -/
def start (state : ServerState) : ManagerOps ι := ⟨state, [], fun _ => .start⟩

def goto (s : ManagerOps ι) (i : ι) (point : OpPoint) : ManagerOps ι :=
  { s with point := Function.update s.point i point }

def setState (s : ManagerOps ι) (state : ServerState) : ManagerOps ι := { s with state := state }

def send (s : ManagerOps ι) (event : EventData) : ManagerOps ι :=
  { s with events := s.events ++ [event] }

/-- The first step of a call. -/
def begin (s : ManagerOps ι) (i : ι) (managerId : ℕ) (call : ManagerCall) : ManagerOps ι :=
  match call, call.perform ⟨managerId, s.state, true⟩ with
  | _, (state, []) => (s.setState state).goto i .done
  | .setBufferSize value, (_, event :: _) => (s.send event).goto i (.storing value)
  | _, (state, event :: _) => (s.setState state).goto i (.logging event)

/-- The next step of the `i`-th call, if there is one. -/
def step (managers : ι → ℕ) (calls : ι → ManagerCall) (s : ManagerOps ι) (i : ι) :
    Option (ManagerOps ι) :=
  match s.point i with
  | .start => some (s.begin i (managers i) (calls i))
  | .logging event => some ((s.send event).goto i .done)
  | .storing value => some ((s.setState { s.state with bufferSize := value }).goto i .done)
  | .done => none

def run (managers : ι → ℕ) (calls : ι → ManagerCall) (s : ManagerOps ι) (schedule : List ι) :
    Option (ManagerOps ι) :=
  runSteps (step managers calls) s schedule

end ManagerOps

/-! ## What a client that follows the events shows -/

/-- A part of the server that a manager's call can change. -/
inductive Thing where
  | user (username : Str)
  | authMethod (authMethod : AuthMethod)
  | bufferSize
  deriving DecidableEq

namespace Thing

/-- What there is to know of it: of a user, the role, if there is such a user. -/
abbrev Value : Thing → Type
  | user _ => Option UserRole
  | authMethod _ => Bool
  | bufferSize => UInt32

end Thing

abbrev View := ∀ t : Thing, t.Value

def ServerState.view (state : ServerState) : View
  | .user username => (state.users.users.lookup username).map UserData.role
  | .authMethod .noAuth => state.noAuthEnabled
  | .authMethod .usernameAndPassword => state.userpassAuthEnabled
  | .bufferSize => state.bufferSize

/-- What an event says a manager's call has made of something. -/
def EventData.tells : EventData → Option (Σ t : Thing, t.Value)
  | userRegisteredByManager _ username role => some ⟨.user username, some role⟩
  | userUpdatedByManager _ username role _ => some ⟨.user username, some role⟩
  | userDeletedByManager _ username _ => some ⟨.user username, none⟩
  | authMethodToggledByManager _ authMethod state => some ⟨.authMethod authMethod, state⟩
  | bufferSizeChangedByManager _ bufferSize => some ⟨.bufferSize, bufferSize⟩
  | _ => none

namespace View

def see (v : View) (event : EventData) : View :=
  match event.tells with
  | some told => Function.update v told.1 told.2
  | none => v

def replay (v : View) (events : List EventData) : View := events.foldl see v

end View

/-- What a call between its two steps makes of a thing. -/
def OpPoint.pending : OpPoint → Option (Σ t : Thing, t.Value)
  | logging event => event.tells
  | storing value => some ⟨.bufferSize, value⟩
  | _ => none

def OpPoint.InProgress : OpPoint → Prop
  | logging _ => True
  | storing _ => True
  | _ => False

namespace ManagerOps

variable {ι : Type}

/-- What a client that has followed the events since the server was `initial` shows. -/
def shown (initial : ServerState) (s : ManagerOps ι) : View := initial.view.replay s.events

/-- What the last call to have taken its first step on a thing makes of it. -/
def latest (initial : ServerState) (s : ManagerOps ι) : View :=
  Function.update s.state.view .bufferSize (s.shown initial .bufferSize)

/-- If no other call on the same thing is between its two steps, the `i`-th call makes of it what
the last one to have taken its first step on it does. -/
def InTurn (initial : ServerState) (s : ManagerOps ι) (i : ι) : Prop :=
  ∀ t v, (s.point i).pending = some ⟨t, v⟩ →
    (∀ j, j ≠ i → ∀ v', (s.point j).pending ≠ some ⟨t, v'⟩) → s.latest initial t = v

end ManagerOps

end DustDevil
