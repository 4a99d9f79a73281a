import DustDevil.Core.Logging
import DustDevil.Server.Args
import DustDevil.Server.Context

/-!
# The users the server starts with

`server.rs`: the users of the file, then those given by arguments, then a default admin. The
arguments' map is the list of its entries in the order it gives them in; the events are those sent
when there is a log sender. What connections share is then constructed.
-/

namespace DustDevil

open Wire

section Startup

/-- The loop over `new_users.drain()`. -/
def registerByArgs : UserManager → List (Str × UserData) → UserManager × List EventData
  | users, [] => (users, [])
  | users, (username, userdata) :: newUsers =>
    let (replaced, users) := users.insertOrUpdate username userdata.password userdata.role
    let (users, events) := registerByArgs users newUsers
    if replaced then (users, .userReplacedByArgs username userdata.role :: events)
    else (users, .userRegisteredByArgs username userdata.role :: events)

def registerDefault (users : UserManager) : UserManager × List EventData :=
  if users.adminCount.val = 0 then
    ((users.insert defaultUserUsername defaultUserPassword .admin).2,
      [.startingUpWithSingleDefaultUser (defaultUserPassword ++ ':' :: defaultUserPassword)])
  else (users, [])

/-- `create_user_manager`, given what opening the users file gives. It does not return when
loading the file does not. -/
def createUserManager {ρ : Type} [AsyncRead ρ] (usersFile : Str) (file : Except IoError ρ)
    (newUsers : List (Str × UserData)) :
    Except (Stop UsersLoadingError) (UserManager × List EventData) :=
  let finish := fun (users : UserManager) (loaded : Except UsersLoadingError ℕ) =>
    let (users, events) := registerByArgs users newUsers
    let (users, events') := registerDefault users
    (users, .usersLoadedFromFile usersFile loaded :: events ++ events')
  match UserManager.fromFile file with
  | .ok users => .ok (finish users (.ok users.count))
  | .error (.err e) => .ok (finish .new (.error e))
  | .error e => .error e

/-- The state `run_server_inner` constructs from the arguments. -/
def StartupArguments.serverState (args : StartupArguments) (users : UserManager) : ServerState where
  users := users
  noAuthEnabled := args.noAuthEnabled
  userpassAuthEnabled := args.userpassAuthEnabled
  bufferSize := args.bufferSize
  metricsEnabled := args.eventsEnabled

end Startup

end DustDevil
