import DustDevil.Server.Users
import Mathlib.Logic.Function.Basic

/-!
# Calls on a user manager, step by step

`insert`, `update` and `delete` of `users.rs` as they run on several threads at once. A step takes
or releases the lock of a map entry, does one operation on the counter, or reads or writes the entry
that its call has locked; between two steps of a call any others may happen. `fetch_update` is a
load and then a `compare_exchange_weak` until one succeeds, which may also fail for no reason.
-/

namespace DustDevil

open Wire

inductive UserCall where
  | insert (username password : Str) (role : UserRole)
  | update (username : Str) (password : Option Str) (role : Option UserRole)
  | delete (username : Str)
  deriving DecidableEq

inductive CallResult where
  | inserted (result : Bool)
  | updated (result : Except Unit (Option UserRole))
  | deleted (result : Except Unit (Option (Str × UserRole)))
  deriving DecidableEq

/-- Where a call is. `old` is the role that the locked entry has. -/
inductive CallPoint where
  -- before `entry(username)`
  | start
  -- the entry is locked
  | held
  -- `insert`'s entry is written and still locked
  | written (role : UserRole)
  -- `insert`'s entry is released, its `fetch_add` to come
  | adding
  -- before the load of `fetch_update`
  | fetching
  -- before the exchange of `fetch_update`
  | loaded (prev : Counter)
  -- before `update`'s `fetch_add`
  | promoting (old newRole : UserRole)
  -- before `user.role = new_role`
  | settingRole (old newRole : UserRole)
  -- before `user.password = new_password`
  | settingPassword
  -- before `remove_entry`
  | removing (old : UserRole)
  -- the entry is to be released
  | leaving (result : CallResult)
  | done (result : CallResult)
  deriving DecidableEq

def UserCall.username : UserCall → Str
  | insert username _ _ => username
  | update username _ _ => username
  | delete username => username

/-- What the calls share, and where each of them is. -/
structure UserCalls (ι : Type) where
  users : UserMap
  adminCount : Counter
  owner : Str → Option ι
  point : ι → CallPoint

namespace UserCalls

variable {ι : Type} [DecidableEq ι]

/-- The calls on a manager, before any of them has begun. -/
def start (m : UserManager) : UserCalls ι := ⟨m.users, m.adminCount, fun _ => none, fun _ => .start⟩

def goto (s : UserCalls ι) (i : ι) (point : CallPoint) : UserCalls ι :=
  { s with point := Function.update s.point i point }

def lock (s : UserCalls ι) (i : ι) (username : Str) : UserCalls ι :=
  { s with owner := Function.update s.owner username (some i) }

def release (s : UserCalls ι) (username : Str) : UserCalls ι :=
  { s with owner := Function.update s.owner username none }

def setUsers (s : UserCalls ι) (users : UserMap) : UserCalls ι := { s with users := users }

def setCount (s : UserCalls ι) (count : Counter) : UserCalls ι := { s with adminCount := count }

/-- What a call does with the entry it has just locked. -/
def lookAt (s : UserCalls ι) (i : ι) (call : UserCall) : UserCalls ι :=
  match call, s.users.lookup call.username with
  | .insert _ _ _, some _ => s.goto i (.leaving (.inserted false))
  | .insert username password role, none =>
    (s.setUsers (s.users.insert username ⟨password, role⟩)).goto i (.written role)
  | .update _ _ _, none => s.goto i (.leaving (.updated (.error ())))
  | .update _ _ none, some _ => s.goto i .settingPassword
  | .update _ _ (some newRole), some user =>
    if user.role = .admin ∧ newRole ≠ .admin then s.goto i .fetching
    else if user.role ≠ .admin ∧ newRole = .admin then s.goto i (.promoting user.role newRole)
    else s.goto i (.settingRole user.role newRole)
  | .delete _, none => s.goto i (.leaving (.deleted (.error ())))
  | .delete _, some user =>
    if user.role = .admin then s.goto i .fetching else s.goto i (.removing user.role)

/-- What a call goes on with once `fetch_update` has taken an admin from the counter. -/
def afterFetch : UserCall → CallPoint
  | .update _ _ (some newRole) => .settingRole .admin newRole
  | _ => .removing .admin

def refusal : UserCall → CallResult
  | .update _ _ _ => .updated (.ok none)
  | _ => .deleted (.ok none)

def setRole (s : UserCalls ι) (i : ι) (username : Str) (newRole : UserRole) : UserCalls ι :=
  match s.users.lookup username with
  | some user =>
    (s.setUsers (s.users.insert username { user with role := newRole })).goto i .settingPassword
  | none => s

def setPassword (s : UserCalls ι) (i : ι) (call : UserCall) : UserCalls ι :=
  match call, s.users.lookup call.username with
  | .update username (some newPassword) _, some user =>
    (s.setUsers (s.users.insert username { user with password := newPassword })).goto i
      (.leaving (.updated (.ok (some user.role))))
  | .update _ none _, some user => s.goto i (.leaving (.updated (.ok (some user.role))))
  | _, _ => s

/-- The next step of the `i`-th call, which does nothing while it has to wait for a lock. With
`spurious`, an exchange fails even if the counter is the one loaded. -/
def step (calls : ι → UserCall) (s : UserCalls ι) (i : ι) (spurious : Bool) : UserCalls ι :=
  let username := (calls i).username
  match s.point i with
  | .start => if s.owner username = none then (s.lock i username).goto i .held else s
  | .held => s.lookAt i (calls i)
  | .written role =>
    (s.release username).goto i (if role = .admin then .adding else .done (.inserted true))
  | .adding => (s.setCount s.adminCount.add).goto i (.done (.inserted true))
  | .fetching => s.goto i (.loaded s.adminCount)
  | .loaded prev =>
    match UserManager.takeAdmin prev with
    | none => s.goto i (.leaving (refusal (calls i)))
    | some next =>
      if s.adminCount = prev ∧ spurious = false then
        (s.setCount next).goto i (afterFetch (calls i))
      else s.goto i (.loaded s.adminCount)
  | .promoting old newRole => (s.setCount s.adminCount.add).goto i (.settingRole old newRole)
  | .settingRole _ newRole => s.setRole i username newRole
  | .settingPassword => s.setPassword i (calls i)
  | .removing old =>
    (s.setUsers (s.users.erase username)).goto i
      (.leaving (.deleted (.ok (some (username, old)))))
  | .leaving result => (s.release username).goto i (.done result)
  | .done _ => s

def run (calls : ι → UserCall) (s : UserCalls ι) (schedule : List (ι × Bool)) : UserCalls ι :=
  schedule.foldl (fun s turn => s.step calls turn.1 turn.2) s

end UserCalls

end DustDevil
