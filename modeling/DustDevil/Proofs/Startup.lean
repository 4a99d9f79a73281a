import DustDevil.Proofs.Users
import DustDevil.Server.Startup

/-!
# Whether the server starts with an admin

The default admin is added with `insert`, which does nothing if there is a user of its name. So the
server starts without an admin exactly when the file and the arguments leave none and name a regular
user `admin` (`createUserManager_hasAdmin_iff`).
-/

namespace DustDevil

open Wire

section Users

def HasAdmin (users : UserMap) : Prop :=
  ∃ username user, users.lookup username = some user ∧ user.role = .admin

theorem hasAdmin_iff {users : UserMap} : HasAdmin users ↔ 0 < countAdmins users := by
  unfold countAdmins
  rw [Finmap.countVals_pos_iff]
  simp [HasAdmin]

/-- The users of the file: none, if it cannot be loaded. -/
def fileUsers {ρ : Type} [AsyncRead ρ] (file : Except IoError ρ) : UserMap :=
  match UserManager.fromFile file with
  | .ok users => users.users
  | .error _ => ∅

def overlay (users : UserMap) (newUsers : List (Str × UserData)) : UserMap :=
  newUsers.foldl (fun users p => users.insert p.1 p.2) users

theorem registerByArgs_users : ∀ (users : UserManager) (newUsers : List (Str × UserData)),
    (registerByArgs users newUsers).1.users = overlay users.users newUsers
  | _, [] => rfl
  | users, (username, userdata) :: newUsers => by
    have ih := registerByArgs_users
      (users.insertOrUpdate username userdata.password userdata.role).2 newUsers
    have hoverlay : overlay users.users ((username, userdata) :: newUsers)
        = overlay (users.users.insert username userdata) newUsers := rfl
    unfold registerByArgs
    rw [hoverlay]
    dsimp only
    split_ifs <;> exact ih

theorem registerByArgs_counted : ∀ {users : UserManager} (newUsers : List (Str × UserData)),
    users.Counted → (registerByArgs users newUsers).1.Counted
  | _, [], h => h
  | users, (username, userdata) :: newUsers, h => by
    have ih := registerByArgs_counted newUsers
      (UserManager.insertOrUpdate_counted h username userdata.password userdata.role)
    unfold registerByArgs
    dsimp only
    split_ifs <;> exact ih

/-- The default user makes an admin unless its name is taken. -/
theorem registerDefault_hasAdmin_iff {users : UserManager} (h : users.Counted) :
    HasAdmin (registerDefault users).1.users
      ↔ HasAdmin users.users ∨ users.users.lookup defaultUserUsername = none := by
  unfold UserManager.Counted at h
  unfold registerDefault
  rw [h]
  dsimp only
  split_ifs with hzero
  · have hno : ¬ HasAdmin users.users := by
      rw [hasAdmin_iff, hzero]
      exact Nat.lt_irrefl 0
    rcases hname : users.users.lookup defaultUserUsername with _ | user
    · simp only [or_true, iff_true, UserManager.insert, hname]
      exact ⟨_, _, Finmap.lookup_insert _, rfl⟩
    · simp [UserManager.insert, hname]
  · have hadmin : HasAdmin users.users := hasAdmin_iff.2 (Nat.pos_of_ne_zero hzero)
    simp [hadmin]

end Users

section Startup

variable {ρ : Type} [AsyncRead ρ] {usersFile : Str} {file : Except IoError ρ}
  {newUsers : List (Str × UserData)} {users : UserManager} {events : List EventData}

theorem fromFile_counted (h : UserManager.fromFile file = .ok users) : users.Counted := by
  rcases file with e | r
  · simp [UserManager.fromFile] at h
  · exact UserManager.from_counted (Prod.ext h rfl : UserManager.from r = (.ok users, _))

/-- The server starts with an admin exactly if the file's users, overwritten by the arguments',
have an admin or leave the default name free. -/
theorem createUserManager_hasAdmin_iff
    (h : createUserManager usersFile file newUsers = .ok (users, events)) :
    HasAdmin users.users
      ↔ HasAdmin (overlay (fileUsers file) newUsers)
        ∨ (overlay (fileUsers file) newUsers).lookup defaultUserUsername = none := by
  have hfinish : ∀ start : UserManager, start.Counted → start.users = fileUsers file →
      users = (registerDefault (registerByArgs start newUsers).1).1 →
      (HasAdmin users.users ↔ HasAdmin (overlay (fileUsers file) newUsers)
        ∨ (overlay (fileUsers file) newUsers).lookup defaultUserUsername = none) := by
    rintro start hcounted hstart rfl
    rw [registerDefault_hasAdmin_iff (registerByArgs_counted newUsers hcounted),
      registerByArgs_users, hstart]
  rcases hfile : UserManager.fromFile file with e | start
  · have hnone : UserManager.new.users = fileUsers file := by rw [fileUsers, hfile]; rfl
    rcases e with e | _ | _ | _ <;> simp only [createUserManager, hfile] at h
    · simp only [Except.ok.injEq, Prod.mk.injEq] at h
      exact hfinish _ UserManager.new_counted hnone h.1.symm
    all_goals simp at h
  · simp only [createUserManager, hfile, Except.ok.injEq, Prod.mk.injEq] at h
    exact hfinish start (fromFile_counted hfile) (by rw [fileUsers, hfile]) h.1.symm

/-- A file with one regular user, by the default admin's name. -/
def regularAdminFile : Except IoError Flat := .ok ⟨utf8 "#admin:secret".toList, .eof⟩

def regularAdminUsers : UserManager :=
  ⟨(∅ : UserMap).insert "admin".toList ⟨"secret".toList, .regular⟩, ⟨0, false⟩⟩

theorem fromFile_regularAdminFile :
    UserManager.fromFile regularAdminFile = .ok regularAdminUsers := by
  decide +kernel

theorem createUserManager_regularAdminFile :
    createUserManager [] regularAdminFile []
      = .ok (regularAdminUsers, [.usersLoadedFromFile [] (.ok 1),
          .startingUpWithSingleDefaultUser "admin:admin".toList]) := by
  unfold createUserManager
  rw [fromFile_regularAdminFile]
  rfl

theorem createUserManager_hasAdmin_iff_regularAdminFile :
    HasAdmin regularAdminUsers.users
      ↔ HasAdmin (overlay (fileUsers regularAdminFile) [])
        ∨ (overlay (fileUsers regularAdminFile) []).lookup defaultUserUsername = none :=
  createUserManager_hasAdmin_iff createUserManager_regularAdminFile

theorem not_hasAdmin_regularAdminFile :
    createUserManager [] regularAdminFile []
      = .ok (regularAdminUsers, [.usersLoadedFromFile [] (.ok 1),
          .startingUpWithSingleDefaultUser "admin:admin".toList])
      ∧ ¬ HasAdmin regularAdminUsers.users := by
  refine ⟨createUserManager_regularAdminFile, ?_⟩
  rw [hasAdmin_iff]
  decide +kernel

end Startup

end DustDevil
