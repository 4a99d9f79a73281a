import DustDevil.Proofs.ProcessLines
import DustDevil.Proofs.ParseUser

/-!
# The admin counter, one call at a time

`admin_count` is the number of stored admins from the moment a manager is built, and every
operation keeps it so. The refusals of `update` and `delete` are read off the counter, so this is
what makes them mean that the named user is the only admin.
-/

namespace DustDevil

open Wire

namespace Counter

@[simp] theorem add_mk (n : ℕ) : add ⟨n, false⟩ = ⟨n + 1, false⟩ := rfl

theorem sub_mk {n : ℕ} (h : 0 < n) (w : Bool) : sub ⟨n, w⟩ = ⟨n - 1, w⟩ := by
  unfold sub
  rw [if_neg]
  exact Nat.ne_of_gt h

variable (c : Counter)

theorem toUInt32_add : c.add.toUInt32 = c.toUInt32 + 1 := by
  have hsucc : UInt32.ofNat (c.val + 1) = UInt32.ofNat c.val + 1 := UInt32.ofNat_add _ _
  rw [toUInt32, add, toUInt32]
  split_ifs
  · rw [← hsucc]
    exact UInt32.ofNat_mod_size
  · exact hsucc

theorem toUInt32_sub : c.sub.toUInt32 = c.toUInt32 - 1 := by
  rw [toUInt32, sub, toUInt32]
  split_ifs with hzero
  · rw [hzero]
    rfl
  · exact UInt32.ofNat_sub (Nat.pos_of_ne_zero hzero)

theorem toNat_toUInt32 {c : Counter} (h : c.val < 2 ^ 32) : c.toUInt32.toNat = c.val :=
  UInt32.toNat_ofNat_of_lt' h

/-- With fewer than 2^32 admins it is the last one in a `u32` too that is not taken. -/
theorem takeAdmin_toUInt32 {c : Counter} (h : c.val < 2 ^ 32) :
    (UserManager.takeAdmin c).map toUInt32
      = if c.toUInt32 = 1 then none else some (c.toUInt32 - 1) := by
  have hone : c.toUInt32 = 1 ↔ c.val = 1 := by
    rw [← UInt32.toNat_inj, toNat_toUInt32 h]
    rfl
  unfold UserManager.takeAdmin
  split_ifs with hval hu32 hu32
  · rfl
  · exact absurd (hone.2 hval) hu32
  · exact absurd (hone.1 hu32) hval
  · exact congrArg some c.toUInt32_sub

end Counter

section Count

variable {users : UserMap} {username : Str} {user : UserData}

theorem countAdmins_insert (users : UserMap) (username : Str) (user : UserData) :
    countAdmins (users.insert username user)
        + ((users.lookup username).any fun old => decide (old.role = .admin)).toNat
      = countAdmins users + (decide (user.role = .admin)).toNat :=
  Finmap.countVals_insert _ _ _ _

theorem countAdmins_erase (users : UserMap) (username : Str) :
    countAdmins (users.erase username)
        + ((users.lookup username).any fun old => decide (old.role = .admin)).toNat
      = countAdmins users :=
  Finmap.countVals_erase _ _ _

theorem countAdmins_pos (h : users.lookup username = some user) (hadmin : user.role = .admin) :
    0 < countAdmins users :=
  Finmap.countVals_pos_of_lookup h (by simpa using hadmin)

/-- The named user is an admin and there is no other. -/
def OnlyAdmin (users : UserMap) (username : Str) : Prop :=
  ∃ user, users.lookup username = some user ∧ user.role = .admin
    ∧ ∀ other user', users.lookup other = some user' → user'.role = .admin → other = username

theorem onlyAdmin_iff (h : users.lookup username = some user) :
    OnlyAdmin users username ↔ user.role = .admin ∧ countAdmins users = 1 := by
  constructor
  · rintro ⟨user', h', hadmin, hall⟩
    rw [h, Option.some.injEq] at h'
    subst h'
    exact ⟨hadmin, (Finmap.countVals_eq_one_iff h (by simpa using hadmin)).2 (by simpa using hall)⟩
  · rintro ⟨hadmin, hone⟩
    have hall := (Finmap.countVals_eq_one_iff h (by simpa using hadmin)).1 hone
    exact ⟨user, h, hadmin, by simpa using hall⟩

end Count

namespace UserManager

/-- `admin_count` is the number of admins, and no subtraction on it has wrapped. -/
def Counted (m : UserManager) : Prop := m.adminCount = ⟨countAdmins m.users, false⟩

/-- As a `u32` it is so with fewer than 2^32 admins. -/
theorem Counted.toNat_toUInt32 {m : UserManager} (h : m.Counted)
    (hlt : countAdmins m.users < 2 ^ 32) : m.adminCount.toUInt32.toNat = countAdmins m.users := by
  unfold Counted at h
  rw [h]
  exact Counter.toNat_toUInt32 hlt

section Build

theorem new_counted : new.Counted := rfl

theorem load_counted {m : UserManager} (h : m.Counted) (username : Str) (user : UserData) :
    (m.load username user).Counted := by
  have hinsert := countAdmins_insert m.users username user
  unfold Counted at h
  simp only [load, Counted, h]
  rcases hold : m.users.lookup username with _ | old
  · rw [hold] at hinsert
    by_cases hrole : user.role = .admin <;> simp [hrole] at hinsert ⊢ <;> omega
  · rw [hold] at hinsert
    by_cases hadmin : old.role = .admin
    · have hpos := countAdmins_pos hold hadmin
      by_cases hrole : user.role = .admin <;>
        simp [hrole, hadmin, Counter.sub_mk hpos] at hinsert ⊢ <;> omega
    · by_cases hrole : user.role = .admin <;> simp [hrole, hadmin] at hinsert ⊢ <;> omega

theorem trimStart_keeps {σ ε : Type} {I : σ → Prop} :
    ∀ (s : Str) (charAt : UInt32), (trimStart s charAt : Proc σ ε _).Keeps I
  | [], charAt => .pure _
  | c :: s, charAt => by
    unfold trimStart
    exact .ite (.ite (trimStart_keeps s (charAt + 1)) (.stop _)) (.pure _)

theorem trimStart_suffix {σ ε : Type} :
    ∀ {s : Str} {charAt : UInt32} {p : Str × UInt32} {st st' : σ},
      (trimStart s charAt : Proc σ ε _) st = (.ok p, st') → p.1 <:+ s
  | [], charAt, p, st, st', h => by
    simp only [trimStart, Proc.pure_apply, Prod.mk.injEq, Except.ok.injEq] at h
    rw [← h.1]
  | c :: s, charAt, p, st, st', h => by
    unfold trimStart at h
    split_ifs at h
    · exact (trimStart_suffix h).trans (List.suffix_cons c s)
    · simp at h
    · simp only [Proc.pure_apply, Prod.mk.injEq, Except.ok.injEq] at h
      rw [← h.1]

theorem representable_of_parse {s : Str} {n charAt : UInt32} {username : Str} {user : UserData}
    (hs : '\n' ∉ s) (h : parseLineIntoUser s n charAt = .ok (some (username, user))) :
    Representable username user :=
  ⟨s, hs, fun _ _ => parseLineIntoUser_eq_ok.2 (parseLineIntoUser_eq_ok.1 h)⟩

theorem loadLine_keeps {I : UserManager → Prop}
    (hload : ∀ m username user, Representable username user → I m → I (m.load username user))
    (s : Str) (lineNumber : UInt32) (hs : '\n' ∉ s) : (loadLine s lineNumber).Keeps I := by
  refine (trimStart_keeps s 0).bind_of fun p _ _ htrim => .ite (.pure _) ?_
  refine (Proc.Keeps.ofExcept _).bind_of fun parsed st st' hparsed => ?_
  rcases parsed with _ | ⟨username, user⟩
  · exact .pure _
  · refine .modify fun m hm => hload m username user ?_ hm
    rcases hline : parseLineIntoUser p.1 lineNumber p.2 with e | parsed <;>
      rw [hline] at hparsed
    · simp at hparsed
    · simp only [Proc.ofExcept_ok, Prod.mk.injEq, Except.ok.injEq] at hparsed
      rw [hparsed.1] at hline
      exact representable_of_parse (fun h => hs ((trimStart_suffix htrim).subset h)) hline

theorem from_keeps {I : UserManager → Prop} (hnew : I new)
    (hload : ∀ m username user, Representable username user → I m → I (m.load username user))
    {ρ : Type} [AsyncRead ρ] {r r' : ρ} {m : UserManager}
    (h : UserManager.from r = (.ok m, r')) : I m := by
  have hkeeps := processLinesUtf8_keeps (loadLine_keeps hload) r hnew
  unfold UserManager.from at h
  split at h
  · simp at h
  · rename_i heq
    have hok := Proc.mapErr_eq_ok heq
    rw [hok] at hkeeps
    split at h
    · simp at h
    · simp only [Prod.mk.injEq, Except.ok.injEq] at h
      rwa [h.1] at hkeeps

theorem from_counted {ρ : Type} [AsyncRead ρ] {r r' : ρ} {m : UserManager}
    (h : UserManager.from r = (.ok m, r')) : m.Counted :=
  from_keeps new_counted (fun _ username user _ hm => load_counted hm username user) h

/-- Every user of an accepted file is one that a line can stand for. -/
theorem from_representable {ρ : Type} [AsyncRead ρ] {r r' : ρ} {m : UserManager}
    (h : UserManager.from r = (.ok m, r')) :
    ∀ username user, m.users.lookup username = some user → Representable username user := by
  refine from_keeps (I := fun m => ∀ username user, m.users.lookup username = some user →
    Representable username user) (fun username user hnone => by simp [new] at hnone) ?_ h
  intro m username user huser hm username' user' hlookup
  by_cases heq : username' = username
  · subst heq
    simp only [load, Finmap.lookup_insert, Option.some.injEq] at hlookup
    rwa [← hlookup]
  · simp only [load, Finmap.lookup_insert_of_ne _ heq] at hlookup
    exact hm username' user' hlookup

end Build

section Operations

variable {m : UserManager} {username : Str}

@[simp] theorem updateOccupied_eq (m : UserManager) (username : Str) (user : UserData)
    (password : Option Str) (c : Counter) :
    m.updateOccupied username user password c
      = (.ok (some user.role),
        ⟨m.users.insert username ⟨password.getD user.password, user.role⟩, c⟩) := by
  cases password <;> rfl

theorem insert_counted (h : m.Counted) (username password : Str) (role : UserRole) :
    (m.insert username password role).2.Counted := by
  have hinsert := countAdmins_insert m.users username ⟨password, role⟩
  unfold Counted at h
  rcases hold : m.users.lookup username with _ | old <;> simp only [insert, hold]
  · rw [hold] at hinsert
    by_cases hrole : role = .admin <;> simp [Counted, h, hrole] at hinsert ⊢ <;> omega
  · exact h

theorem insertOrUpdate_counted (h : m.Counted) (username password : Str) (role : UserRole) :
    (m.insertOrUpdate username password role).2.Counted := by
  have hinsert := countAdmins_insert m.users username ⟨password, role⟩
  unfold Counted at h
  simp only [insertOrUpdate, Counted, h]
  rcases hold : m.users.lookup username with _ | old
  · rw [hold] at hinsert
    by_cases hrole : role = .admin <;> simp [hrole] at hinsert ⊢ <;> omega
  · rw [hold] at hinsert
    by_cases hadmin : old.role = .admin
    · have hpos := countAdmins_pos hold hadmin
      by_cases hrole : role = .admin <;>
        simp [hrole, hadmin, Counter.sub_mk hpos] at hinsert ⊢ <;> omega
    · by_cases hrole : role = .admin <;> simp [hrole, hadmin] at hinsert ⊢ <;> omega

theorem takeAdmin_cases {n : ℕ} (h : 0 < n) (w : Bool) :
    n = 1 ∧ takeAdmin ⟨n, w⟩ = none ∨ 1 < n ∧ takeAdmin ⟨n, w⟩ = some ⟨n - 1, w⟩ := by
  by_cases hone : n = 1
  · exact .inl ⟨hone, by simp [takeAdmin, hone]⟩
  · exact .inr ⟨by omega, by rw [takeAdmin, if_neg hone, Counter.sub_mk h]⟩

theorem update_counted (hm : m.Counted) (username : Str) (password : Option Str)
    (role : Option UserRole) : (m.update username password role).2.Counted := by
  have h := hm
  unfold Counted at h
  rcases hold : m.users.lookup username with _ | user <;> simp only [update, hold]
  · exact hm
  have hinsert := fun role' => countAdmins_insert m.users username
    ⟨password.getD user.password, role'⟩
  simp only [hold] at hinsert
  rcases role with _ | newRole
  · have := hinsert user.role
    simp [Counted, h] at this ⊢
    omega
  have hnew := hinsert newRole
  by_cases hadmin : user.role = .admin
  · have hpos := countAdmins_pos hold hadmin
    by_cases hrole : newRole = .admin
    · simp [Counted, h, hadmin, hrole] at hnew ⊢
      omega
    · rcases takeAdmin_cases hpos false with ⟨-, htake⟩ | ⟨-, htake⟩
      · simpa [h, hadmin, hrole, htake] using hm
      · simp [Counted, h, hadmin, hrole, htake] at hnew ⊢
        omega
  · by_cases hrole : newRole = .admin <;> simp [Counted, h, hadmin, hrole] at hnew ⊢ <;> omega

theorem delete_counted (hm : m.Counted) (username : Str) : (m.delete username).2.Counted := by
  have h := hm
  unfold Counted at h
  rcases hold : m.users.lookup username with _ | user <;> simp only [delete, hold]
  · exact hm
  have herase := countAdmins_erase m.users username
  rw [hold] at herase
  by_cases hadmin : user.role = .admin
  · have hpos := countAdmins_pos hold hadmin
    rcases takeAdmin_cases hpos false with ⟨-, htake⟩ | ⟨-, htake⟩
    · simpa [h, hadmin, htake] using hm
    · simp [Counted, h, hadmin, htake] at herase ⊢
      omega
  · simp [Counted, h, hadmin] at herase ⊢
    omega

/-- `update` refuses exactly to demote the only admin. -/
theorem update_eq_none_iff (h : m.Counted) (password : Option Str) (role : Option UserRole) :
    (m.update username password role).1 = .ok none
      ↔ OnlyAdmin m.users username ∧ role = some .regular := by
  unfold Counted at h
  rcases hold : m.users.lookup username with _ | user
  · simp [update, hold, OnlyAdmin]
  rw [onlyAdmin_iff hold]
  rcases role with _ | _ | _
  · simp [update, hold]
  · by_cases hadmin : user.role = .admin <;> simp [update, hold, hadmin]
  · by_cases hadmin : user.role = .admin
    · have hpos := countAdmins_pos hold hadmin
      rcases takeAdmin_cases hpos false with ⟨hone, htake⟩ | ⟨hlt, htake⟩
      · simpa [update, hold, hadmin, h, htake] using hone
      · simp [update, hold, hadmin, h, htake]
        omega
    · simp [update, hold, hadmin]

/-- `delete` refuses exactly to delete the only admin. -/
theorem delete_eq_none_iff (h : m.Counted) :
    (m.delete username).1 = .ok none ↔ OnlyAdmin m.users username := by
  unfold Counted at h
  rcases hold : m.users.lookup username with _ | user
  · simp [delete, hold, OnlyAdmin]
  rw [onlyAdmin_iff hold]
  by_cases hadmin : user.role = .admin
  · have hpos := countAdmins_pos hold hadmin
    rcases takeAdmin_cases hpos false with ⟨hone, htake⟩ | ⟨hlt, htake⟩
    · simpa [delete, hold, hadmin, h, htake] using hone
    · simp [delete, hold, hadmin, h, htake]
      omega
  · simp [delete, hold, hadmin]

/-- A refused `update` writes neither the role nor the password. -/
theorem update_of_eq_none {password : Option Str} {role : Option UserRole}
    (h : (m.update username password role).1 = .ok none) :
    (m.update username password role).2 = m := by
  rcases hold : m.users.lookup username with _ | user
  · simp [update, hold] at h
  rcases role with _ | newRole
  · simp [update, hold] at h
  by_cases hdemote : user.role = .admin ∧ newRole ≠ .admin
  · rcases htake : takeAdmin m.adminCount with _ | count
    · simp [update, hold, hdemote, htake]
    · simp [update, hold, hdemote, htake] at h
  · by_cases hpromote : user.role ≠ .admin ∧ newRole = .admin <;>
      simp [update, hold, hdemote, hpromote] at h

/-- An `update` that is not refused writes the role it returns and the new password, if any. -/
theorem update_eq_some {password : Option Str} {role : Option UserRole} {role' : UserRole}
    {m' : UserManager} (h : m.update username password role = (.ok (some role'), m')) :
    ∃ old, m.users.lookup username = some old
      ∧ m'.users = m.users.insert username ⟨password.getD old.password, role'⟩ := by
  rcases hold : m.users.lookup username with _ | old <;> simp only [update, hold] at h
  · simp at h
  refine ⟨old, rfl, ?_⟩
  rcases role with _ | newRole <;> simp only [updateOccupied_eq] at h
  · simp only [Prod.mk.injEq, Except.ok.injEq, Option.some.injEq] at h
    rw [← h.2, ← h.1]
  split_ifs at h
  · rcases htake : takeAdmin m.adminCount with _ | count <;> rw [htake] at h <;>
      simp only [Prod.mk.injEq, Except.ok.injEq, Option.some.injEq, reduceCtorEq, false_and] at h
    rw [← h.2, ← h.1]
  all_goals
    simp only [Prod.mk.injEq, Except.ok.injEq, Option.some.injEq] at h
    rw [← h.2, ← h.1]

theorem update_of_eq_error {password : Option Str} {role : Option UserRole}
    (h : (m.update username password role).1 = .error ()) :
    (m.update username password role).2 = m := by
  rcases hold : m.users.lookup username with _ | user
  · simp [update, hold]
  rcases role with _ | newRole
  · simp [update, hold] at h
  simp only [update, hold] at h
  split_ifs at h
  · rcases htake : takeAdmin m.adminCount with _ | count <;> simp [htake] at h
  all_goals simp at h

theorem delete_of_eq_none (h : (m.delete username).1 = .ok none) :
    (m.delete username).2 = m := by
  rcases hold : m.users.lookup username with _ | user
  · simp [delete, hold] at h
  by_cases hadmin : user.role = .admin
  · rcases htake : takeAdmin m.adminCount with _ | count
    · simp [delete, hold, hadmin, htake]
    · simp [delete, hold, hadmin, htake] at h
  · simp [delete, hold, hadmin] at h

end Operations

/-- A call of one of the operations. -/
inductive Call where
  | insert (username password : Str) (role : UserRole)
  | insertOrUpdate (username password : Str) (role : UserRole)
  | update (username : Str) (password : Option Str) (role : Option UserRole)
  | delete (username : Str)

namespace Call

def username : Call → Str
  | insert username _ _ => username
  | insertOrUpdate username _ _ => username
  | update username _ _ => username
  | delete username => username

def run (m : UserManager) : Call → UserManager
  | insert username password role => (m.insert username password role).2
  | insertOrUpdate username password role => (m.insertOrUpdate username password role).2
  | update username password role => (m.update username password role).2
  | delete username => (m.delete username).2

def Refused (m : UserManager) : Call → Prop
  | insert _ _ _ => False
  | insertOrUpdate _ _ _ => False
  | update username password role => (m.update username password role).1 = .ok none
  | delete username => (m.delete username).1 = .ok none

/-- The call would leave no admin: it demotes or deletes the only one. -/
def LeavesNoAdmin (m : UserManager) : Call → Prop
  | insert _ _ _ => False
  | insertOrUpdate _ _ _ => False
  | update username _ role => OnlyAdmin m.users username ∧ role = some .regular
  | delete username => OnlyAdmin m.users username

/-- The call inserts a user that is there, or updates or deletes one that is not. -/
def Misses (m : UserManager) : Call → Prop
  | insert username _ _ => (m.users.lookup username).isSome
  | insertOrUpdate _ _ _ => False
  | update username _ _ => m.users.lookup username = none
  | delete username => m.users.lookup username = none

variable {m : UserManager}

theorem run_counted (h : m.Counted) : ∀ c : Call, (c.run m).Counted
  | insert username password role => insert_counted h username password role
  | insertOrUpdate username password role => insertOrUpdate_counted h username password role
  | update username password role => update_counted h username password role
  | delete username => delete_counted h username

theorem refused_iff (h : m.Counted) : ∀ c : Call, c.Refused m ↔ c.LeavesNoAdmin m
  | insert _ _ _ => Iff.rfl
  | insertOrUpdate _ _ _ => Iff.rfl
  | update _ password role => update_eq_none_iff h password role
  | delete _ => delete_eq_none_iff h

theorem run_of_refused : ∀ {c : Call}, c.Refused m → c.run m = m
  | update _ _ _, h => update_of_eq_none h
  | delete _, h => delete_of_eq_none h

theorem run_of_misses : ∀ {c : Call}, c.Misses m → c.run m = m
  | insert username password role, h => by
    obtain ⟨user, hold⟩ := Option.isSome_iff_exists.1 h
    simp [run, UserManager.insert, hold]
  | update username password role, h => by
    simp only [Misses] at h
    simp [run, UserManager.update, h]
  | delete username, h => by
    simp only [Misses] at h
    simp [run, UserManager.delete, h]

theorem run_users (c : Call) :
    (c.run m).users = m.users ∨ (∃ user, (c.run m).users = m.users.insert c.username user)
      ∨ (c.run m).users = m.users.erase c.username := by
  cases c with
  | insert username password role =>
    rcases hold : m.users.lookup username with _ | user
    · exact .inr (.inl ⟨⟨password, role⟩, by simp [run, UserManager.insert, hold, Call.username]⟩)
    · exact .inl (by simp [run, UserManager.insert, hold])
  | insertOrUpdate username password role => exact .inr (.inl ⟨_, rfl⟩)
  | update username password role =>
    rcases hold : m.users.lookup username with _ | user
    · exact .inl (by simp [run, UserManager.update, hold])
    simp only [run, UserManager.update, hold, Call.username]
    rcases role with _ | newRole <;> simp only [updateOccupied_eq]
    · exact .inr (.inl ⟨_, rfl⟩)
    split_ifs
    · rcases takeAdmin m.adminCount with _ | count
      · exact .inl rfl
      · exact .inr (.inl ⟨_, rfl⟩)
    · exact .inr (.inl ⟨_, rfl⟩)
    · exact .inr (.inl ⟨_, rfl⟩)
  | delete username =>
    rcases hold : m.users.lookup username with _ | user
    · exact .inl (by simp [run, UserManager.delete, hold])
    simp only [run, UserManager.delete, hold, Call.username]
    split_ifs
    · rcases takeAdmin m.adminCount with _ | count
      · exact .inl rfl
      · exact .inr (.inr rfl)
    · exact .inr (.inr rfl)

theorem lookup_run (c : Call) {other : Str} (hne : other ≠ c.username) :
    (c.run m).users.lookup other = m.users.lookup other := by
  rcases run_users c with h | ⟨user, h⟩ | h <;> rw [h]
  · exact Finmap.lookup_insert_of_ne _ hne
  · exact Finmap.lookup_erase_ne hne

def runAll (m : UserManager) (calls : List Call) : UserManager := calls.foldl run m

theorem runAll_counted : ∀ {m : UserManager} (calls : List Call), m.Counted →
    (runAll m calls).Counted
  | _, [], h => h
  | _, c :: calls, h => runAll_counted calls (run_counted h c)

end Call

/-- A manager as the server makes one: empty, or loaded from a file. -/
inductive Built : UserManager → Prop where
  | new : Built new
  | loaded {ρ : Type} [AsyncRead ρ] {r r' : ρ} {m : UserManager}
      (h : UserManager.from r = (.ok m, r')) : Built m

theorem Built.counted {m : UserManager} (h : Built m) : m.Counted := by
  cases h with
  | new => exact new_counted
  | loaded h => exact from_counted h

/-- After any sequence of calls the counter is the number of admins and no subtraction on it has
wrapped; and whatever call comes next, it is refused exactly if it would leave no admin, it changes
nothing if it is refused or misses, and it changes nothing but the user it names. -/
theorem built_runAll {m : UserManager} (h : Built m) (calls : List Call) (c : Call) :
    (Call.runAll m calls).adminCount = ⟨countAdmins (Call.runAll m calls).users, false⟩
      ∧ (c.Refused (Call.runAll m calls) ↔ c.LeavesNoAdmin (Call.runAll m calls))
      ∧ (c.Refused (Call.runAll m calls) ∨ c.Misses (Call.runAll m calls) →
          c.run (Call.runAll m calls) = Call.runAll m calls)
      ∧ ∀ other, other ≠ c.username →
          (c.run (Call.runAll m calls)).users.lookup other
            = (Call.runAll m calls).users.lookup other := by
  have hcounted := Call.runAll_counted calls h.counted
  refine ⟨hcounted, Call.refused_iff hcounted c, ?_, fun other hne => Call.lookup_run c hne⟩
  rintro (hrefused | hmisses)
  · exact Call.run_of_refused hrefused
  · exact Call.run_of_misses hmisses

/-- A file that names a user twice, first as an admin. -/
def renamedAdmin : Flat := ⟨utf8 "@ana:1\n#ana:2\n@eva:3".toList, .eof⟩

def renamedAdminUsers : UserManager :=
  ⟨((∅ : UserMap).insert "ana".toList ⟨['2'], .regular⟩).insert "eva".toList ⟨['3'], .admin⟩,
    ⟨1, false⟩⟩

theorem from_renamedAdmin :
    UserManager.from renamedAdmin = (.ok renamedAdminUsers, ⟨[], .eof⟩) := by
  decide +kernel

theorem built_runAll_renamedAdmin :
    (Call.runAll renamedAdminUsers
        [.update "ana".toList none (some .admin), .delete "eva".toList]).adminCount = ⟨1, false⟩
      ∧ (Call.Refused (Call.runAll renamedAdminUsers []) (.delete "eva".toList)
        ↔ Call.LeavesNoAdmin (Call.runAll renamedAdminUsers []) (.delete "eva".toList)) :=
  ⟨(built_runAll (.loaded from_renamedAdmin)
      [.update "ana".toList none (some .admin), .delete "eva".toList] (.delete [])).1.trans
      (by decide +kernel),
    (built_runAll (.loaded from_renamedAdmin) [] (.delete "eva".toList)).2.1⟩

end UserManager

end DustDevil
