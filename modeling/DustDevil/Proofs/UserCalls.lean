import Mathlib.Algebra.BigOperators.Ring.Finset
import Mathlib.Algebra.Order.BigOperators.Group.Finset
import DustDevil.Lib.Threads
import DustDevil.Proofs.Users
import DustDevil.Server.UserCalls

/-!
# The admin counter, many calls at once

While calls are under way the counter and the map disagree, but each call knows by how much: a call
between its two writes is `ahead` by one or behind by one. The counter is the number of admins plus
what all calls are ahead (`Shared.ahead`), and no call takes the last admin from it, so once all
have returned it is the number of admins, which is at least 1. A call that no other comes between is
the operation of `Server/Users.lean` (`run_alone`).
-/

namespace DustDevil

open Wire

section Invariant

namespace CallPoint

/-- The call has its entry locked. -/
def Holding : CallPoint → Prop
  | start => False
  | adding => False
  | done _ => False
  | _ => True

/-- The call has begun and not returned. -/
def InProgress : CallPoint → Prop
  | start => False
  | done _ => False
  | _ => True

instance : DecidablePred InProgress
  | start | done _ => .isFalse id
  | held | written _ | adding | fetching | loaded _ | promoting _ _ | settingRole _ _
  | settingPassword | removing _ | leaving _ => .isTrue trivial

/-- How far a call's change of the counter is ahead of its change of the map. -/
def ahead : CallPoint → ℤ
  | written role => if role = .admin then -1 else 0
  | adding => -1
  | settingRole old newRole =>
    if old = .admin ∧ newRole ≠ .admin then -1
    else if old ≠ .admin ∧ newRole = .admin then 1
    else 0
  | removing old => if old = .admin then -1 else 0
  | _ => 0

end CallPoint

/-- The call is one that may take an admin from the counter. -/
def UserCall.Demotes : UserCall → Prop
  | .insert _ _ _ => False
  | .update _ _ role => role = some .regular
  | .delete _ => True

/-- What a call that has locked its entry knows about it. -/
def Knows (entry : Option UserData) (call : UserCall) : CallPoint → Prop
  | .fetching => entry.map UserData.role = some .admin ∧ call.Demotes
  | .loaded _ => entry.map UserData.role = some .admin ∧ call.Demotes
  | .promoting old newRole => entry.map UserData.role = some old ∧ old ≠ .admin ∧ newRole = .admin
  | .settingRole old _ => entry.map UserData.role = some old
  | .removing old => entry.map UserData.role = some old
  | _ => True

theorem knows_of_not_holding {entry : Option UserData} {call : UserCall} {point : CallPoint}
    (h : ¬ point.Holding) : Knows entry call point := by
  cases point <;> first | exact trivial | exact absurd trivial h

variable {ι : Type} [Fintype ι] {calls : ι → UserCall} {s s' : UserCalls ι}

/-- The invariant: an entry is locked by one call at a time, which knows what is in it; the counter
is the number of admins and what the calls are ahead; and it is at least 1. -/
structure Shared (calls : ι → UserCall) (s : UserCalls ι) : Prop where
  owns : ∀ i, (s.point i).Holding → s.owner (calls i).username = some i
  knows : ∀ i, Knows (s.users.lookup (calls i).username) (calls i) (s.point i)
  ahead : (s.adminCount.val : ℤ) = countAdmins s.users + ∑ i, (s.point i).ahead
  pos : 1 ≤ s.adminCount.val
  notWrapped : s.adminCount.wrapped = false

theorem Shared.key_ne (h : Shared calls s) {i j : ι} (hji : j ≠ i) (hi : (s.point i).Holding)
    (hj : (s.point j).Holding) : (calls j).username ≠ (calls i).username := by
  intro hkey
  have howner := h.owns i hi
  rw [← hkey, h.owns j hj, Option.some.injEq] at howner
  exact hji howner

variable [DecidableEq ι]

/-- A step of one call: it keeps the locks and the entries of the others, knows what is in its own,
and changes the counter, the map and what it is ahead by matching amounts. -/
theorem Shared.of_step (h : Shared calls s) (i : ι) (p : CallPoint)
    (hpoint : s'.point = Function.update s.point i p)
    (howner : ∀ j, j ≠ i → (s.point j).Holding → s'.owner (calls j).username = some j)
    (hown : p.Holding → s'.owner (calls i).username = some i)
    (husers : s'.users ≠ s.users → (s.point i).Holding)
    (hframe : ∀ k, k ≠ (calls i).username → s'.users.lookup k = s.users.lookup k)
    (hknows : Knows (s'.users.lookup (calls i).username) (calls i) p)
    (hcount : (s'.adminCount.val : ℤ) + countAdmins s.users + (s.point i).ahead
      = s.adminCount.val + countAdmins s'.users + p.ahead)
    (hpos : 1 ≤ s'.adminCount.val) (hwrapped : s'.adminCount.wrapped = false) :
    Shared calls s' where
  owns j hj := by
    rw [hpoint] at hj
    by_cases hji : j = i
    · subst hji
      rw [Function.update_self] at hj
      exact hown hj
    · rw [Function.update_of_ne hji] at hj
      exact howner j hji hj
  knows j := by
    rw [hpoint]
    by_cases hji : j = i
    · subst hji
      rw [Function.update_self]
      exact hknows
    rw [Function.update_of_ne hji]
    by_cases hj : (s.point j).Holding
    · by_cases hsame : s'.users = s.users
      · rw [hsame]
        exact h.knows j
      · rw [hframe _ (h.key_ne hji (husers hsame) hj)]
        exact h.knows j
    · exact knows_of_not_holding hj
  ahead := by
    rw [hpoint, sum_update]
    have := h.ahead
    omega
  pos := hpos
  notWrapped := hwrapped

/-! ### The kinds of step -/

theorem Shared.goto (h : Shared calls s) {i : ι} {p : CallPoint}
    (hholding : p.Holding → (s.point i).Holding) (hahead : p.ahead = (s.point i).ahead)
    (hknows : Knows (s.users.lookup (calls i).username) (calls i) p) :
    Shared calls (s.goto i p) :=
  h.of_step i p rfl (fun j _ hj => h.owns j hj) (fun hp => h.owns i (hholding hp))
    (fun hne => absurd rfl hne) (fun _ _ => rfl) hknows (by simp [UserCalls.goto, hahead]) h.pos
    h.notWrapped

theorem Shared.setCount (h : Shared calls s) {i : ι} {p : CallPoint} {n : ℕ}
    (hholding : p.Holding → (s.point i).Holding)
    (hcount : (n : ℤ) + (s.point i).ahead = s.adminCount.val + p.ahead) (hpos : 1 ≤ n)
    (hknows : Knows (s.users.lookup (calls i).username) (calls i) p) :
    Shared calls ((s.setCount ⟨n, false⟩).goto i p) :=
  h.of_step i p rfl (fun j _ hj => h.owns j hj) (fun hp => h.owns i (hholding hp))
    (fun hne => absurd rfl hne) (fun _ _ => rfl) hknows
    (by simp only [UserCalls.goto, UserCalls.setCount]; omega) hpos rfl

theorem Shared.setUsers (h : Shared calls s) {i : ι} {p : CallPoint} {users : UserMap}
    (hi : (s.point i).Holding) (hframe : ∀ k, k ≠ (calls i).username →
      users.lookup k = s.users.lookup k)
    (hcount : (countAdmins s.users : ℤ) + (s.point i).ahead = countAdmins users + p.ahead)
    (hknows : Knows (users.lookup (calls i).username) (calls i) p) :
    Shared calls ((s.setUsers users).goto i p) :=
  h.of_step i p rfl (fun j _ hj => h.owns j hj) (fun _ => h.owns i hi) (fun _ => hi) hframe hknows
    (by simp only [UserCalls.goto, UserCalls.setUsers]; omega) h.pos h.notWrapped

theorem Shared.lock (h : Shared calls s) {i : ι} (hstart : s.point i = .start)
    (hfree : s.owner (calls i).username = none) :
    Shared calls ((s.lock i (calls i).username).goto i .held) := by
  refine h.of_step i .held rfl (fun j hji hj => ?_) (fun _ => Function.update_self ..)
    (fun hne => absurd rfl hne) (fun _ _ => rfl) trivial ?_ h.pos h.notWrapped
  · have hkey : (calls j).username ≠ (calls i).username := by
      intro hkey
      rw [← hkey, h.owns j hj] at hfree
      simp at hfree
    simp only [UserCalls.goto, UserCalls.lock, Function.update_of_ne hkey]
    exact h.owns j hj
  · simp [UserCalls.goto, UserCalls.lock, hstart, CallPoint.ahead]

theorem Shared.release (h : Shared calls s) {i : ι} {p : CallPoint} (hi : (s.point i).Holding)
    (hp : ¬ p.Holding) (hahead : p.ahead = (s.point i).ahead) :
    Shared calls ((s.release (calls i).username).goto i p) := by
  refine h.of_step i p rfl (fun j hji hj => ?_) (fun hholding => absurd hholding hp)
    (fun hne => absurd rfl hne) (fun _ _ => rfl) (knows_of_not_holding hp) ?_ h.pos h.notWrapped
  · simp only [UserCalls.goto, UserCalls.release, Function.update_of_ne (h.key_ne hji hi hj)]
    exact h.owns j hj
  · simp [UserCalls.goto, UserCalls.release, hahead]

end Invariant

/-! ## Every step keeps the invariant -/

section Steps

variable {ι : Type} [Fintype ι] [DecidableEq ι] {calls : ι → UserCall} {s : UserCalls ι} {i : ι}

theorem lookAt_shared (h : Shared calls s) (hi : s.point i = .held) :
    Shared calls (s.lookAt i (calls i)) := by
  have hholding : (s.point i).Holding := by rw [hi]; trivial
  have hahead : (s.point i).ahead = 0 := by rw [hi]; rfl
  have hgoto {p : CallPoint} (hp : p.ahead = 0)
      (hknows : Knows (s.users.lookup (calls i).username) (calls i) p) :
      Shared calls (s.goto i p) :=
    h.goto (fun _ => hholding) (hp.trans hahead.symm) hknows
  have hknown {username : Str} {user : UserData} (h : s.users.lookup username = some user) :
      (s.users.lookup username).map UserData.role = some user.role := by rw [h]; rfl
  rcases hcall : calls i with ⟨username, password, role⟩ | ⟨username, password, role⟩ | username <;>
    rw [hcall] at hgoto <;>
    rcases hlookup : s.users.lookup username with _ | user <;>
    simp only [UserCalls.lookAt, UserCall.username, hlookup]
  · refine h.setUsers hholding (fun k hk => ?_) ?_ trivial
    · rw [hcall] at hk
      exact Finmap.lookup_insert_of_ne _ hk
    · have hinsert := countAdmins_insert s.users username ⟨password, role⟩
      simp only [hlookup, Option.any_none, Bool.toNat_false] at hinsert
      rw [hahead]
      cases role <;> simp [CallPoint.ahead] at hinsert ⊢ <;> omega
  · exact hgoto rfl trivial
  · exact hgoto rfl trivial
  · rcases role with _ | newRole
    · exact hgoto rfl trivial
    dsimp only
    split_ifs with hdemotes hpromotes
    · refine hgoto rfl ⟨hdemotes.1 ▸ hknown hlookup, ?_⟩
      cases newRole with
      | admin => exact absurd rfl hdemotes.2
      | regular => rfl
    · exact hgoto rfl ⟨hknown hlookup, hpromotes⟩
    · exact hgoto (by rw [CallPoint.ahead, if_neg hdemotes, if_neg hpromotes]) (hknown hlookup)
  · exact hgoto rfl trivial
  · split_ifs with hadmin
    · exact hgoto rfl ⟨hadmin ▸ hknown hlookup, trivial⟩
    · exact hgoto (by rw [CallPoint.ahead, if_neg hadmin]) (hknown hlookup)

theorem setRole_shared (h : Shared calls s) {old newRole : UserRole}
    (hi : s.point i = .settingRole old newRole) :
    Shared calls (s.setRole i (calls i).username newRole) := by
  have hholding : (s.point i).Holding := by rw [hi]; trivial
  have hknows := h.knows i
  rw [hi] at hknows
  unfold UserCalls.setRole
  rcases hlookup : s.users.lookup (calls i).username with _ | user
  · exact h
  refine h.setUsers hholding (fun k hk => Finmap.lookup_insert_of_ne _ hk) ?_ trivial
  have hinsert := countAdmins_insert s.users (calls i).username { user with role := newRole }
  simp only [Knows, hlookup, Option.map_some, Option.some.injEq] at hknows
  simp only [hlookup, Option.any_some, hknows] at hinsert
  rw [hi]
  cases old <;> cases newRole <;> simp [CallPoint.ahead] at hinsert ⊢ <;> omega

theorem setPassword_shared (h : Shared calls s) (hi : s.point i = .settingPassword) :
    Shared calls (s.setPassword i (calls i)) := by
  have hholding : (s.point i).Holding := by rw [hi]; trivial
  have hahead : (s.point i).ahead = 0 := by rw [hi]; rfl
  unfold UserCalls.setPassword
  split
  · rename_i username newPassword role user hcall hlookup
    have hname : (calls i).username = username := by rw [hcall]; rfl
    rw [hname] at hlookup
    refine h.setUsers hholding (fun k hk => ?_) ?_ trivial
    · rw [hname] at hk
      exact Finmap.lookup_insert_of_ne _ hk
    · have hinsert := countAdmins_insert s.users username { user with password := newPassword }
      simp only [hlookup, Option.any_some] at hinsert
      rw [hahead]
      simp only [CallPoint.ahead]
      omega
  · exact h.goto (fun _ => hholding) hahead.symm trivial
  · exact h

/-- Taking an admin from the counter puts a call one ahead in its way down. -/
theorem afterFetch_spec {call : UserCall} (h : call.Demotes) {entry : Option UserData}
    (hentry : entry.map UserData.role = some .admin) :
    (UserCalls.afterFetch call).ahead = -1 ∧ Knows entry call (UserCalls.afterFetch call) := by
  cases call with
  | insert => exact h.elim
  | update username password role =>
    obtain rfl : role = some .regular := h
    exact ⟨rfl, hentry⟩
  | delete => exact ⟨rfl, hentry⟩

/-- `fetch_update` leaves the last admin in the counter. -/
theorem loaded_shared (h : Shared calls s) {prev : Counter} (spurious : Bool)
    (hi : s.point i = .loaded prev) : Shared calls (s.step calls i spurious) := by
  have hholding : (s.point i).Holding := by rw [hi]; trivial
  have hknows := h.knows i
  rw [hi] at hknows
  simp only [UserCalls.step, hi]
  rcases htake : UserManager.takeAdmin prev with _ | next
  · exact h.goto (fun _ => hholding) (by rw [hi]; rfl) trivial
  dsimp only
  split_ifs with hsame
  · obtain ⟨rfl, -⟩ := hsame
    obtain ⟨hahead, hknows'⟩ := afterFetch_spec hknows.2 hknows.1
    have hpos := h.pos
    have hcount : s.adminCount = ⟨s.adminCount.val, false⟩ := by rw [← h.notWrapped]
    rw [hcount] at htake
    rcases UserManager.takeAdmin_cases hpos false with ⟨-, hnone⟩ | ⟨hgt, hsome⟩
    · simp [hnone] at htake
    · rw [hsome, Option.some.injEq] at htake
      rw [← htake]
      refine h.setCount (fun _ => hholding) ?_ (by omega) hknows'
      rw [hahead, hi]
      simp only [CallPoint.ahead]
      omega
  · exact h.goto (fun _ => hholding) (by rw [hi]; rfl) hknows

theorem removing_shared (h : Shared calls s) {old : UserRole} (hi : s.point i = .removing old) :
    Shared calls ((s.setUsers (s.users.erase (calls i).username)).goto i
      (.leaving (.deleted (.ok (some ((calls i).username, old)))))) := by
  have hknows := h.knows i
  rw [hi] at hknows
  obtain ⟨user, hlookup, rfl⟩ := Option.map_eq_some_iff.1 hknows
  refine h.setUsers (by rw [hi]; trivial) (fun k hk => Finmap.lookup_erase_ne hk) ?_ trivial
  have herase := countAdmins_erase s.users (calls i).username
  simp only [hlookup, Option.any_some] at herase
  rw [hi]
  cases hrole : user.role <;> simp [CallPoint.ahead, hrole] at herase ⊢ <;> omega

theorem adding_shared (h : Shared calls s) {p : CallPoint}
    (hholding : p.Holding → (s.point i).Holding) (hahead : p.ahead = (s.point i).ahead + 1)
    (hknows : Knows (s.users.lookup (calls i).username) (calls i) p) :
    Shared calls ((s.setCount s.adminCount.add).goto i p) := by
  have hcount : s.adminCount.add = ⟨s.adminCount.val + 1, false⟩ := by
    simp [Counter.add, h.notWrapped]
  rw [hcount]
  exact h.setCount hholding (by rw [hahead]; omega) (by omega) hknows

theorem step_shared (h : Shared calls s) (i : ι) (spurious : Bool) :
    Shared calls (s.step calls i spurious) := by
  have hknows := h.knows i
  cases hi : s.point i <;> rw [hi] at hknows
  case loaded => exact loaded_shared h spurious hi
  all_goals simp only [UserCalls.step, hi]
  case start =>
    split_ifs with hfree
    · exact h.lock hi hfree
    · exact h
  case held => exact lookAt_shared h hi
  case written role =>
    cases role with
    | admin => exact h.release (by rw [hi]; trivial) id (by rw [hi]; rfl)
    | regular => exact h.release (by rw [hi]; trivial) id (by rw [hi]; rfl)
  case adding => exact adding_shared h (fun hp => absurd hp id) (by rw [hi]; rfl) trivial
  case fetching => exact h.goto (fun _ => by rw [hi]; trivial) (by rw [hi]; rfl) hknows
  case promoting =>
    obtain ⟨hentry, hold, rfl⟩ := hknows
    exact adding_shared h (fun _ => by rw [hi]; trivial)
      (by rw [hi]; simp [CallPoint.ahead, hold]) hentry
  case settingRole => exact setRole_shared h hi
  case settingPassword => exact setPassword_shared h hi
  case removing => exact removing_shared h hi
  case leaving => exact h.release (by rw [hi]; trivial) id (by rw [hi]; rfl)
  case done => exact h

theorem run_shared (calls : ι → UserCall) : ∀ (schedule : List (ι × Bool)) {s : UserCalls ι},
    Shared calls s → Shared calls (s.run calls schedule)
  | [], _, h => h
  | (i, spurious) :: schedule, _, h => run_shared calls schedule (step_shared h i spurious)

end Steps

/-! ## A call on its own -/

section Alone

/-- What a call does and returns when no other comes between its steps. -/
def UserCall.run (m : UserManager) : UserCall → CallResult × UserManager
  | .insert username password role => (m.insert username password role).map .inserted id
  | .update username password role => (m.update username password role).map .updated id
  | .delete username => (m.delete username).map .deleted id

variable {ι : Type} [DecidableEq ι] {calls : ι → UserCall} {s : UserCalls ι} {i : ι}

/-- The `i`-th call has returned what the manager's operation returns, and the map and the counter
are as that leaves them. -/
def ReturnsAs (s : UserCalls ι) (i : ι) (outcome : CallResult × UserManager) : Prop :=
  s.point i = .done outcome.1 ∧ s.users = outcome.2.users ∧ s.adminCount = outcome.2.adminCount

theorem insert_of_lookup {users : UserMap} {username : Str} {user : UserData}
    (h : users.lookup username = some user) : users.insert username user = users := by
  apply Finmap.ext_lookup
  intro k
  by_cases hk : k = username
  · rw [hk, Finmap.lookup_insert, h]
  · rw [Finmap.lookup_insert_of_ne _ hk]

theorem run_replicate (calls : ι → UserCall) (s : UserCalls ι) (turn : ι × Bool) (n : ℕ) :
    s.run calls (List.replicate n turn)
      = s.run (fun _ => calls turn.1) (List.replicate n turn) := by
  induction n generalizing s with
  | zero => rfl
  | succ n ih => exact ih _

attribute [local simp] ReturnsAs UserCall.run UserCall.username UserCalls.run UserCalls.step
  UserCalls.goto UserCalls.lock UserCalls.release UserCalls.setUsers UserCalls.setCount
  UserCalls.lookAt UserCalls.afterFetch UserCalls.refusal UserCalls.setRole UserCalls.setPassword
  Finmap.insert_insert

theorem insert_alone (hstart : s.point i = .start) (username password : Str) (role : UserRole)
    (hfree : s.owner username = none) :
    ReturnsAs (s.run (fun _ => .insert username password role) (List.replicate 7 (i, false))) i
      ((UserCall.insert username password role).run ⟨s.users, s.adminCount⟩) := by
  rcases hold : s.users.lookup username with _ | user
  · cases role <;> simp [UserManager.insert, hstart, hfree, hold]
  · simp [UserManager.insert, hstart, hfree, hold]

theorem update_alone (hstart : s.point i = .start) (username : Str) (password : Option Str)
    (role : Option UserRole) (hfree : s.owner username = none) :
    ReturnsAs (s.run (fun _ => .update username password role) (List.replicate 7 (i, false))) i
      ((UserCall.update username password role).run ⟨s.users, s.adminCount⟩) := by
  rcases hold : s.users.lookup username with _ | user
  · simp [UserManager.update, hstart, hfree, hold]
  rcases role with _ | newRole
  · cases password <;> simp [UserManager.update, hstart, hfree, hold, insert_of_lookup hold]
  by_cases hadmin : user.role = .admin <;> by_cases hnew : newRole = .admin
  · cases password <;> simp [UserManager.update, hstart, hfree, hold, hadmin, hnew]
  · rcases htake : UserManager.takeAdmin s.adminCount with _ | count
    · simp [UserManager.update, hstart, hfree, hold, hadmin, hnew, htake]
    · cases password <;> simp [UserManager.update, hstart, hfree, hold, hadmin, hnew, htake]
  · cases password <;> simp [UserManager.update, hstart, hfree, hold, hadmin, hnew]
  · cases password <;> simp [UserManager.update, hstart, hfree, hold, hadmin, hnew]

theorem delete_alone (hstart : s.point i = .start) (username : Str)
    (hfree : s.owner username = none) :
    ReturnsAs (s.run (fun _ => .delete username) (List.replicate 7 (i, false))) i
      ((UserCall.delete username).run ⟨s.users, s.adminCount⟩) := by
  rcases hold : s.users.lookup username with _ | user
  · simp [UserManager.delete, hstart, hfree, hold]
  by_cases hadmin : user.role = .admin
  · rcases htake : UserManager.takeAdmin s.adminCount with _ | count <;>
      simp [UserManager.delete, hstart, hfree, hold, hadmin, htake]
  · simp [UserManager.delete, hstart, hfree, hold, hadmin]

/-- A call whose seven steps come together is the manager's operation. -/
theorem run_alone (hstart : s.point i = .start) (hfree : s.owner (calls i).username = none) :
    ReturnsAs (s.run calls (List.replicate 7 (i, false))) i
      ((calls i).run ⟨s.users, s.adminCount⟩) := by
  rw [run_replicate]
  cases hcall : calls i <;> rw [hcall] at hfree
  · exact insert_alone hstart _ _ _ hfree
  · exact update_alone hstart _ _ _ hfree
  · exact delete_alone hstart _ hfree

end Alone

/-! ## The counter as a `u32` -/

section Atomic

variable {ι : Type} [DecidableEq ι] (s : UserCalls ι) (i : ι)

theorem lookAt_adminCount (call : UserCall) : (s.lookAt i call).adminCount = s.adminCount := by
  unfold UserCalls.lookAt
  split <;> try split_ifs
  all_goals rfl

theorem setRole_adminCount (username : Str) (newRole : UserRole) :
    (s.setRole i username newRole).adminCount = s.adminCount := by
  unfold UserCalls.setRole
  split <;> rfl

theorem setPassword_adminCount (call : UserCall) :
    (s.setPassword i call).adminCount = s.adminCount := by
  unfold UserCalls.setPassword
  split <;> rfl

/-- With fewer than 2^32 admins a step leaves the `AtomicU32`, adds 1 to it, or takes 1 from it
where it is not 1. -/
theorem step_toUInt32 (calls : ι → UserCall) (spurious : Bool) (hlt : s.adminCount.val < 2 ^ 32) :
    let count := s.adminCount.toUInt32
    let count' := (s.step calls i spurious).adminCount.toUInt32
    count' = count ∨ count' = count + 1 ∨ count ≠ 1 ∧ count' = count - 1 := by
  intro count count'
  have hkeeps {s' : UserCalls ι} (h : s'.adminCount = s.adminCount) :
      s'.adminCount.toUInt32 = count := by rw [h]
  dsimp only [count']
  unfold UserCalls.step
  cases s.point i with
  | start =>
    dsimp only
    split_ifs <;> exact .inl rfl
  | held => exact .inl (hkeeps (lookAt_adminCount s i _))
  | adding | promoting => exact .inr (.inl s.adminCount.toUInt32_add)
  | settingRole => exact .inl (hkeeps (setRole_adminCount s i _ _))
  | settingPassword => exact .inl (hkeeps (setPassword_adminCount s i _))
  | loaded prev =>
    dsimp only
    rcases htake : UserManager.takeAdmin prev with _ | next
    · exact .inl rfl
    dsimp only
    split_ifs with hsame
    · obtain ⟨rfl, -⟩ := hsame
      have hcount := Counter.takeAdmin_toUInt32 hlt
      rw [htake] at hcount
      split_ifs at hcount with hone
      · cases hcount
      · exact .inr (.inr ⟨hone, Option.some.inj hcount⟩)
    · exact .inl rfl
  | written | fetching | removing | leaving | done => exact .inl rfl

end Atomic

/-! ## What the counter says -/

section Counter

variable {ι : Type} [Fintype ι] {calls : ι → UserCall} {s : UserCalls ι}

theorem start_shared {m : UserManager} (hcounted : m.Counted) (hadmin : 1 ≤ countAdmins m.users) :
    Shared calls (.start m) := by
  unfold UserManager.Counted at hcounted
  refine ⟨fun _ h => h.elim, fun _ => trivial, ?_, ?_, ?_⟩
  · simp [UserCalls.start, hcounted, CallPoint.ahead]
  · simpa [UserCalls.start, hcounted] using hadmin
  · simp [UserCalls.start, hcounted]

theorem CallPoint.ahead_le (p : CallPoint) : p.ahead ≤ if p.InProgress then 1 else 0 := by
  unfold CallPoint.ahead
  split <;> simp [CallPoint.InProgress] <;> split_ifs <;> omega

theorem CallPoint.ahead_of_not_inProgress {p : CallPoint} (h : ¬ p.InProgress) : p.ahead = 0 := by
  cases p <;> first | rfl | exact absurd trivial h

/-- The counter is never ahead of the admins by more than one for each call. -/
theorem Shared.le (h : Shared calls s) : s.adminCount.val
    ≤ countAdmins s.users + (Finset.univ.filter fun i => (s.point i).InProgress).card := by
  have hsum : ∑ i, (s.point i).ahead
      ≤ ((Finset.univ.filter fun i => (s.point i).InProgress).card : ℤ) := by
    rw [Finset.natCast_card_filter]
    exact Finset.sum_le_sum fun i _ => (s.point i).ahead_le
  have := h.ahead
  omega

/-- So it is what the `AtomicU32` holds, with fewer than 2^32 admins and calls. -/
theorem Shared.toNat_toUInt32 (h : Shared calls s) (hlt : countAdmins s.users
    + (Finset.univ.filter fun i => (s.point i).InProgress).card < 2 ^ 32) :
    s.adminCount.toUInt32.toNat = s.adminCount.val :=
  Counter.toNat_toUInt32 (h.le.trans_lt hlt)

theorem Shared.eq_of_quiet (h : Shared calls s) (hquiet : ∀ i, ¬ (s.point i).InProgress) :
    s.adminCount = ⟨countAdmins s.users, false⟩ := by
  have hsum : ∑ i, (s.point i).ahead = 0 :=
    Finset.sum_eq_zero fun i _ => CallPoint.ahead_of_not_inProgress (hquiet i)
  have hahead := h.ahead
  have hval : s.adminCount.val = countAdmins s.users := by omega
  rw [← hval, ← h.notWrapped]

/-- However the steps of any number of calls follow each other, the counter is at least 1 and has
not wrapped, it is ahead of the number of admins by at most one for each call in progress, and
whenever there is none it is that number. -/
theorem userCalls_run [DecidableEq ι] {m : UserManager} (hcounted : m.Counted)
    (hadmin : 1 ≤ countAdmins m.users) (calls : ι → UserCall) (schedule : List (ι × Bool)) :
    let s := (UserCalls.start m).run calls schedule
    1 ≤ s.adminCount.val ∧ s.adminCount.wrapped = false
      ∧ s.adminCount.val
        ≤ countAdmins s.users + (Finset.univ.filter fun i => (s.point i).InProgress).card
      ∧ ((∀ i, ¬ (s.point i).InProgress) →
        s.adminCount = ⟨countAdmins s.users, false⟩ ∧ 1 ≤ countAdmins s.users) := by
  have h := run_shared calls schedule (start_shared hcounted hadmin)
  refine ⟨h.pos, h.notWrapped, h.le, fun hquiet => ?_⟩
  have heq := h.eq_of_quiet hquiet
  refine ⟨heq, ?_⟩
  have hpos := h.pos
  rwa [heq] at hpos

def twoAdmins : UserManager :=
  ((UserManager.new.insert "ana".toList "1".toList .admin).2.insert "bob".toList "2".toList
    .admin).2

/-- Each of two calls would remove one of the admins. -/
def removeBoth : Bool → UserCall
  | false => .delete "ana".toList
  | true => .update "bob".toList none (some .regular)

def inTurns : List (Bool × Bool) := (List.replicate 7 [(false, false), (true, false)]).flatten

theorem userCalls_run_removeBoth :
    let s := (UserCalls.start twoAdmins).run removeBoth inTurns
    s.point false = .done (.deleted (.ok (some ("ana".toList, .admin))))
      ∧ s.point true = .done (.updated (.ok none))
      ∧ s.adminCount = ⟨countAdmins s.users, false⟩ ∧ 1 ≤ countAdmins s.users := by
  have hdone : ∀ i,
      ¬ (((UserCalls.start twoAdmins).run removeBoth inTurns).point i).InProgress := by
    decide +kernel
  exact ⟨by decide +kernel, by decide +kernel,
    (userCalls_run (by decide +kernel : twoAdmins.adminCount = _) (by decide +kernel) removeBoth
      inTurns).2.2.2 hdone⟩

end Counter

end DustDevil
