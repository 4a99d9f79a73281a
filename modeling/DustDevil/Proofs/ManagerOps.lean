import DustDevil.Lib.Mirror
import DustDevil.Proofs.Users
import DustDevil.Server.ManagerOps

/-!
# The events of managers' calls tell what the server has become

An operation done at once makes of the server what its event says (`ManagerCall.perform_tells`), and
a call that no other comes between does the same (`ManagerOps.run_alone`). A call writes to the
server and to what a client shows, one after the other, and the calls in progress make the two a
`Mirror`: first the server and then the client, but for the buffer size, which the client has first.
Where no call is in progress the two agree as long as each call takes its second step in turn, as
calls do that finish in the order in which they began (`ManagerOps.inTurn_of_finishInOrder`).
-/

namespace DustDevil

open Wire

section View

variable {cx : SandstormContext} {state : ServerState}

theorem View.replay_append (v : View) (events : List EventData) (event : EventData) :
    v.replay (events ++ [event]) = (v.replay events).see event := by
  simp [View.replay]

theorem View.see_of_tells {event : EventData} {told : Σ t : Thing, t.Value}
    (h : event.tells = some told) (v : View) :
    v.see event = Function.update v told.1 told.2 := by
  simp [View.see, h]

/-- Two states whose users, flags and buffer size are the same but for one user's role. -/
theorem view_setUsers {users : UserManager} {username : Str} {role : Option UserRole}
    (hrole : (users.users.lookup username).map UserData.role = role)
    (hothers : ∀ other, other ≠ username →
      users.users.lookup other = cx.state.users.users.lookup other) :
    (cx.setUsers users).view = Function.update cx.state.view (.user username) role := by
  funext t
  rcases t with other | method | _
  · by_cases hne : other = username
    · subst hne
      simp [ServerState.view, SandstormContext.setUsers, hrole]
    · simp [ServerState.view, SandstormContext.setUsers, hne, hothers other hne]
  · cases method <;> simp [ServerState.view, SandstormContext.setUsers]
  · simp [ServerState.view, SandstormContext.setUsers]

theorem view_toggle (authMethod : AuthMethod) (b : Bool) :
    (cx.toggleAuthMethod authMethod b).2.1.view
      = Function.update cx.state.view (.authMethod authMethod) b := by
  funext t
  rcases t with other | method | _
  · cases authMethod <;> simp [ServerState.view, SandstormContext.toggleAuthMethod]
  · cases authMethod <;> cases method <;>
      simp [ServerState.view, SandstormContext.toggleAuthMethod]
  · cases authMethod <;> simp [ServerState.view, SandstormContext.toggleAuthMethod]

theorem view_bufferSize (state : ServerState) (value : UInt32) :
    ({ state with bufferSize := value } : ServerState).view
      = Function.update state.view .bufferSize value := by
  funext t
  rcases t with other | method | _
  · simp [ServerState.view]
  · cases method <;> simp [ServerState.view]
  · simp [ServerState.view]

end View

/-! ## One operation -/

section Perform

/-- The thing a call is about. -/
def ManagerCall.thing : ManagerCall → Thing
  | addUser username _ _ => .user username
  | updateUser username _ _ => .user username
  | deleteUser username => .user username
  | toggleAuthMethod authMethod _ => .authMethod authMethod
  | setBufferSize _ => .bufferSize

/-- Nothing has been changed and no event sent, or `t` has been and the one event sent tells so. -/
def Tells (v : View) (t : Thing) (result : ServerState × List EventData) : Prop :=
  (result.2 = [] ∧ result.1.view = v) ∨ ∃ event value, result.2 = [event]
    ∧ event.tells = some ⟨t, value⟩ ∧ result.1.view = Function.update v t value

variable {cx : SandstormContext} (hlog : cx.logging = true)
include hlog

theorem addUser_tells (username password : Str) (role : UserRole) :
    Tells cx.state.view (.user username) (cx.addUser username password role).2 := by
  unfold SandstormContext.addUser
  split_ifs
  · exact .inl ⟨rfl, rfl⟩
  rcases hold : cx.state.users.users.lookup username with _ | old
  · refine .inr ⟨.userRegisteredByManager cx.managerId username role, some role, ?_, rfl, ?_⟩
    · simp [UserManager.insert, hold, SandstormContext.log, hlog]
    · simp only [UserManager.insert, hold]
      refine view_setUsers (by simp) fun other hne => ?_
      simp [hne]
  · refine .inl ⟨?_, ?_⟩ <;> simp [UserManager.insert, hold, SandstormContext.setUsers]

theorem updateUser_tells (username : Str) (password : Option Str) (role : Option UserRole) :
    Tells cx.state.view (.user username) (cx.updateUser username password role).2 := by
  unfold SandstormContext.updateUser
  split_ifs
  · exact .inl ⟨rfl, rfl⟩
  rcases hupdate : cx.state.users.update username password role with ⟨_ | _ | role', users⟩
  · have husers := UserManager.update_of_eq_error (congrArg Prod.fst hupdate)
    rw [hupdate] at husers
    simp only at husers
    simp [Tells, husers, SandstormContext.setUsers]
  · have husers := UserManager.update_of_eq_none (congrArg Prod.fst hupdate)
    rw [hupdate] at husers
    simp only at husers
    simp [Tells, husers, SandstormContext.setUsers]
  · obtain ⟨old, -, husers⟩ := UserManager.update_eq_some hupdate
    refine .inr ⟨.userUpdatedByManager cx.managerId username role' password.isSome, some role',
      ?_, rfl, ?_⟩
    · simp [SandstormContext.log, hlog]
    · refine view_setUsers (by simp [husers]) fun other hne => ?_
      simp [husers, hne]

theorem deleteUser_tells (username : Str) :
    Tells cx.state.view (.user username) (cx.deleteUser username).2 := by
  have herase : ∀ count, (cx.setUsers ⟨cx.state.users.users.erase username, count⟩).view
      = Function.update cx.state.view (.user username) none :=
    fun _ => view_setUsers (by simp) fun other hne => by simp [hne]
  unfold SandstormContext.deleteUser
  rcases hold : cx.state.users.users.lookup username with _ | old
  · refine .inl ⟨?_, ?_⟩ <;> simp [UserManager.delete, hold, SandstormContext.setUsers]
  by_cases hadmin : old.role = .admin
  · rcases htake : UserManager.takeAdmin cx.state.users.adminCount with _ | count
    · refine .inl ⟨?_, ?_⟩ <;>
        simp [UserManager.delete, hold, hadmin, htake, SandstormContext.setUsers]
    · refine .inr ⟨.userDeletedByManager cx.managerId username .admin, none, ?_, rfl, ?_⟩ <;>
        simp [UserManager.delete, hold, hadmin, htake, SandstormContext.log, hlog, herase]
  · refine .inr ⟨.userDeletedByManager cx.managerId username old.role, none, ?_, rfl, ?_⟩ <;>
      simp [UserManager.delete, hold, hadmin, SandstormContext.log, hlog, herase]

theorem toggleAuthMethod_tells (authMethod : AuthMethod) (b : Bool) :
    Tells cx.state.view (.authMethod authMethod) (cx.toggleAuthMethod authMethod b).2 := by
  refine .inr ⟨.authMethodToggledByManager cx.managerId authMethod b, b, ?_, rfl, view_toggle ..⟩
  simp [SandstormContext.toggleAuthMethod, SandstormContext.log, hlog]

theorem setBufferSize_tells (value : UInt32) :
    Tells cx.state.view .bufferSize (cx.setBufferSize value).2 := by
  unfold SandstormContext.setBufferSize
  split_ifs
  · exact .inl ⟨rfl, rfl⟩
  · refine .inr ⟨.bufferSizeChangedByManager cx.managerId value, value, ?_, rfl,
      view_bufferSize ..⟩
    simp [SandstormContext.log, hlog]

theorem ManagerCall.perform_tells :
    ∀ call : ManagerCall, Tells cx.state.view call.thing (call.perform cx)
  | addUser username password role => addUser_tells hlog username password role
  | updateUser username password role => updateUser_tells hlog username password role
  | deleteUser username => deleteUser_tells hlog username
  | toggleAuthMethod authMethod b => toggleAuthMethod_tells hlog authMethod b
  | setBufferSize value => setBufferSize_tells hlog value

end Perform

/-! ## A call alone -/

namespace ManagerOps

section Alone

variable {ι : Type} [DecidableEq ι] {managers : ι → ℕ} {calls : ι → ManagerCall}
  {s : ManagerOps ι} {i : ι}

@[simp] theorem point_goto_self (s : ManagerOps ι) (i : ι) (p : OpPoint) :
    (s.goto i p).point i = p := by
  simp [goto]

/-- The second step of a call comes to what the operation makes of the server and sends. -/
theorem step_begin {managerId : ℕ} {call : ManagerCall} {state : ServerState} {event : EventData}
    (h : call.perform ⟨managerId, s.state, true⟩ = (state, [event])) :
    step managers calls (s.begin i managerId call) i
      = some (((s.setState state).send event).goto i .done) := by
  cases call with
  | setBufferSize value =>
    have hstate : { s.state with bufferSize := value } = state := by
      by_cases hvalue : value = 0
      · simp [ManagerCall.perform, SandstormContext.setBufferSize, hvalue] at h
      · have hpair := congrArg Prod.fst h
        simpa [ManagerCall.perform, SandstormContext.setBufferSize, hvalue] using hpair
    simp only [begin, h, step, point_goto_self]
    simp [hstate, goto, send, setState]
  | _ =>
    simp only [begin, h, step, point_goto_self]
    simp [goto, send, setState]

/-- A call that no other comes between does what the operation does at once. -/
theorem run_alone (hstart : s.point i = .start) {state : ServerState} {events : List EventData}
    (h : (calls i).perform ⟨managers i, s.state, true⟩ = (state, events)) :
    ∃ n, run managers calls s (List.replicate n i)
      = some (goto ⟨state, s.events ++ events, s.point⟩ i .done) := by
  have hfirst : step managers calls s i = some (s.begin i (managers i) (calls i)) := by
    simp [step, hstart]
  have htells := ManagerCall.perform_tells
    (rfl : (⟨managers i, s.state, true⟩ : SandstormContext).logging = true) (calls i)
  rw [h] at htells
  rcases htells with ⟨rfl, -⟩ | ⟨event, -, rfl, -⟩
  · refine ⟨1, ?_⟩
    simp [run, runSteps, hfirst, begin, h, setState]
  · refine ⟨2, ?_⟩
    simp [run, List.replicate, runSteps, hfirst, step_begin h, setState, send]

end Alone

end ManagerOps

/-! ## Calls in progress -/

namespace ManagerOps

variable {ι : Type} {managers : ι → ℕ} {calls : ι → ManagerCall} {initial : ServerState}
  {s s' : ManagerOps ι} {i : ι}

/-- The server and a client, as two stores. -/
def mirror (initial : ServerState) (s : ManagerOps ι) : Mirror Thing.Value ι where
  first := s.latest initial
  second := Function.update (s.shown initial) .bufferSize (s.state.view .bufferSize)
  pending i := (s.point i).pending

@[simp] theorem state_setState (s : ManagerOps ι) (state : ServerState) :
    (s.setState state).state = state := rfl

@[simp] theorem shown_setState (s : ManagerOps ι) (state : ServerState) :
    (s.setState state).shown initial = s.shown initial := rfl

@[simp] theorem state_send (s : ManagerOps ι) (event : EventData) :
    (s.send event).state = s.state := rfl

theorem shown_send {event : EventData} {t : Thing} {v : t.Value}
    (h : event.tells = some ⟨t, v⟩) :
    (s.send event).shown initial = Function.update (s.shown initial) t v := by
  simp [shown, send, View.replay_append, View.see_of_tells h]

/-- No call is between its two steps on `t`. -/
def Settled (s : ManagerOps ι) (t : Thing) : Prop := ∀ i v, (s.point i).pending ≠ some ⟨t, v⟩

theorem settled_of_quiet (hquiet : ∀ i, ¬ (s.point i).InProgress) (t : Thing) : s.Settled t := by
  intro i v hi
  have hidle := hquiet i
  rcases hpoint : s.point i with _ | event | value | _ <;>
    simp_all [OpPoint.pending, OpPoint.InProgress]

theorem agree_iff : (s.mirror initial).Agree
    ↔ ∀ t, s.Settled t → s.shown initial t = s.state.view t := by
  refine forall_congr' fun t => imp_congr_right fun _ => ?_
  by_cases ht : t = .bufferSize
  · subst ht
    simp [mirror, latest]
  · simpa [mirror, latest, ht] using eq_comm

/-- What is to be logged is not of the buffer size. -/
def LogsKnown (s : ManagerOps ι) : Prop :=
  ∀ i event, s.point i = .logging event → ∃ t v, event.tells = some ⟨t, v⟩ ∧ t ≠ .bufferSize

theorem start_keeps (initial : ServerState) : (start initial : ManagerOps ι).LogsKnown
    ∧ ((start initial : ManagerOps ι).mirror initial).Agree := by
  refine ⟨fun i event h => by simp [start] at h, fun t _ => ?_⟩
  simp [mirror, latest, start, shown, View.replay]

variable [DecidableEq ι]

theorem begin_cases (s : ManagerOps ι) (i : ι) (managerId : ℕ) (call : ManagerCall) :
    (∃ state, state.view = s.state.view
      ∧ s.begin i managerId call = (s.setState state).goto i .done)
    ∨ (∃ state event t v, state.view = Function.update s.state.view t v
      ∧ event.tells = some ⟨t, v⟩ ∧ t ≠ .bufferSize
      ∧ s.begin i managerId call = (s.setState state).goto i (.logging event))
    ∨ ∃ event value, event.tells = some ⟨.bufferSize, value⟩ ∧ value ≠ 0
      ∧ s.begin i managerId call = (s.send event).goto i (.storing value) := by
  by_cases hthing : call.thing = .bufferSize
  · cases call with
    | setBufferSize value =>
      by_cases hvalue : value = 0
      · refine .inl ⟨s.state, rfl, ?_⟩
        simp [begin, ManagerCall.perform, SandstormContext.setBufferSize, hvalue]
      · refine .inr (.inr ⟨.bufferSizeChangedByManager managerId value, value, rfl, hvalue,
          ?_⟩)
        simp [begin, ManagerCall.perform, SandstormContext.setBufferSize, hvalue,
          SandstormContext.log]
    | _ => simp [ManagerCall.thing] at hthing
  · have htells := ManagerCall.perform_tells
      (rfl : (⟨managerId, s.state, true⟩ : SandstormContext).logging = true) call
    rcases hperform : call.perform ⟨managerId, s.state, true⟩ with ⟨state, events⟩
    rw [hperform] at htells
    rcases htells with ⟨rfl, hview⟩ | ⟨event, value, rfl, hevent, hview⟩
    · refine .inl ⟨state, hview, ?_⟩
      simp [begin, hperform]
    · refine .inr (.inl ⟨state, event, call.thing, value, hview, hevent, hthing, ?_⟩)
      cases call <;> simp_all [begin, ManagerCall.thing]

theorem mirror_goto {p : OpPoint} {m : Mirror Thing.Value ι}
    (hfirst : s.latest initial = m.first)
    (hsecond : Function.update (s.shown initial) .bufferSize (s.state.view .bufferSize) = m.second)
    (hpending : Function.update (s.mirror initial).pending i p.pending = m.pending) :
    (s.goto i p).mirror initial = m := by
  obtain ⟨first, second, pending⟩ := m
  refine (Mirror.mk.injEq ..).mpr ⟨hfirst, hsecond, Eq.trans (funext fun j => ?_) hpending⟩
  rcases eq_or_ne j i with rfl | hj
  · simp [goto]
  · simp [goto, mirror, hj]

/-- A first step that changes the server before its event is sent. -/
theorem mirror_change {state : ServerState} {event : EventData} {t : Thing} {v : t.Value}
    (hview : state.view = Function.update s.state.view t v) (htells : event.tells = some ⟨t, v⟩)
    (ht : t ≠ .bufferSize) :
    ((s.setState state).goto i (.logging event)).mirror initial
      = (s.mirror initial).begin i ⟨t, v⟩ := by
  refine mirror_goto ?_ ?_ (by rw [OpPoint.pending, htells]; rfl)
  · simp only [latest, state_setState, shown_setState, hview, mirror, Mirror.begin]
    exact Function.update_comm ht _ _ _
  · simp [hview, ht.symm, mirror, Mirror.begin]

/-- The first step of a call that sends its event before the server is changed. -/
theorem mirror_sendFirst {event : EventData} {value : UInt32}
    (htells : event.tells = some ⟨.bufferSize, value⟩) :
    ((s.send event).goto i (.storing value)).mirror initial
      = (s.mirror initial).begin i ⟨.bufferSize, value⟩ := by
  refine mirror_goto ?_ ?_ rfl
  · simp [latest, shown_send htells, mirror, Mirror.begin]
  · simp [shown_send htells, mirror, Mirror.begin]

theorem mirror_sendLast {event : EventData} {t : Thing} {v : t.Value}
    (htells : event.tells = some ⟨t, v⟩) (ht : t ≠ .bufferSize) :
    ((s.send event).goto i .done).mirror initial = (s.mirror initial).finish i ⟨t, v⟩ := by
  refine mirror_goto ?_ ?_ rfl
  · simp [latest, shown_send htells, mirror, Mirror.finish, ht.symm]
  · simp only [shown_send htells, state_send, mirror, Mirror.finish]
    exact Function.update_comm ht _ _ _

theorem mirror_store (s : ManagerOps ι) (i : ι) (value : UInt32) :
    ((s.setState { s.state with bufferSize := value }).goto i .done).mirror initial
      = (s.mirror initial).finish i ⟨.bufferSize, value⟩ := by
  refine mirror_goto ?_ ?_ rfl
  · simp [latest, view_bufferSize, mirror, Mirror.finish]
  · simp [view_bufferSize, mirror, Mirror.finish]

/-- The only step of a call that changes nothing. -/
theorem mirror_skip {state : ServerState} (hview : state.view = s.state.view)
    (hi : (s.mirror initial).pending i = none) :
    ((s.setState state).goto i .done).mirror initial = s.mirror initial := by
  refine mirror_goto ?_ ?_ (Function.update_eq_self_iff.2 hi.symm)
  · simp [latest, hview, mirror]
  · simp [hview, mirror]

theorem LogsKnown.goto (h : s.LogsKnown) {p : OpPoint}
    (hp : ∀ event, p = .logging event → ∃ t v, event.tells = some ⟨t, v⟩ ∧ t ≠ .bufferSize) :
    (s.goto i p).LogsKnown := by
  intro j event hj
  rcases eq_or_ne j i with rfl | hji
  · exact hp event (by simpa [ManagerOps.goto] using hj)
  · exact h j event (by simpa [ManagerOps.goto, hji] using hj)

theorem step_logsKnown (h : s.LogsKnown) (hstep : step managers calls s i = some s') :
    s'.LogsKnown := by
  unfold step at hstep
  rcases hpoint : s.point i with _ | event | value | _ <;> rw [hpoint] at hstep <;>
    simp only [Option.some.injEq, reduceCtorEq] at hstep <;> subst hstep
  · rcases begin_cases s i (managers i) (calls i) with ⟨state, -, heq⟩
      | ⟨state, event, t, v, -, htells, ht, heq⟩ | ⟨event, value, -, -, heq⟩ <;> rw [heq]
    · exact LogsKnown.goto (s := s.setState state) h (by simp)
    · refine LogsKnown.goto (s := s.setState state) h fun event' hevent => ?_
      obtain rfl := OpPoint.logging.inj hevent
      exact ⟨t, v, htells, ht⟩
    · exact LogsKnown.goto (s := s.send event) h (by simp)
  · exact LogsKnown.goto (s := s.send event) h (by simp)
  · exact LogsKnown.goto (s := s.setState _) h (by simp)

/-- What a step does to the two stores: nothing, a first write or a second one. -/
theorem step_mirror (initial : ServerState) (hknown : s.LogsKnown)
    (h : step managers calls s i = some s') :
    ((s.mirror initial).pending i = none ∧ (s'.mirror initial = s.mirror initial
        ∨ ∃ w, s'.mirror initial = (s.mirror initial).begin i w))
      ∨ ∃ w, (s.mirror initial).pending i = some w
        ∧ s'.mirror initial = (s.mirror initial).finish i w := by
  unfold step at h
  rcases hpoint : s.point i with _ | event | value | _ <;> rw [hpoint] at h <;>
    simp only [Option.some.injEq, reduceCtorEq] at h <;> subst h
  · have hi : (s.mirror initial).pending i = none := by simp [mirror, hpoint, OpPoint.pending]
    refine .inl ⟨hi, ?_⟩
    rcases begin_cases s i (managers i) (calls i) with ⟨state, hview, heq⟩
      | ⟨state, event, t, v, hview, htells, ht, heq⟩ | ⟨event, value, htells, -, heq⟩ <;> rw [heq]
    · exact .inl (mirror_skip hview hi)
    · exact .inr ⟨_, mirror_change hview htells ht⟩
    · exact .inr ⟨_, mirror_sendFirst htells⟩
  · obtain ⟨t, v, htells, ht⟩ := hknown i event hpoint
    refine .inr ⟨⟨t, v⟩, ?_, mirror_sendLast htells ht⟩
    simp [mirror, hpoint, OpPoint.pending, htells]
  · refine .inr ⟨⟨.bufferSize, value⟩, ?_, mirror_store s i value⟩
    simp [mirror, hpoint, OpPoint.pending]

/-- Of each thing that no call is between its two steps on, a client shows what the server has,
after a step exactly if the step is in turn. -/
theorem agree_step_iff (hknown : s.LogsKnown) (hagree : (s.mirror initial).Agree)
    (h : step managers calls s i = some s') :
    (s'.mirror initial).Agree ↔ s.InTurn initial i := by
  rcases step_mirror initial hknown h with ⟨hi, hs' | ⟨w, hs'⟩⟩ | ⟨w, hi, hs'⟩ <;>
    rw [hs']
  · exact iff_of_true hagree fun t v hv => by simp [show (s.point i).pending = none from hi] at hv
  · exact iff_of_true (hagree.begin hi w)
      fun t v hv => by simp [show (s.point i).pending = none from hi] at hv
  · exact hagree.finish_iff hi

/-- Each call of a run takes its second step in turn exactly if in every state on the way a client
shows what the server has of each thing that no call is between its two steps on. -/
theorem settled_run_iff {schedule : List ι}
    (hrun : run managers calls (start initial) schedule = some s) :
    AlongRun (step managers calls) (InTurn initial) (start initial) schedule
      ↔ ∀ before, before <+: schedule → ∀ s1, run managers calls (start initial) before = some s1 →
        ∀ t, s1.Settled t → s1.shown initial t = s1.state.view t := by
  have hiff := alongRun_iff (C := InTurn initial)
    (I := fun s => s.LogsKnown ∧ (s.mirror initial).Agree)
    (fun s i s' ⟨hknown, hagree⟩ hstep => by
      rw [← agree_step_iff hknown hagree hstep]
      exact and_iff_right (step_logsKnown hknown hstep)) (start_keeps initial) hrun
  refine hiff.trans ?_
  refine forall_congr' fun before => forall_congr' fun hbefore => forall_congr' fun s1 =>
    forall_congr' fun h1 => ?_
  rw [← agree_iff]
  exact and_iff_right (runSteps_keeps (fun s i s' => step_logsKnown) (start_keeps initial).1 h1)

/-! ## Calls that finish in the order in which they began -/

theorem step_point (h : step managers calls s i = some s') :
    s'.point i ≠ .start ∧ ∀ j, j ≠ i → s'.point j = s.point j := by
  have hgoto : ∃ s1 p, s1.point = s.point ∧ p ≠ .start ∧ s' = goto s1 i p := by
    unfold step at h
    rcases hpoint : s.point i with _ | event | value | _ <;> rw [hpoint] at h <;>
      simp only [Option.some.injEq, reduceCtorEq] at h <;> subst h
    · rcases begin_cases s i (managers i) (calls i) with ⟨state, -, heq⟩
        | ⟨state, event, -, -, -, -, -, heq⟩ | ⟨event, value, -, -, heq⟩
      · exact ⟨s.setState state, .done, rfl, by simp, heq⟩
      · exact ⟨s.setState state, .logging event, rfl, by simp, heq⟩
      · exact ⟨s.send event, .storing value, rfl, by simp, heq⟩
    · exact ⟨s.send event, .done, rfl, by simp, rfl⟩
    · exact ⟨s.setState { s.state with bufferSize := value }, .done, rfl, by simp, rfl⟩
  obtain ⟨s1, p, hs1, hp, rfl⟩ := hgoto
  refine ⟨by simpa [goto] using hp, fun j hj => ?_⟩
  simp [goto, hj, hs1]

/-- A call that can take a step and is not between its two is to take the first. -/
theorem point_eq_start (hknown : s.LogsKnown) (h : step managers calls s i = some s')
    (hi : (s.point i).pending = none) : s.point i = .start := by
  rcases hpoint : s.point i with _ | event | value | _
  · rfl
  · obtain ⟨t, v, htells, -⟩ := hknown i event hpoint
    simp [hpoint, OpPoint.pending, htells] at hi
  · simp [hpoint, OpPoint.pending] at hi
  · simp [step, hpoint] at h

/-- Of two calls between their two steps on one thing, the one to take its second step next took its
first step first. -/
def FinishInOrder (managers : ι → ℕ) (calls : ι → ManagerCall) (initial : ServerState)
    (schedule : List ι) : Prop :=
  ∀ before i, before ++ [i] <+: schedule → ∀ s, run managers calls (start initial) before = some s →
    ∀ t v, (s.point i).pending = some ⟨t, v⟩ → ∀ j v', (s.point j).pending = some ⟨t, v'⟩ →
      before.idxOf i ≤ before.idxOf j

/-- Of the calls on a thing that are between their two steps, the last to have begun makes of it
what the last one to have taken its first step does. -/
structure Begun (initial : ServerState) (before : List ι) (s : ManagerOps ι) : Prop where
  logsKnown : s.LogsKnown
  mem_iff : ∀ j, j ∈ before ↔ s.point j ≠ .start
  follows : (s.mirror initial).Follows fun i j => before.idxOf i < before.idxOf j

theorem Begun.mem_of_pending {before : List ι} (h : s.Begun initial before) {j : ι}
    (hj : (s.mirror initial).pending j ≠ none) : j ∈ before := by
  refine (h.mem_iff j).2 fun hpoint => hj ?_
  simp [mirror, hpoint, OpPoint.pending]

theorem begun_start (initial : ServerState) : (start initial : ManagerOps ι).Begun initial [] where
  logsKnown := (start_keeps initial).1
  mem_iff := by simp [start]
  follows := by
    intro i k v hi
    simp [mirror, start, OpPoint.pending] at hi

theorem begun_step {before : List ι} (h : s.Begun initial before)
    (hstep : step managers calls s i = some s')
    (hfirst : ∀ t v, (s.point i).pending = some ⟨t, v⟩ → ∀ j v',
      (s.point j).pending = some ⟨t, v'⟩ → before.idxOf i ≤ before.idxOf j) :
    s'.Begun initial (before ++ [i]) where
  logsKnown := step_logsKnown h.logsKnown hstep
  mem_iff := by
    obtain ⟨hi, hothers⟩ := step_point hstep
    intro j
    rcases eq_or_ne j i with rfl | hj
    · simp [hi]
    · simp [hj, hothers j hj, h.mem_iff j]
  follows := by
    have hidx : ∀ j, (s.mirror initial).pending j ≠ none →
        (before ++ [i]).idxOf j = before.idxOf j :=
      fun j hj => List.idxOf_append_of_mem (h.mem_of_pending hj)
    have hfollows : (s.mirror initial).Follows
        fun j j' => (before ++ [i]).idxOf j < (before ++ [i]).idxOf j' := by
      refine h.follows.mono fun j j' hj hj' hlt => ?_
      rwa [hidx j hj, hidx j' hj']
    rcases step_mirror initial h.logsKnown hstep with ⟨hi, hs' | ⟨w, hs'⟩⟩ | ⟨w, hi, hs'⟩ <;>
      rw [hs']
    · exact hfollows
    · have hnew : i ∉ before := by
        simpa [h.mem_iff i] using point_eq_start h.logsKnown hstep hi
      refine hfollows.begin hi (fun j hj => ?_) w
      rw [hidx j hj, List.idxOf_append_of_notMem hnew]
      have hlt := List.idxOf_lt_length_of_mem (h.mem_of_pending hj)
      omega
    · refine hfollows.finish (fun j _ v hj => ?_) hi
      have hle := hfirst w.1 w.2 hi j v hj
      rw [hidx j (by simp [hj]), hidx i (by simp [hi])]
      omega

theorem begun_run {schedule : List ι} (horder : FinishInOrder managers calls initial schedule)
    (before : List ι) : ∀ {s : ManagerOps ι}, before <+: schedule →
      run managers calls (start initial) before = some s → s.Begun initial before := by
  induction before using List.reverseRecOn with
  | nil =>
    intro s _ hrun
    obtain rfl := Option.some.inj hrun
    exact begun_start initial
  | append_singleton before i ih =>
    intro s hbefore hrun
    obtain ⟨s1, h1, hstep⟩ := runSteps_snoc.1 hrun
    have hs1 := ih ((List.prefix_append before [i]).trans hbefore) h1
    exact begun_step hs1 hstep (horder before i hbefore s1 h1)

/-- Calls that finish in the order in which they began, those on one thing among themselves, take
their second steps in turn. -/
theorem inTurn_of_finishInOrder {schedule : List ι}
    (horder : FinishInOrder managers calls initial schedule) :
    AlongRun (step managers calls) (InTurn initial) (start initial) schedule := by
  refine alongRun_of_isPrefix fun before i hbefore s hrun => ?_
  have hs := begun_run horder before ((List.prefix_append before [i]).trans hbefore) hrun
  exact hs.follows.inTurn (lt_irrefl _)

/-! ## Once no call is in progress -/

/-- If each call takes its second step in turn, then once no call is in progress the events replayed
over what the server was give what it is. -/
theorem shown_run {schedule : List ι}
    (hturn : AlongRun (step managers calls) (InTurn initial) (start initial) schedule)
    (hrun : run managers calls (start initial) schedule = some s)
    (hquiet : ∀ i, ¬ (s.point i).InProgress) :
    initial.view.replay s.events = s.state.view := by
  funext t
  exact (settled_run_iff hrun).1 hturn schedule List.prefix_rfl s hrun t (settled_of_quiet hquiet t)

/-! ## Two managers -/

def oneAdmin : ServerState :=
  ⟨(UserManager.new.insert "ana".toList "1".toList .admin).2, true, true, 8192, true⟩

/-- Two managers toggle the same method, and the second begins before the first is done. -/
def toggles : Bool → ManagerCall := fun i => .toggleAuthMethod .noAuth (!i)

theorem shown_run_toggles :
    ∃ s, run Bool.toNat toggles (start oneAdmin) [false, true, false, true] = some s
      ∧ s.state.noAuthEnabled = false ∧ oneAdmin.view.replay s.events = s.state.view := by
  have hturn : AlongRun (step Bool.toNat toggles) (InTurn oneAdmin) (start oneAdmin)
      [false, true, false, true] := by
    refine .cons ?_ rfl (.cons ?_ rfl (.cons ?_ rfl (.cons ?_ rfl trivial)))
    · intro t v h
      cases h
    · intro t v h
      cases h
    -- the second call is between its steps when the first one logs
    · intro t v h halone
      cases h
      exact absurd rfl (halone true (by decide) false)
    · intro t v h _
      cases h
      rfl
  refine ⟨_, rfl, rfl, shown_run hturn rfl ?_⟩
  rintro (_ | _) h <;> exact h

/-- Two managers change the buffer size. -/
def sizes : Bool → ManagerCall := fun i => .setBufferSize (if i then 2048 else 1024)

theorem not_shown_sizes :
    ∃ s, run Bool.toNat sizes (start oneAdmin) [false, true, true, false] = some s
      ∧ (∀ i, ¬ (s.point i).InProgress) ∧ oneAdmin.view.replay s.events ≠ s.state.view := by
  refine ⟨_, rfl, ?_, fun h => ?_⟩
  · rintro (_ | _) h <;> exact h
  · have hsize : (2048 : UInt32) = 1024 := congrFun h .bufferSize
    exact absurd hsize (by decide)

end ManagerOps

end DustDevil
