import DustDevil.Server.LoggerTask

/-!
# What a logger writes

Whatever is sent between its steps, a logger has written a line for each event that it received, in
their order, and for each time that it was too slow how many events it lost (`Written.run`). While
it waits for events nothing of that is still in its buffer, and once there are no senders it ends
with all of it written, unless the writer fails (`Written.finishes`).
-/

namespace DustDevil

open Wire

namespace LoggerTask

variable {cap : ℕ} {localDateTime : LocalDateTime} {s s' : LoggerTask}

/-- What is received is written, and accounts for what was sent. -/
structure Written (localDateTime : LocalDateTime) (s : LoggerTask) : Prop where
  within : s.cursor ≤ s.sent.length
  accounts : Received s.received (s.sent.take s.cursor)
  bytes : s.output ++ s.buffered ++ s.point.unwritten = s.received.flatMap (parsed localDateTime)
  waiting : s.point = .receiving → s.cursor = s.sent.length → s.buffered = []
  closed : s.point = .shuttingDown ∨ s.point = .ended (.ok ()) →
    s.senders = false ∧ s.cursor = s.sent.length
  ended : s.point = .ended (.ok ()) → s.buffered = []

theorem written_start : Written localDateTime start where
  within := le_rfl
  accounts := .nil
  bytes := rfl
  waiting _ _ := rfl
  closed h := by rcases h with h | h <;> cases h
  ended h := by cases h

theorem goOut_bytes (out : ℕ) (s : LoggerTask) :
    (s.goOut out).output ++ (s.goOut out).buffered = s.output ++ s.buffered := by
  rw [goOut, List.append_assoc, List.take_append_drop]

theorem Written.send (h : Written localDateTime s) (hsenders : s.senders = true) (event : Event) :
    Written localDateTime { s with sent := s.sent ++ [event] } where
  within := by
    rw [List.length_append]
    exact h.within.trans (Nat.le_add_right _ _)
  accounts := by
    rw [List.take_append_of_le_length h.within]
    exact h.accounts
  bytes := h.bytes
  waiting _ hcursor := by
    have hwithin := h.within
    dsimp only at hcursor
    rw [List.length_append, List.length_singleton] at hcursor
    omega
  closed hpoint := by
    rw [(h.closed hpoint).1] at hsenders
    cases hsenders
  ended := h.ended

theorem Written.dropSenders (h : Written localDateTime s) :
    Written localDateTime { s with senders := false } where
  within := h.within
  accounts := h.accounts
  bytes := h.bytes
  waiting := h.waiting
  closed hpoint := ⟨rfl, (h.closed hpoint).2⟩
  ended := h.ended

theorem Written.recv (h : Written localDateTime s)
    (hstep : s.step cap localDateTime .recv = some s') : Written localDateTime s' := by
  simp only [step] at hstep
  split at hstep
  · rename_i cursor hpoint hgot
    have hempty : s.cursor = s.sent.length := by
      rcases broadcastRecv_cases cap h.within with ⟨-, heq⟩ | ⟨a, -, heq⟩ | ⟨hcursor, -⟩
      · rw [heq] at hgot
        cases hgot
      · rw [heq] at hgot
        cases hgot
      · exact hcursor
    split_ifs at hstep with hsenders
    obtain rfl := Option.some.inj hstep
    refine ⟨h.within, h.accounts, ?_, nofun, fun _ => ⟨by simpa using hsenders, hempty⟩, nofun⟩
    have hbytes := h.bytes
    rwa [hpoint] at hbytes
  · rename_i got cursor hne hpoint hgot
    obtain rfl := Option.some.inj hstep
    have hfst : (broadcastRecv cap s.sent s.cursor).1 = got := congrArg Prod.fst hgot
    obtain ⟨haccounts, -, hwithin⟩ := h.accounts.snoc h.within hfst hne
    rw [hgot] at haccounts hwithin
    refine ⟨hwithin, haccounts, ?_, nofun, fun hpoint => ?_, nofun⟩
    · have hbytes : s.output ++ s.buffered ++ [] = s.received.flatMap (parsed localDateTime) := by
        rw [← h.bytes, hpoint]
        rfl
      rw [LoggerPoint.unwritten, List.flatMap_append, List.flatMap_singleton, ← hbytes,
        List.append_nil]
    · rcases hpoint with hpoint | hpoint <;> cases hpoint
  · cases hstep

theorem Written.write (h : Written localDateTime s) {out : ℕ} {result : Except IoError Unit}
    (hstep : s.step cap localDateTime (.write out result) = some s') :
    Written localDateTime s' := by
  simp only [step] at hstep
  split at hstep
  · rename_i parseVec hpoint
    have hbytes := h.bytes
    rw [hpoint, LoggerPoint.unwritten, List.append_assoc] at hbytes
    have hout := (goOut_bytes out { s with buffered := s.buffered ++ parseVec }).trans hbytes
    rcases result with e | ⟨⟩ <;> obtain rfl := Option.some.inj hstep
    · exact ⟨h.within, h.accounts, (List.append_nil _).trans hout, nofun,
        (by rintro (h | h) <;> cases h), nofun⟩
    · exact ⟨h.within, h.accounts, (List.append_nil _).trans hout, nofun,
        (by rintro (h | h) <;> cases h), nofun⟩
  · cases hstep

theorem Written.check (h : Written localDateTime s)
    (hstep : s.step cap localDateTime .check = some s') : Written localDateTime s' := by
  simp only [step] at hstep
  split at hstep
  · rename_i hpoint
    have hbytes := h.bytes
    rw [hpoint] at hbytes
    obtain rfl := Option.some.inj hstep
    split_ifs with hempty
    · exact ⟨h.within, h.accounts, hbytes, nofun, (by rintro (h | h) <;> cases h), nofun⟩
    · exact ⟨h.within, h.accounts, hbytes, fun _ hcursor => absurd hcursor hempty,
        (by rintro (h | h) <;> cases h), nofun⟩
  · cases hstep

/-- A flush ends with the buffer empty, or with an error. -/
theorem Written.flushTo (h : Written localDateTime s) (hnone : s.point.unwritten = [])
    {point : LoggerPoint} (hpoint : point = .receiving ∨ point = .ended (.ok ()))
    (hclosed : point = .ended (.ok ()) → s.senders = false ∧ s.cursor = s.sent.length)
    (out : ℕ) (result : Except IoError Unit) :
    Written localDateTime (s.flushTo point out result) := by
  have hbytes := h.bytes
  rw [hnone, List.append_nil] at hbytes
  rcases result with e | ⟨⟩
  · have hout := (goOut_bytes out s).trans hbytes
    exact ⟨h.within, h.accounts, (List.append_nil _).trans hout, nofun,
      (by rintro (h | h) <;> cases h), nofun⟩
  · have hdrop : (s.goOut s.buffered.length).buffered = [] := List.drop_length
    refine ⟨h.within, h.accounts, ?_, fun _ _ => hdrop, ?_, fun _ => hdrop⟩
    · have hnone' : point.unwritten = [] := by rcases hpoint with rfl | rfl <;> rfl
      have hout := (goOut_bytes s.buffered.length s).trans hbytes
      exact (congrArg _ hnone').trans ((List.append_nil _).trans hout)
    · rintro (hshutting | hended)
      · rcases hpoint with rfl | rfl <;> cases hshutting
      · exact hclosed hended

theorem Written.step (h : Written localDateTime s) {action : LoggerTaskAction}
    (hstep : s.step cap localDateTime action = some s') : Written localDateTime s' := by
  cases action with
  | send event =>
    simp only [LoggerTask.step] at hstep
    split_ifs at hstep with hsenders
    obtain rfl := Option.some.inj hstep
    exact h.send hsenders event
  | dropSenders =>
    obtain rfl := Option.some.inj hstep
    exact h.dropSenders
  | recv => exact h.recv hstep
  | write out result => exact h.write hstep
  | check => exact h.check hstep
  | flush out result =>
    simp only [LoggerTask.step] at hstep
    split at hstep
    · rename_i hpoint
      obtain rfl := Option.some.inj hstep
      exact h.flushTo (by rw [hpoint]; rfl) (.inl rfl) nofun out result
    · cases hstep
  | shutdown out result =>
    simp only [LoggerTask.step] at hstep
    split at hstep
    · rename_i hpoint
      obtain rfl := Option.some.inj hstep
      exact h.flushTo (by rw [hpoint]; rfl) (.inr rfl) (fun _ => h.closed (.inl hpoint)) out result
    · cases hstep

theorem Written.run {actions : List LoggerTaskAction}
    (hrun : runSteps (LoggerTask.step cap localDateTime) start actions = some s) :
    Written localDateTime s :=
  runSteps_keeps (fun _ _ _ h hstep => h.step hstep) written_start hrun

/-! ### The end -/

/-- How far the task is from its end if no more events are sent. -/
def remaining (s : LoggerTask) : ℕ :=
  4 * (s.sent.length - s.cursor) +
    match s.point with
    | .ended _ => 0
    | .shuttingDown => 1
    | .receiving => 2
    | .flushing => 3
    | .checking => 4
    | .writing _ => 5

/-- Without senders the task goes on, as long as its writer does not fail. -/
theorem Written.advances (h : Written localDateTime s) (hsenders : s.senders = false)
    (hpoint : ∀ result, s.point ≠ .ended result) :
    ∃ action s', s.step cap localDateTime action = some s' ∧ s'.senders = false
      ∧ s'.sent = s.sent ∧ s'.remaining < s.remaining ∧ ∀ e, s'.point ≠ .ended (.error e) := by
  rcases hp : s.point with _ | parseVec | _ | _ | _ | result
  · rcases hgot : broadcastRecv cap s.sent s.cursor with ⟨got, cursor⟩
    by_cases hempty : got = .empty
    · subst hempty
      have hstep : s.step cap localDateTime .recv = some { s with point := .shuttingDown } := by
        simp [LoggerTask.step, hp, hgot, hsenders]
      exact ⟨_, _, hstep, hsenders, rfl, by simp [remaining, hp], fun _ => nofun⟩
    · have hfst : (broadcastRecv cap s.sent s.cursor).1 = got := congrArg Prod.fst hgot
      obtain ⟨-, hlt, hwithin⟩ := h.accounts.snoc h.within hfst hempty
      rw [hgot] at hlt hwithin
      dsimp only at hlt hwithin
      have hstep : s.step cap localDateTime .recv = some { s with
          cursor := cursor
          received := s.received ++ [got]
          point := .writing (parsed localDateTime got) } := by
        cases got with
        | empty => exact absurd rfl hempty
        | value event => simp only [LoggerTask.step, hp, hgot]
        | lagged lostCount => simp only [LoggerTask.step, hp, hgot]
      refine ⟨_, _, hstep, hsenders, rfl, ?_, fun _ => nofun⟩
      simp only [remaining, hp]
      omega
  · have hstep : s.step cap localDateTime (.write 0 (.ok ())) = some
        { { s with buffered := s.buffered ++ parseVec }.goOut 0 with point := .checking } := by
      simp only [LoggerTask.step, hp]
    exact ⟨_, _, hstep, hsenders, rfl, by simp [remaining, hp, goOut], fun _ => nofun⟩
  · have hstep : s.step cap localDateTime .check = some
        { s with point := if s.cursor = s.sent.length then .flushing else .receiving } := by
      simp only [LoggerTask.step, hp]
    refine ⟨_, _, hstep, hsenders, rfl, ?_, fun e => ?_⟩
    · simp only [remaining, hp]
      split_ifs <;> dsimp only <;> omega
    · dsimp only
      split_ifs <;> nofun
  · have hstep : s.step cap localDateTime (.flush 0 (.ok ())) = some
        (s.flushTo .receiving 0 (.ok ())) := by
      simp only [LoggerTask.step, hp]
    exact ⟨_, _, hstep, hsenders, rfl, by simp [remaining, hp, LoggerTask.flushTo, goOut],
      fun _ => nofun⟩
  · have hstep : s.step cap localDateTime (.shutdown 0 (.ok ())) = some
        (s.flushTo (.ended (.ok ())) 0 (.ok ())) := by
      simp only [LoggerTask.step, hp]
    exact ⟨_, _, hstep, hsenders, rfl, by simp [remaining, hp, LoggerTask.flushTo, goOut],
      fun _ => by simp [LoggerTask.flushTo]⟩
  · exact absurd hp (hpoint result)

theorem Written.finishes {n : ℕ} : ∀ {s : LoggerTask}, Written localDateTime s →
    s.senders = false → (∀ e, s.point ≠ .ended (.error e)) → s.remaining ≤ n →
      ∃ actions s', runSteps (LoggerTask.step cap localDateTime) s actions = some s'
        ∧ s'.point = .ended (.ok ()) ∧ s'.sent = s.sent := by
  induction n with
  | zero =>
    intro s h hsenders hpoint hn
    rcases hp : s.point with _ | _ | _ | _ | _ | (e | ⟨⟩) <;> simp [remaining, hp] at hn
    · exact absurd hp (hpoint e)
    · exact ⟨[], s, rfl, hp, rfl⟩
  | succ n ih =>
    intro s h hsenders hpoint hn
    by_cases hended : s.point = .ended (.ok ())
    · exact ⟨[], s, rfl, hended, rfl⟩
    have hgoing : ∀ result, s.point ≠ .ended result := by
      rintro (e | ⟨⟩)
      · exact hpoint e
      · exact hended
    obtain ⟨action, s₁, hstep, hsenders₁, hsent, hlt, hpoint₁⟩ := h.advances hsenders hgoing
    obtain ⟨actions, s', hrun, hs', hsent'⟩ :=
      ih (h.step hstep) hsenders₁ hpoint₁ (by omega)
    exact ⟨action :: actions, s', runSteps_cons.2 ⟨s₁, hstep, hrun⟩, hs', hsent'.trans hsent⟩

/-- In every run a logger has written all that it received, which accounts for what was sent, and
what it has not flushed it does not wait with. Without senders it can end, with a line for each
event that was sent or a count of those that it lost. -/
theorem logger_writes {actions : List LoggerTaskAction}
    (hrun : runSteps (LoggerTask.step cap localDateTime) start actions = some s) :
    Received s.received (s.sent.take s.cursor)
      ∧ s.output ++ s.buffered ++ s.point.unwritten = s.received.flatMap (parsed localDateTime)
      ∧ (s.point = .receiving → s.cursor = s.sent.length → s.buffered = [])
      ∧ (s.senders = false → (∀ e, s.point ≠ .ended (.error e)) →
        ∃ actions' s', runSteps (LoggerTask.step cap localDateTime) s actions' = some s'
          ∧ s'.point = .ended (.ok ()) ∧ Received s'.received s.sent
          ∧ s'.output = s'.received.flatMap (parsed localDateTime)) := by
  have h : Written localDateTime s := .run hrun
  refine ⟨h.accounts, h.bytes, h.waiting, fun hsenders hpoint => ?_⟩
  obtain ⟨actions', s', hrun', hended, hsent⟩ := h.finishes hsenders hpoint le_rfl
  have h' : Written localDateTime s' :=
    runSteps_keeps (fun _ _ _ h hstep => h.step hstep) h hrun'
  obtain ⟨-, hcursor⟩ := h'.closed (.inr hended)
  have haccounts := h'.accounts
  have hbytes := h'.bytes
  rw [hcursor, List.take_length, hsent] at haccounts
  rw [h'.ended hended, hended, List.append_nil] at hbytes
  exact ⟨actions', s', hrun', hended, haccounts, (List.append_nil _).symm.trans hbytes⟩

/-- Two events at once, for which the channel has too little room. -/
def slowActions : List LoggerTaskAction :=
  [.send ⟨0, .shutdownSignalReceived⟩, .send ⟨0, .shutdownSignalReceived⟩, .dropSenders, .recv]

theorem logger_writes_slow :
    ∃ s, runSteps (LoggerTask.step 1 fun _ => ⟨1970, 1, 1, 0, 0, 0⟩) start slowActions = some s
      ∧ s.received = [.lagged 1]
      ∧ ∃ actions' s', runSteps (LoggerTask.step 1 fun _ => ⟨1970, 1, 1, 0, 0, 0⟩) s actions'
          = some s'
        ∧ s'.point = .ended (.ok ()) ∧ Received s'.received s.sent
        ∧ s'.output = s'.received.flatMap (parsed fun _ => ⟨1970, 1, 1, 0, 0, 0⟩) := by
  refine ⟨_, rfl, rfl, ?_⟩
  have hrun : runSteps (LoggerTask.step 1 fun _ => ⟨1970, 1, 1, 0, 0, 0⟩) start slowActions
      = some _ := rfl
  exact (logger_writes hrun).2.2.2 rfl fun _ => nofun

end LoggerTask

end DustDevil
