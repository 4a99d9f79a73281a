import Mathlib.Data.List.Nodup
import Mathlib.Data.List.Perm.Subperm
import DustDevil.Server.Logger

/-!
# The counters of the metrics tracker

While it does not lag, the task has counted exactly the events before its position, and a client
that it hands a receiver gets exactly those from the `resubscribe` on (`answers_run`). When it lags
it loses events, and its counters stay above zero as long as no connection finishes whose acceptance
was lost (`noUnderflow_run`).
-/

namespace DustDevil

open Wire

section Count

/-- The counter of connections of the kind. -/
def Metrics.current (metrics : Metrics) : ConnectionKind → UInt32
  | .client => metrics.currentClientConnections
  | .sandstorm => metrics.currentSandstormConnections

/-- How many of the events say this, by `f`, of a connection of the kind. -/
def tally (f : EventData → Option (ConnectionKind × ℕ)) (kind : ConnectionKind)
    (events : List EventData) : ℕ :=
  (events.filterMap f).countP fun connection => connection.1 = kind

theorem tally_append (f : EventData → Option (ConnectionKind × ℕ)) (kind : ConnectionKind)
    (events events' : List EventData) :
    tally f kind (events ++ events') = tally f kind events + tally f kind events' := by
  unfold tally
  rw [List.filterMap_append, List.countP_append]

theorem increment32_eq_ok {n m : UInt32} (h : increment32 n = .ok m) : m.toNat = n.toNat + 1 := by
  unfold increment32 at h
  split_ifs at h with hlt
  obtain rfl := Except.ok.inj h
  rw [UInt32.toNat_add]
  exact Nat.mod_eq_of_lt hlt

theorem decrement32_eq_ok {n m : UInt32} (h : decrement32 n = .ok m) : m.toNat + 1 = n.toNat := by
  unfold decrement32 at h
  split_ifs at h with hzero
  obtain rfl := Except.ok.inj h
  have hpos : n.toNat ≠ 0 := fun hn => hzero (UInt32.toNat_inj.1 hn)
  have hone : (1 : UInt32) ≤ n := UInt32.le_iff_toNat_le.2 (Nat.one_le_iff_ne_zero.2 hpos)
  rw [UInt32.toNat_sub_of_le _ _ hone]
  have : (1 : UInt32).toNat = 1 := rfl
  omega

/-- An event moves the counter of its kind's connections as it says. -/
theorem count_ok {metrics metrics' : Metrics} {data : EventData}
    (h : metrics.count data = .ok metrics') (kind : ConnectionKind) :
    (metrics'.current kind).toNat + tally EventData.finished kind [data]
      = (metrics.current kind).toNat + tally EventData.accepted kind [data] := by
  cases data with
  | newClientConnectionAccepted id address =>
    obtain ⟨current, hcurrent, h⟩ := bind_eq_ok h
    obtain ⟨historic, -, h⟩ := bind_eq_ok h
    obtain rfl := Except.ok.inj h
    cases kind
    · exact increment32_eq_ok hcurrent
    · rfl
  | newSandstormConnectionAccepted id address =>
    obtain ⟨current, hcurrent, h⟩ := bind_eq_ok h
    obtain ⟨historic, -, h⟩ := bind_eq_ok h
    obtain rfl := Except.ok.inj h
    cases kind
    · rfl
    · exact increment32_eq_ok hcurrent
  | clientConnectionFinished id bytesSent bytesReceived result =>
    obtain ⟨current, hcurrent, h⟩ := bind_eq_ok h
    obtain rfl := Except.ok.inj h
    cases kind
    · exact decrement32_eq_ok hcurrent
    · rfl
  | sandstormConnectionFinished id result =>
    obtain ⟨current, hcurrent, h⟩ := bind_eq_ok h
    obtain rfl := Except.ok.inj h
    cases kind
    · rfl
    · exact decrement32_eq_ok hcurrent
  | clientBytesSent id count =>
    obtain ⟨sent, -, h⟩ := bind_eq_ok h
    obtain rfl := Except.ok.inj h
    cases kind <;> rfl
  | clientBytesReceived id count =>
    obtain ⟨received, -, h⟩ := bind_eq_ok h
    obtain rfl := Except.ok.inj h
    cases kind <;> rfl
  | _ =>
    obtain rfl := Except.ok.inj h
    rfl

theorem increment32_ne_sub (n : UInt32) : increment32 n ≠ .error .sub := by
  unfold increment32
  split_ifs <;> nofun

theorem add64_ne_sub (n : UInt64) (count : ℕ) : add64 n count ≠ .error .sub := by
  unfold add64
  split_ifs <;> nofun

theorem decrement32_eq_sub {n : UInt32} (h : decrement32 n = .error .sub) : n = 0 := by
  unfold decrement32 at h
  split_ifs at h with hzero
  exact hzero

theorem accept_ne_sub {n : UInt32} {m : UInt64} {f : UInt32 → UInt64 → Metrics} :
    (do
      let current ← increment32 n
      let historic ← add64 m 1
      pure (f current historic)) ≠ Except.error Overflow.sub := by
  intro h
  rcases bind_eq_error h with h | ⟨current, -, h⟩
  · exact increment32_ne_sub _ h
  · rcases bind_eq_error h with h | ⟨historic, -, h⟩
    · exact add64_ne_sub _ _ h
    · cases h

/-- A subtraction overflows only if a connection finishes of a kind that none is counted of. -/
theorem count_eq_sub {metrics : Metrics} {data : EventData}
    (h : metrics.count data = .error .sub) :
    ∃ connection, data.finished = some connection ∧ metrics.current connection.1 = 0 := by
  cases data with
  | newClientConnectionAccepted | newSandstormConnectionAccepted => exact absurd h accept_ne_sub
  | clientConnectionFinished id bytesSent bytesReceived result =>
    rcases bind_eq_error h with h | ⟨current, -, h⟩
    · exact ⟨(.client, id), rfl, decrement32_eq_sub h⟩
    · cases h
  | sandstormConnectionFinished id result =>
    rcases bind_eq_error h with h | ⟨current, -, h⟩
    · exact ⟨(.sandstorm, id), rfl, decrement32_eq_sub h⟩
    · cases h
  | clientBytesSent | clientBytesReceived =>
    rcases bind_eq_error h with h | ⟨sent, -, h⟩
    · exact absurd h (add64_ne_sub _ _)
    · cases h
  | _ => cases h

end Count

/-! ## Connections and their counters -/

section Paired

variable {events : List EventData}

/-- Each connection that finishes among the events is accepted among them, and finishes once. -/
structure Paired (events : List EventData) : Prop where
  accepted : events.filterMap EventData.finished ⊆ events.filterMap EventData.accepted
  once : (events.filterMap EventData.finished).Nodup

theorem filterMap_snoc {α β : Type} (f : α → Option β) (l : List α) (a : α) :
    (l ++ [a]).filterMap f = l.filterMap f ++ (f a).toList := by
  rw [List.filterMap_append]
  cases h : f a <;> simp [h]

theorem Paired.nil : Paired [] := ⟨List.Subset.refl _, List.nodup_nil⟩

theorem Paired.snoc {data : EventData} (h : Paired events) (hdata : CanSend events data) :
    Paired (events ++ [data]) := by
  constructor
  · rw [filterMap_snoc, filterMap_snoc]
    intro connection hmem
    refine List.mem_append_left _ ?_
    rcases List.mem_append.1 hmem with hmem | hmem
    · exact h.accepted hmem
    · exact (hdata connection (Option.mem_toList.1 hmem)).1
  · rw [filterMap_snoc]
    rcases hfinished : data.finished with _ | connection
    · simpa using h.once
    · refine h.once.append (List.nodup_singleton _) (List.disjoint_singleton.2 ?_)
      exact (hdata connection hfinished).2

/-- No more connections have finished than were accepted, and fewer if one is still to finish. -/
theorem Paired.tally_le (h : Paired events) (kind : ConnectionKind) :
    tally EventData.finished kind events ≤ tally EventData.accepted kind events := by
  unfold tally
  rw [List.countP_eq_length_filter, List.countP_eq_length_filter]
  refine (List.subperm_of_subset (h.once.filter _) fun connection hmem => ?_).length_le
  rw [List.mem_filter] at hmem ⊢
  exact ⟨h.accepted hmem.1, hmem.2⟩

theorem Paired.tally_lt {connection : ConnectionKind × ℕ} {data : EventData} (h : Paired events)
    (hdata : CanSend events data) (hfinished : data.finished = some connection) :
    tally EventData.finished connection.1 events
      < tally EventData.accepted connection.1 events := by
  have hle := (h.snoc hdata).tally_le connection.1
  have hone : tally EventData.finished connection.1 [data] = 1 := by simp [tally, hfinished]
  have hnone : tally EventData.accepted connection.1 [data] = 0 := by
    cases data <;> first | rfl | cases hfinished
  rw [tally_append, tally_append, hone, hnone] at hle
  omega

/-- The counters are those of the events. -/
def Counts (metrics : Metrics) (events : List EventData) : Prop :=
  ∀ kind, (metrics.current kind).toNat + tally EventData.finished kind events
    = tally EventData.accepted kind events

theorem Counts.zero : Counts .zero [] := by
  intro kind
  cases kind <;> rfl

theorem Counts.count {metrics metrics' : Metrics} {data : EventData} (h : Counts metrics events)
    (hcount : metrics.count data = .ok metrics') : Counts metrics' (events ++ [data]) := by
  intro kind
  have hkind := h kind
  have hdata := count_ok hcount kind
  rw [tally_append, tally_append]
  omega

theorem Counts.ne_sub {metrics : Metrics} {data : EventData} (h : Counts metrics events)
    (hpaired : Paired events) (hdata : CanSend events data) :
    metrics.count data ≠ .error .sub := by
  intro hsub
  obtain ⟨connection, hfinished, hzero⟩ := count_eq_sub hsub
  have hlt := hpaired.tally_lt hdata hfinished
  have hkind := h connection.1
  rw [hzero] at hkind
  have : (0 : UInt32).toNat = 0 := rfl
  omega

end Paired

/-! ## What the steps do -/

namespace Logger

section Steps

variable {cap : ℕ} {s s' : Logger}

theorem send_cases {data : EventData} (hs : s.step cap (.send data) = some s') :
    CanSend s.sent data ∧ s' = { s with sent := s.sent ++ [data] } := by
  simp only [step] at hs
  split_ifs at hs with hdata
  exact ⟨hdata, (Option.some.inj hs).symm⟩

theorem pollEvents_cases (hcursor : s.cursor ≤ s.sent.length)
    (hs : s.step cap .pollEvents = some s') : s.point = .polling
      ∧ ((s.cursor + cap < s.sent.length ∧ s' = { s with cursor := s.sent.length - cap })
        ∨ (∃ data, s.sent[s.cursor]? = some data
          ∧ broadcastRecv cap s.sent s.cursor = (.value data, s.cursor + 1)
          ∧ s' = { s with cursor := s.cursor + 1 }.countEvent data)
        ∨ (s.cursor = s.sent.length ∧ s' = { s with point := .foundEmpty s.sent.length })) := by
  simp only [step] at hs
  split at hs
  next hpoint =>
    refine ⟨hpoint, ?_⟩
    obtain ⟨hlag, hrecv⟩ | ⟨data, hdata, hrecv⟩ | ⟨hempty, hrecv⟩ := broadcastRecv_cases cap hcursor
    · rw [hrecv] at hs
      exact .inl ⟨hlag, (Option.some.inj hs).symm⟩
    · rw [hrecv] at hs
      exact .inr (.inl ⟨data, hdata, hrecv, (Option.some.inj hs).symm⟩)
    · rw [hrecv] at hs
      exact .inr (.inr ⟨hempty, (Option.some.inj hs).symm⟩)
  next => simp at hs

/-- The task counts, or it fails. -/
theorem countEvent_cases (s : Logger) (data : EventData) :
    (∃ metrics, s.metrics.count data = .ok metrics
      ∧ s.countEvent data = { s with counted := s.counted ++ [data], metrics := metrics })
    ∨ ∃ overflow, s.metrics.count data = .error overflow
      ∧ s.countEvent data
        = { s with counted := s.counted ++ [data], point := .failed overflow } := by
  unfold countEvent
  rcases s.metrics.count data with overflow | metrics
  · exact .inr ⟨overflow, rfl, rfl⟩
  · exact .inl ⟨metrics, rfl, rfl⟩

/-- What else happens leaves the events and the counters alone. -/
theorem other_cases {action : LoggerAction} (hsend : ∀ data, action ≠ .send data)
    (hpoll : action ≠ .pollEvents) (hs : s.step cap action = some s') :
    s'.sent = s.sent ∧ s'.cursor = s.cursor ∧ s'.counted = s.counted ∧ s'.metrics = s.metrics
      ∧ ∀ overflow, s'.point = .failed overflow ↔ s.point = .failed overflow := by
  cases action with
  | send data => exact absurd rfl (hsend data)
  | pollEvents => exact absurd rfl hpoll
  | request request =>
    obtain rfl := Option.some.inj hs
    exact ⟨rfl, rfl, rfl, rfl, fun _ => Iff.rfl⟩
  | pollRequests =>
    simp only [step] at hs
    split at hs
    next hpoint =>
      rw [hpoint]
      split at hs <;>
      · obtain rfl := Option.some.inj hs
        exact ⟨rfl, rfl, rfl, rfl, fun _ => ⟨nofun, nofun⟩⟩
    next => simp at hs
  | resubscribe =>
    simp only [step] at hs
    split at hs
    next hpoint =>
      rw [hpoint]
      obtain rfl := Option.some.inj hs
      exact ⟨rfl, rfl, rfl, rfl, fun _ => ⟨nofun, nofun⟩⟩
    next => simp at hs
  | deliver i =>
    simp only [step] at hs
    split at hs
    · obtain rfl := Option.some.inj hs
      exact ⟨rfl, rfl, rfl, rfl, fun _ => Iff.rfl⟩
    · simp at hs

end Steps

/-! ## With lags -/

section Lagged

variable {cap : ℕ} {s s' : Logger}

/-- The task does not get to know that a connection has finished whose acceptance it has lost. -/
def NoneOrphaned (cap : ℕ) (s : Logger) : LoggerAction → Prop
  | .pollEvents => ∀ data, (broadcastRecv cap s.sent s.cursor).1 = .value data →
    ∀ connection ∈ data.finished, connection ∈ s.counted.filterMap EventData.accepted
  | _ => True

structure Counted (s : Logger) : Prop where
  within : s.cursor ≤ s.sent.length
  sublist : s.counted.Sublist (s.sent.take s.cursor)
  sent : Paired s.sent
  counted : Paired s.counted
  counts : (∀ overflow, s.point ≠ .failed overflow) → Counts s.metrics s.counted
  noUnderflow : s.point ≠ .failed .sub

theorem counted_start : Counted start where
  within := le_rfl
  sublist := List.nil_sublist _
  sent := .nil
  counted := .nil
  counts _ := .zero
  noUnderflow := nofun

theorem Counted.send (h : s.Counted) {data : EventData} (hdata : CanSend s.sent data) :
    Counted { s with sent := s.sent ++ [data] } where
  within := by
    have := h.within
    show s.cursor ≤ (s.sent ++ [data]).length
    rw [List.length_append]
    omega
  sublist := by
    show s.counted.Sublist ((s.sent ++ [data]).take s.cursor)
    rw [List.take_append_of_le_length h.within]
    exact h.sublist
  sent := h.sent.snoc hdata
  counted := h.counted
  counts := h.counts
  noUnderflow := h.noUnderflow

theorem snoc_sublist {α : Type} {l l' : List α} {n : ℕ} {a : α} (h : l.Sublist (l'.take n))
    (ha : l'[n]? = some a) : (l ++ [a]).Sublist (l'.take (n + 1)) := by
  rw [List.take_add_one, ha]
  exact h.append (List.Sublist.refl _)

theorem Counted.canSend (h : s.Counted) {data : EventData} (hdata : s.sent[s.cursor]? = some data)
    (haccepted : ∀ connection ∈ data.finished,
      connection ∈ s.counted.filterMap EventData.accepted) : CanSend s.counted data := by
  refine fun connection hfinished => ⟨haccepted connection hfinished, fun hmem => ?_⟩
  have hsublist := ((snoc_sublist h.sublist hdata).trans (List.take_sublist _ _)).filterMap
    EventData.finished
  have hnodup := h.sent.once.sublist hsublist
  rw [filterMap_snoc, Option.mem_def.1 hfinished] at hnodup
  exact List.disjoint_of_nodup_append hnodup hmem (List.mem_singleton_self _)

theorem Counted.countEvent (h : s.Counted) (hpoint : s.point = .polling) {data : EventData}
    (hdata : s.sent[s.cursor]? = some data) (hcan : CanSend s.counted data) :
    Counted ({ s with cursor := s.cursor + 1 }.countEvent data) := by
  have hcounts := h.counts fun overflow hfailed => by
    rw [hpoint] at hfailed
    cases hfailed
  have hwithin : s.cursor + 1 ≤ s.sent.length := (List.getElem?_eq_some_iff.1 hdata).1
  have hsublist := snoc_sublist h.sublist hdata
  have hpaired := h.counted.snoc hcan
  obtain ⟨metrics, hcount, heq⟩ | ⟨overflow, hcount, heq⟩ :=
    countEvent_cases { s with cursor := s.cursor + 1 } data
  · rw [heq]
    exact ⟨hwithin, hsublist, h.sent, hpaired, fun _ => hcounts.count hcount, h.noUnderflow⟩
  · rw [heq]
    refine ⟨hwithin, hsublist, h.sent, hpaired, fun hnot => absurd rfl (hnot overflow), ?_⟩
    rintro ⟨⟩
    exact hcounts.ne_sub h.counted hcan hcount

theorem counted_step (s : Logger) (action : LoggerAction) (s' : Logger) (h : s.Counted)
    (hcond : NoneOrphaned cap s action) (hs : s.step cap action = some s') : s'.Counted := by
  by_cases hsend : ∃ data, action = .send data
  · obtain ⟨data, rfl⟩ := hsend
    obtain ⟨hdata, rfl⟩ := send_cases hs
    exact h.send hdata
  by_cases hpoll : action = .pollEvents
  · subst hpoll
    obtain ⟨hpoint, ⟨hlag, rfl⟩ | ⟨data, hdata, hrecv, rfl⟩ | ⟨hempty, rfl⟩⟩ :=
      pollEvents_cases h.within hs
    · refine ⟨Nat.sub_le _ _, h.sublist.trans ?_, h.sent, h.counted, h.counts, h.noUnderflow⟩
      exact List.take_sublist_take_left (show s.cursor ≤ s.sent.length - cap by omega)
    · exact h.countEvent hpoint hdata (h.canSend hdata (hcond data (by rw [hrecv])))
    · refine ⟨h.within, h.sublist, h.sent, h.counted, fun _ => h.counts fun overflow hfailed => ?_,
        nofun⟩
      rw [hpoint] at hfailed
      cases hfailed
  · obtain ⟨hsent, hcursor, hcounted, hmetrics, hfailed⟩ :=
      other_cases (fun data heq => hsend ⟨data, heq⟩) hpoll hs
    refine ⟨by rw [hsent, hcursor]; exact h.within,
      by rw [hsent, hcursor, hcounted]; exact h.sublist,
      by rw [hsent]; exact h.sent, by rw [hcounted]; exact h.counted, fun hnot => ?_,
      fun hsub => h.noUnderflow ((hfailed _).1 hsub)⟩
    rw [hcounted, hmetrics]
    exact h.counts fun overflow heq => hnot overflow ((hfailed overflow).2 heq)

/-- However the events are sent and lost, no subtraction underflows in a run in which the task never
receives the end of a connection whose acceptance it has lost. -/
theorem noUnderflow_run {actions : List LoggerAction}
    (hcond : AlongRun (step cap) (NoneOrphaned cap) start actions)
    (hs : runSteps (step cap) start actions = some s) : s.point ≠ .failed .sub :=
  (runSteps_keeps_along counted_step counted_start hcond hs).noUnderflow

def acceptedEvent : EventData := .newClientConnectionAccepted 1 (.v4 ⟨⟨0⟩, 0⟩)

def finishedEvent : EventData := .clientConnectionFinished 1 0 0 (.ok ())

/-- With room for one event, a connection's acceptance is counted, something else is lost, and then
the end of the connection is counted. -/
def harmlessLag : List LoggerAction :=
  [.send acceptedEvent, .pollEvents, .send .shutdownSignalReceived, .send finishedEvent,
    .pollEvents, .pollEvents]

theorem noUnderflow_run_harmlessLag :
    ∃ s, runSteps (step 1) start harmlessLag = some s ∧ s.counted = [acceptedEvent, finishedEvent]
      ∧ s.point ≠ .failed .sub := by
  have hcond : AlongRun (step 1) (NoneOrphaned 1) start harmlessLag := by
    refine .cons trivial rfl (.cons ?_ rfl (.cons trivial rfl (.cons trivial rfl
      (.cons ?_ rfl (.cons ?_ rfl trivial)))))
    · rintro _ ⟨⟩ _ ⟨⟩
    · rintro _ ⟨⟩
    · rintro _ ⟨⟩ _ ⟨⟩
      exact List.mem_singleton_self _
  exact ⟨_, rfl, rfl, noUnderflow_run hcond rfl⟩

theorem runSteps_sends {data : EventData} (hdata : data.finished = none)
    (rest : List LoggerAction) : ∀ (n : ℕ) (s : Logger),
      runSteps (step cap) s (List.replicate n (.send data) ++ rest)
        = runSteps (step cap) { s with sent := s.sent ++ List.replicate n data } rest
  | 0, s => by
    rw [List.replicate_zero, List.replicate_zero, List.append_nil]
    rfl
  | n + 1, s => by
    have hcan : CanSend s.sent data := fun connection hconnection => by
      rw [hdata] at hconnection
      cases hconnection
    have hstep : step cap s (.send data) = some { s with sent := s.sent ++ [data] } := if_pos hcan
    rw [List.replicate_succ, List.cons_append, runSteps, hstep, Option.bind_some,
      runSteps_sends hdata rest n, List.append_assoc, List.singleton_append, ← List.replicate_succ]

/-- A connection is accepted and finishes, and then come `n` other events, before the task polls. -/
def burst (n : ℕ) : List LoggerAction :=
  .send acceptedEvent :: .send finishedEvent
    :: (List.replicate n (.send .shutdownSignalReceived) ++ [.pollEvents, .pollEvents])

/-- With room for one event less than there are, only the acceptance is lost. -/
theorem burst_underflows (n : ℕ) :
    ∃ s, runSteps (step (n + 1)) start (burst n) = some s ∧ s.point = .failed .sub := by
  have hlag : broadcastRecv (n + 1)
      ([acceptedEvent, finishedEvent] ++ List.replicate n .shutdownSignalReceived) 0
        = (.lagged 1, 1) := by
    simp [broadcastRecv]
  have hvalue : broadcastRecv (n + 1)
      ([acceptedEvent, finishedEvent] ++ List.replicate n .shutdownSignalReceived) 1
        = (.value finishedEvent, 2) := by
    simp [broadcastRecv, Nat.add_comm]
  have hsends : runSteps (step (n + 1)) start (burst n)
      = runSteps (step (n + 1)) { start with
        sent := [acceptedEvent, finishedEvent] ++ List.replicate n .shutdownSignalReceived }
        [.pollEvents, .pollEvents] :=
    runSteps_sends rfl _ _ { start with sent := [acceptedEvent, finishedEvent] }
  rw [hsends]
  unfold runSteps
  simp only [step, start, hlag, Option.bind_some, runSteps, hvalue]
  exact ⟨_, rfl, rfl⟩

theorem underflow_burst : ∃ s, runSteps (step eventLogBuffer) start (burst 0xFFF) = some s
    ∧ s.point = .failed .sub :=
  burst_underflows 0xFFF

end Lagged

end Logger

/-! ## The totals of the events -/

section Totals

variable {events : List EventData}

/-- The metrics of all of these events. -/
def totals (events : List EventData) : Except Overflow Metrics :=
  events.foldlM Metrics.count .zero

theorem totals_append (events events' : List EventData) :
    totals (events ++ events')
      = totals events >>= fun metrics => events'.foldlM Metrics.count metrics :=
  List.foldlM_append

theorem totals_snoc (events : List EventData) (data : EventData) :
    totals (events ++ [data]) = totals events >>= fun metrics => metrics.count data := by
  simp only [totals_append, List.foldlM_cons, List.foldlM_nil, bind_pure]

/-- The server can send these events, in this order. -/
inductive Sendable : List EventData → Prop where
  | nil : Sendable []
  | snoc {events : List EventData} {data : EventData} :
    Sendable events → CanSend events data → Sendable (events ++ [data])

theorem Sendable.paired (h : Sendable events) : Paired events := by
  induction h with
  | nil => exact .nil
  | snoc _ hdata ih => exact ih.snoc hdata

theorem Sendable.counts (h : Sendable events) {metrics : Metrics}
    (ht : totals events = .ok metrics) :
    Counts metrics events := by
  induction h generalizing metrics with
  | nil =>
    obtain rfl := Except.ok.inj ht
    exact .zero
  | snoc _ hdata ih =>
    rw [totals_snoc] at ht
    obtain ⟨metrics', ht', hcount⟩ := bind_eq_ok ht
    exact (ih ht').count hcount

/-- No subtraction underflows in what the server sends. -/
theorem Sendable.totals_ne_sub (h : Sendable events) (n : ℕ) :
    totals (events.take n) ≠ .error .sub := by
  induction h with
  | nil =>
    rw [List.take_nil]
    nofun
  | @snoc events data hevents hdata ih =>
    rcases Nat.lt_or_ge events.length n with hn | hn
    · rw [List.take_of_length_le (by rw [List.length_append]; exact hn), totals_snoc]
      intro hsub
      rcases bind_eq_error hsub with hsub | ⟨metrics, ht, hsub⟩
      · rw [List.take_of_length_le hn.le] at ih
        exact ih hsub
      · exact (hevents.counts ht).ne_sub hevents.paired hdata hsub
    · rw [List.take_append_of_le_length hn]
      exact ih

end Totals

/-! ## Without lags -/

namespace Subscription

variable {cap : ℕ} {subscription : Subscription} {sent : List EventData}

/-- The metrics are those of the events that had been sent when the task found its receiver empty,
and the events got are all those from the `resubscribe` to the receiver's position. -/
structure Exact (subscription : Subscription) (sent : List EventData) : Prop where
  foundEmpty_le : subscription.foundEmptyAt ≤ subscription.start
  start_le : subscription.start ≤ subscription.cursor
  within : subscription.cursor ≤ sent.length
  metrics : totals (sent.take subscription.foundEmptyAt) = .ok subscription.metrics
  delivered : subscription.delivered = (sent.take subscription.cursor).drop subscription.start
  display : subscription.display
    = subscription.delivered.foldlM Metrics.count subscription.metrics

theorem Exact.snoc (h : subscription.Exact sent) (data : EventData) :
    subscription.Exact (sent ++ [data]) := by
  have hlen := h.foundEmpty_le.trans (h.start_le.trans h.within)
  refine { h with within := ?_, metrics := ?_, delivered := ?_ }
  · rw [List.length_append]
    exact h.within.trans (Nat.le_add_right _ _)
  · rw [List.take_append_of_le_length hlen]
    exact h.metrics
  · rw [List.take_append_of_le_length h.within]
    exact h.delivered

theorem Exact.receive (h : subscription.Exact sent)
    (hlag : sent.length ≤ subscription.cursor + cap) :
    (subscription.receive cap sent).Exact sent := by
  unfold Subscription.receive
  obtain ⟨hlag', -⟩ | ⟨data, hdata, hrecv⟩ | ⟨-, hrecv⟩ := broadcastRecv_cases cap h.within
  · exact absurd hlag' (Nat.not_lt.2 hlag)
  · rw [hrecv]
    have hlt := (List.getElem?_eq_some_iff.1 hdata).1
    refine ⟨h.foundEmpty_le, h.start_le.trans (Nat.le_succ _), hlt, h.metrics, ?_, ?_⟩
    · show subscription.delivered ++ [data]
        = (sent.take (subscription.cursor + 1)).drop subscription.start
      rw [h.delivered, List.take_add_one, hdata, List.drop_append_of_le_length]
      · rfl
      · rw [List.length_take]
        exact Nat.le_min.2 ⟨h.start_le, h.start_le.trans h.within⟩
    · show (subscription.display.bind fun display => display.newStreamEvent data)
        = (subscription.delivered ++ [data]).foldlM Metrics.count subscription.metrics
      rw [List.foldlM_append, h.display]
      simp only [MetricsDisplay.newStreamEvent_eq, List.foldlM_cons, List.foldlM_nil, bind_pure]
      rfl
  · rw [hrecv]
    exact h

end Subscription

namespace Logger

section Exact

variable {cap : ℕ} {s s' : Logger}

/-- The receiver that the action polls is not too far behind. -/
def NoLag (cap : ℕ) (s : Logger) : LoggerAction → Prop
  | .pollEvents => s.sent.length ≤ s.cursor + cap
  | .deliver i => ∀ subscription, s.subscriptions[i]? = some subscription →
    s.sent.length ≤ subscription.cursor + cap
  | _ => True

structure Exact (s : Logger) : Prop where
  within : s.cursor ≤ s.sent.length
  sent : Sendable s.sent
  metrics : (∀ overflow, s.point ≠ .failed overflow) →
    totals (s.sent.take s.cursor) = .ok s.metrics
  foundEmpty : ∀ n, s.point = .foundEmpty n → n = s.cursor
  subscribing : ∀ metrics n, s.point = .subscribing metrics n → metrics = s.metrics ∧ n = s.cursor
  answers : ∀ answer ∈ s.answers,
    answer.1 ≤ s.sent.length ∧ totals (s.sent.take answer.1) = .ok answer.2
  subscriptions : ∀ subscription ∈ s.subscriptions, subscription.Exact s.sent

theorem exact_start : Exact start where
  within := le_rfl
  sent := .nil
  metrics _ := rfl
  foundEmpty := nofun
  subscribing := nofun
  answers := nofun
  subscriptions := nofun

theorem Exact.send (h : s.Exact) {data : EventData} (hdata : CanSend s.sent data) :
    Exact { s with sent := s.sent ++ [data] } := by
  refine { h with
      within := ?_
      sent := h.sent.snoc hdata
      metrics := ?_
      answers := ?_
      subscriptions := fun subscription hmem => (h.subscriptions subscription hmem).snoc data }
  · show s.cursor ≤ (s.sent ++ [data]).length
    rw [List.length_append]
    exact h.within.trans (Nat.le_add_right _ _)
  · show _ → totals ((s.sent ++ [data]).take s.cursor) = _
    rw [List.take_append_of_le_length h.within]
    exact h.metrics
  · intro answer hmem
    obtain ⟨hle, htotals⟩ := h.answers answer hmem
    show answer.1 ≤ (s.sent ++ [data]).length ∧ totals ((s.sent ++ [data]).take answer.1) = _
    rw [List.take_append_of_le_length hle, List.length_append]
    exact ⟨hle.trans (Nat.le_add_right _ _), htotals⟩

theorem Exact.countEvent (h : s.Exact) (hpoint : s.point = .polling) {data : EventData}
    (hdata : s.sent[s.cursor]? = some data) :
    Exact ({ s with cursor := s.cursor + 1 }.countEvent data) := by
  have hmetrics := h.metrics fun overflow hfailed => by
    rw [hpoint] at hfailed
    cases hfailed
  have hwithin : s.cursor + 1 ≤ s.sent.length := (List.getElem?_eq_some_iff.1 hdata).1
  have htotals : totals (s.sent.take (s.cursor + 1)) = s.metrics.count data := by
    rw [List.take_add_one, hdata]
    show totals (s.sent.take s.cursor ++ [data]) = _
    rw [totals_snoc, hmetrics]
    rfl
  obtain ⟨metrics, hcount, heq⟩ | ⟨overflow, hcount, heq⟩ :=
    countEvent_cases { s with cursor := s.cursor + 1 } data
  · rw [heq]
    refine { h with
        within := hwithin
        metrics := fun _ => htotals.trans hcount
        foundEmpty := ?_
        subscribing := ?_ }
    · intro n hn
      cases hpoint.symm.trans hn
    · intro metrics n hn
      cases hpoint.symm.trans hn
  · rw [heq]
    exact { h with
        within := hwithin
        metrics := fun hnot => absurd rfl (hnot overflow)
        foundEmpty := nofun
        subscribing := nofun }

theorem Exact.not_failed (h : s.Exact) (hpoint : ∀ overflow, s.point ≠ .failed overflow) :
    s.cursor ≤ s.sent.length ∧ totals (s.sent.take s.cursor) = .ok s.metrics :=
  ⟨h.within, h.metrics hpoint⟩

theorem exact_pollRequests (h : s.Exact) (hs : s.step cap .pollRequests = some s') : s'.Exact := by
  simp only [step] at hs
  split at hs
  next foundEmptyAt hpoint =>
    have hnow := h.not_failed fun overflow hfailed => by
      rw [hpoint] at hfailed
      cases hfailed
    split at hs
    · obtain rfl := Option.some.inj hs
      exact { h with metrics := fun _ => hnow.2, foundEmpty := nofun, subscribing := nofun }
    · obtain rfl := Option.some.inj hs
      refine { h with
          metrics := fun _ => hnow.2
          foundEmpty := nofun
          subscribing := nofun
          answers := fun answer hmem => ?_ }
      rcases List.mem_append.1 hmem with hmem | hmem
      · exact h.answers answer hmem
      · obtain rfl := List.mem_singleton.1 hmem
        exact hnow
    · obtain rfl := Option.some.inj hs
      refine { h with metrics := fun _ => hnow.2, foundEmpty := nofun, subscribing := ?_ }
      rintro metrics n ⟨⟩
      exact ⟨rfl, h.foundEmpty _ hpoint⟩
  next => simp at hs

theorem exact_resubscribe (h : s.Exact) (hs : s.step cap .resubscribe = some s') : s'.Exact := by
  simp only [step] at hs
  split at hs
  next metrics foundEmptyAt hpoint =>
    have hnow := h.not_failed fun overflow hfailed => by
      rw [hpoint] at hfailed
      cases hfailed
    obtain ⟨rfl, rfl⟩ := h.subscribing _ _ hpoint
    obtain rfl := Option.some.inj hs
    refine { h with
        metrics := fun _ => hnow.2
        foundEmpty := nofun
        subscribing := nofun
        answers := fun answer hmem => ?_
        subscriptions := fun subscription hmem => ?_ }
    · rcases List.mem_append.1 hmem with hmem | hmem
      · exact h.answers answer hmem
      · obtain rfl := List.mem_singleton.1 hmem
        exact hnow
    · rcases List.mem_append.1 hmem with hmem | hmem
      · exact h.subscriptions subscription hmem
      · obtain rfl := List.mem_singleton.1 hmem
        refine ⟨h.within, le_rfl, le_rfl, hnow.2, ?_, rfl⟩
        show [] = (s.sent.take s.sent.length).drop s.sent.length
        rw [List.take_length, List.drop_length]
  next => simp at hs

theorem exact_deliver (h : s.Exact) {i : ℕ} (hlag : NoLag cap s (.deliver i))
    (hs : s.step cap (.deliver i) = some s') : s'.Exact := by
  simp only [step] at hs
  split at hs
  next subscription hsubscription =>
    obtain rfl := Option.some.inj hs
    refine { h with subscriptions := fun subscription' hmem => ?_ }
    rcases List.mem_or_eq_of_mem_set hmem with hmem | rfl
    · exact h.subscriptions subscription' hmem
    · exact (h.subscriptions subscription (List.mem_of_getElem? hsubscription)).receive
        (hlag subscription hsubscription)
  next => simp at hs

theorem exact_step (s : Logger) (action : LoggerAction) (s' : Logger) (h : s.Exact)
    (hlag : NoLag cap s action) (hs : s.step cap action = some s') : s'.Exact := by
  cases action with
  | send data =>
    obtain ⟨hdata, rfl⟩ := send_cases hs
    exact h.send hdata
  | request request =>
    obtain rfl := Option.some.inj hs
    exact { h with }
  | pollEvents =>
    obtain ⟨hpoint, ⟨hlag', -⟩ | ⟨data, hdata, -, rfl⟩ | ⟨hempty, rfl⟩⟩ :=
      pollEvents_cases h.within hs
    · exact absurd hlag' (Nat.not_lt.2 hlag)
    · exact h.countEvent hpoint hdata
    · have hnow := h.not_failed fun overflow hfailed => by
        rw [hpoint] at hfailed
        cases hfailed
      refine { h with metrics := fun _ => hnow.2, foundEmpty := ?_, subscribing := nofun }
      rintro n ⟨⟩
      exact hempty.symm
  | pollRequests => exact exact_pollRequests h hs
  | resubscribe => exact exact_resubscribe h hs
  | deliver i => exact exact_deliver h hlag hs

theorem exact_run {actions : List LoggerAction}
    (hlag : AlongRun (step cap) (NoLag cap) start actions)
    (hs : runSteps (step cap) start actions = some s) : s.Exact :=
  runSteps_keeps_along exact_step exact_start hlag hs

/-- While no receiver lags, the metrics sent are the totals of the events up to some moment. With a
receiver, they are those of the events up to the moment when the task found its own receiver empty,
and the client gets every event from the `resubscribe` on, in order. If nothing was sent between
these two, the client's counters are the totals of all the events up to the last that it has got,
and no subtraction of them has underflowed. -/
theorem answers_run {actions : List LoggerAction}
    (hlag : AlongRun (step cap) (NoLag cap) start actions)
    (hs : runSteps (step cap) start actions = some s) :
    (∀ n metrics, (n, metrics) ∈ s.answers →
      n ≤ s.sent.length ∧ totals (s.sent.take n) = .ok metrics)
    ∧ ∀ subscription ∈ s.subscriptions,
      subscription.foundEmptyAt ≤ subscription.start ∧ subscription.start ≤ subscription.cursor
      ∧ subscription.cursor ≤ s.sent.length
      ∧ totals (s.sent.take subscription.foundEmptyAt) = .ok subscription.metrics
      ∧ subscription.delivered = (s.sent.take subscription.cursor).drop subscription.start
      ∧ (subscription.foundEmptyAt = subscription.start →
        subscription.display = totals (s.sent.take subscription.cursor)
          ∧ subscription.display ≠ .error .sub) := by
  have h := exact_run hlag hs
  refine ⟨fun n metrics hmem => h.answers _ hmem, fun subscription hmem => ?_⟩
  have hsub := h.subscriptions subscription hmem
  refine ⟨hsub.foundEmpty_le, hsub.start_le, hsub.within, hsub.metrics, hsub.delivered,
    fun hnone => ?_⟩
  have hdisplay : subscription.display = totals (s.sent.take subscription.cursor) := by
    have hmetrics := hsub.metrics
    rw [hnone] at hmetrics
    rw [hsub.display, ← List.take_append_drop subscription.start (s.sent.take subscription.cursor),
      List.take_take, Nat.min_eq_left hsub.start_le, totals_append, hmetrics, ← hsub.delivered]
    rfl
  exact ⟨hdisplay, hdisplay ▸ h.sent.totals_ne_sub _⟩

/-- A client subscribes after a connection was accepted, and sees it finish. -/
def quietSubscribe : List LoggerAction :=
  [.send acceptedEvent, .request .metricsAndSubscribe, .pollEvents, .pollEvents, .pollRequests,
    .resubscribe, .send finishedEvent, .deliver 0]

theorem answers_run_quietSubscribe :
    ∃ s, runSteps (step 2) start quietSubscribe = some s
      ∧ s.answers = [(1, ⟨1, 1, 0, 0, 0, 0⟩)]
      ∧ ∀ subscription ∈ s.subscriptions, subscription.display ≠ .error .sub := by
  have hlag : AlongRun (step 2) (NoLag 2) start quietSubscribe := by
    refine .cons trivial rfl (.cons trivial rfl (.cons (show 1 ≤ 0 + 2 by decide) rfl
      (.cons (show 1 ≤ 1 + 2 by decide) rfl (.cons trivial rfl (.cons trivial rfl
        (.cons trivial rfl (.cons ?_ rfl trivial)))))))
    rintro _ ⟨⟩
    exact show 2 ≤ 1 + 2 by decide
  refine ⟨_, rfl, rfl, fun subscription hmem => ?_⟩
  obtain ⟨-, -, -, -, -, hdisplay⟩ := (answers_run hlag rfl).2 subscription hmem
  obtain rfl := List.mem_singleton.1 hmem
  exact (hdisplay rfl).2

/-- A connection is accepted after the task has found its receiver empty and before the
`resubscribe`, and then finishes. -/
def busySubscribe : List LoggerAction :=
  [.request .metricsAndSubscribe, .pollEvents, .pollRequests, .send acceptedEvent, .resubscribe,
    .send finishedEvent, .deliver 0]

set_option maxRecDepth 20000 in
/-- The client of that subscription gets the connection's end and not its beginning, whatever the
prefix of the events that its metrics are of, and a counter goes below zero. -/
theorem missed_busySubscribe :
    ∃ s subscription, runSteps (step eventLogBuffer) start busySubscribe = some s
      ∧ AlongRun (step eventLogBuffer) (NoLag eventLogBuffer) start busySubscribe
      ∧ s.sent = [acceptedEvent, finishedEvent]
      ∧ s.subscriptions = [subscription]
      ∧ (∀ n, totals (s.sent.take n) = .ok subscription.metrics →
        subscription.delivered ≠ (s.sent.drop n).take subscription.delivered.length)
      ∧ subscription.display = .error .sub := by
  have hlag : AlongRun (step eventLogBuffer) (NoLag eventLogBuffer) start busySubscribe := by
    refine .cons trivial rfl (.cons (Nat.zero_le _) rfl (.cons trivial rfl (.cons trivial rfl
      (.cons trivial rfl (.cons trivial rfl (.cons ?_ rfl trivial))))))
    rintro _ ⟨⟩
    exact show 2 ≤ 1 + eventLogBuffer by decide
  have hone : totals [acceptedEvent] = .ok ⟨1, 1, 0, 0, 0, 0⟩ := rfl
  have htwo : totals [acceptedEvent, finishedEvent] = .ok ⟨0, 1, 0, 0, 0, 0⟩ := rfl
  refine ⟨_, ⟨.zero, 0, 1, 2, [finishedEvent], .error .sub⟩, rfl, hlag, rfl, rfl, fun n => ?_, rfl⟩
  rcases n with _ | _ | n
  · rintro - ⟨⟩
  · intro h
    exact absurd (hone.symm.trans h) (by simp [Metrics.zero])
  · intro h
    rw [List.take_of_length_le (show 2 ≤ n + 1 + 1 by omega)] at h
    exact absurd (htwo.symm.trans h) (by simp [Metrics.zero])

end Exact

end Logger

end DustDevil
