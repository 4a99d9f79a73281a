import Mathlib.Algebra.GroupWithZero.Nat
import DustDevil.Proofs.Socks5
import DustDevil.Server.Copy

/-!
# What the relay moves

After every step of the relay, in each direction: what the writer has accepted, and then what the
reader still holds, is what the reader has delivered; the counters and the log agree on its length;
and the writer is shut down only once everything is through, or after a write of no bytes. The
invariant has two parts, `Through` about the bytes and `Closing` about the end of the stream.
-/

namespace DustDevil

open Wire

section Polls

namespace HalfPoll

def filled : HalfPoll → List UInt8
  | fillBuf (.ready (.ok more)) => more
  | _ => []

def taken : HalfPoll → List UInt8
  | write buffer (.ready (.ok i)) => buffer.take i
  | _ => []

def IsShutdown : HalfPoll → Prop
  | shutdown _ => True
  | _ => False

end HalfPoll

/-- All that a reader has delivered, `start` being what it held at the beginning. -/
def delivered (start : List UInt8) (polls : List HalfPoll) : List UInt8 :=
  start ++ polls.flatMap HalfPoll.filled

def accepted (polls : List HalfPoll) : List UInt8 := polls.flatMap HalfPoll.taken

/-- The writer accepted 0 bytes of what it was offered. -/
def ZeroWrite (polls : List HalfPoll) : Prop := ∃ buffer, .write buffer (.ready (.ok 0)) ∈ polls

/-- The reader came to its end with all it had delivered accepted, the writer was flushed, and only
then, if at all, shut down. -/
def Finished (start : List UInt8) (polls : List HalfPoll) : Prop :=
  ∃ before shutdowns,
    polls = before ++ .fillBuf (.ready (.ok [])) :: .flush (.ready (.ok ())) :: shutdowns
      ∧ accepted before = delivered start before ∧ (∀ p ∈ before, ¬ p.IsShutdown)
      ∧ ∀ p ∈ shutdowns, p.IsShutdown

@[simp] theorem delivered_append (start : List UInt8) (polls : List HalfPoll) (p : HalfPoll) :
    delivered start (polls ++ [p]) = delivered start polls ++ p.filled := by
  simp [delivered]

@[simp] theorem accepted_append (polls : List HalfPoll) (p : HalfPoll) :
    accepted (polls ++ [p]) = accepted polls ++ p.taken := by
  simp [accepted]

end Polls

section Counts

def ClientContext.bytesMoved (cx : ClientContext) (isSrcToDst : Bool) : ℕ :=
  if isSrcToDst then cx.bytesSent else cx.bytesReceived

def EventData.byteCount (isSrcToDst : Bool) : EventData → ℕ
  | clientBytesSent _ count => if isSrcToDst then count else 0
  | clientBytesReceived _ count => if isSrcToDst then 0 else count
  | _ => 0

/-- The bytes of a direction that the log reports. -/
def loggedBytes (isSrcToDst : Bool) (events : List EventData) : ℕ :=
  (events.map (EventData.byteCount isSrcToDst)).sum

/-- A direction's counter, and what the log says, if there is a log. -/
def Counted (isSrcToDst : Bool) (cx : ClientContext) (events : List EventData) (n : ℕ) : Prop :=
  cx.bytesMoved isSrcToDst = n ∧ (cx.logging → loggedBytes isSrcToDst events = n)

variable {isSrcToDst dir : Bool} {s : Moving} {n : ℕ}

theorem Counted.logShutdown (h : Counted dir s.context s.events n) :
    Counted dir (s.logShutdown isSrcToDst).context (s.logShutdown isSrcToDst).events n := by
  refine ⟨h.1, fun hlog => ?_⟩
  have hsum := h.2 hlog
  simp only [Moving.logShutdown] at hlog ⊢
  cases isSrcToDst <;>
    simpa [loggedBytes, ClientContext.log, hlog, EventData.byteCount] using hsum

theorem Counted.register (isSrcToDst : Bool) (i : ℕ) (h : Counted dir s.context s.events n) :
    Counted dir (s.register isSrcToDst i).context (s.register isSrcToDst i).events
      (if dir = isSrcToDst then n + i else n) := by
  obtain ⟨hcount, hlogged⟩ := h
  cases isSrcToDst <;> cases dir <;>
    simp_all [Counted, Moving.register, ClientContext.registerBytesSent,
      ClientContext.registerBytesReceived, ClientContext.bytesMoved, ClientContext.log,
      loggedBytes, EventData.byteCount]

end Counts

/-! ## What an iteration does -/

section Iteration

variable {halves : Halves} {isSrcToDst : Bool}

def Moving.fill (s : Moving) (more : List UInt8) : Moving :=
  { s.record (.fillBuf (.ready (.ok more))) with
    transfer := { (s.record (.fillBuf (.ready (.ok more)))).transfer with
      buffer := s.transfer.buffer ++ more } }

/-- What one iteration of a direction's loop may do. -/
inductive Iterates (isSrcToDst : Bool) (s : Moving) : Moving → Prop where
  | fillWaits {answer : Poll (Except IoError (List UInt8))} (hstate : s.transfer.state = .running)
      (hanswer : ∀ more, answer ≠ .ready (.ok more)) :
      Iterates isSrcToDst s (s.record (.fillBuf answer))
  | flushWaits {answer : Poll (Except IoError Unit)} (hstate : s.transfer.state = .running)
      (hbuffer : s.transfer.buffer = []) :
      Iterates isSrcToDst s (((s.fill []).logShutdown isSrcToDst).record (.flush answer))
  | flushed (hstate : s.transfer.state = .running) (hbuffer : s.transfer.buffer = []) :
      Iterates isSrcToDst s ((((s.fill []).logShutdown isSrcToDst).record
        (.flush (.ready (.ok ())))).setState .shuttingDown)
  | writeWaits {more : List UInt8} {answer : Poll (Except IoError ℕ)}
      (hstate : s.transfer.state = .running) (hanswer : ∀ i, answer ≠ .ready (.ok i)) :
      Iterates isSrcToDst s ((s.fill more).record (.write (s.transfer.buffer ++ more) answer))
  | wroteNothing {more : List UInt8} (hstate : s.transfer.state = .running) :
      Iterates isSrcToDst s ((((s.fill more).record
        (.write (s.transfer.buffer ++ more) (.ready (.ok 0)))).logShutdown isSrcToDst).setState
          .shuttingDown)
  | wrote {more : List UInt8} {i : ℕ} (hstate : s.transfer.state = .running)
      (hle : i ≤ (s.transfer.buffer ++ more).length) :
      Iterates isSrcToDst s ((((s.fill more).record
        (.write (s.transfer.buffer ++ more) (.ready (.ok i)))).register isSrcToDst i).consume i)
  | shutdownWaits {answer : Poll (Except IoError Unit)}
      (hstate : s.transfer.state = .shuttingDown) :
      Iterates isSrcToDst s (s.record (.shutdown answer))
  | shutDown (hstate : s.transfer.state = .shuttingDown) :
      Iterates isSrcToDst s ((s.record (.shutdown (.ready (.ok ())))).setState .done)
  | done (hstate : s.transfer.state = .done) : Iterates isSrcToDst s s

theorem pollFillBuf_apply (halves : Halves) (s : Moving) :
    (∃ answer result, (∀ more, answer ≠ .ready (.ok more))
        ∧ pollFillBuf halves s = (.error result, s.record (.fillBuf answer)))
      ∨ ∃ more, pollFillBuf halves s = (.ok (s.transfer.buffer ++ more), s.fill more) := by
  unfold pollFillBuf
  rw [Proc.bind_ok (Proc.get_apply s)]
  rcases halves.fillBuf s.transfer.polls.length with _ | (e | more)
  · exact .inl ⟨.pending, .blocked, by simp, rfl⟩
  · exact .inl ⟨.ready (.error e), .err e, by simp, rfl⟩
  · exact .inr ⟨more, rfl⟩

theorem pollWrite_apply (halves : Halves) (buffer : List UInt8) (s : Moving) :
    (∃ answer result, (∀ i, answer ≠ .ready (.ok i))
        ∧ pollWrite halves buffer s = (.error result, s.record (.write buffer answer)))
      ∨ ∃ i ≤ buffer.length,
        pollWrite halves buffer s = (.ok i, s.record (.write buffer (.ready (.ok i)))) := by
  unfold pollWrite
  rw [Proc.bind_ok (Proc.get_apply s)]
  rcases halves.write s.transfer.polls.length with _ | (e | i)
  · exact .inl ⟨.pending, .blocked, by simp, rfl⟩
  · exact .inl ⟨.ready (.error e), .err e, by simp, rfl⟩
  · exact .inr ⟨min i buffer.length, Nat.min_le_right _ _, rfl⟩

theorem pollFlush_apply (halves : Halves) (s : Moving) :
    (∃ answer result, pollFlush halves s = (.error result, s.record (.flush answer)))
      ∨ pollFlush halves s = (.ok (), s.record (.flush (.ready (.ok ())))) := by
  unfold pollFlush
  rw [Proc.bind_ok (Proc.get_apply s)]
  rcases halves.flush s.transfer.polls.length with _ | (e | _)
  · exact .inl ⟨.pending, .blocked, rfl⟩
  · exact .inl ⟨.ready (.error e), .err e, rfl⟩
  · exact .inr rfl

theorem pollShutdown_apply (halves : Halves) (s : Moving) :
    (∃ answer result, pollShutdown halves s = (.error result, s.record (.shutdown answer)))
      ∨ pollShutdown halves s = (.ok (), s.record (.shutdown (.ready (.ok ())))) := by
  unfold pollShutdown
  rw [Proc.bind_ok (Proc.get_apply s)]
  rcases halves.shutdown s.transfer.polls.length with _ | (e | _)
  · exact .inl ⟨.pending, .blocked, rfl⟩
  · exact .inl ⟨.ready (.error e), .err e, rfl⟩
  · exact .inr rfl

theorem transferStep_iterates (halves : Halves) (isSrcToDst : Bool) (s : Moving) :
    Iterates isSrcToDst s (transferStep halves isSrcToDst s).2 := by
  unfold transferStep
  rw [Proc.bind_ok (Proc.get_apply s)]
  rcases hstate : s.transfer.state with _ | _ | _
  · dsimp only
    rcases pollFillBuf_apply halves s with ⟨answer, result, hanswer, hfill⟩ | ⟨more, hfill⟩
    · rw [Proc.bind_error hfill]
      exact .fillWaits hstate hanswer
    rw [Proc.bind_ok hfill]
    split_ifs with hempty
    · obtain ⟨hbuffer, rfl⟩ := List.append_eq_nil_iff.1 hempty
      rw [Proc.bind_ok (Proc.modify_apply _ _)]
      rcases pollFlush_apply halves ((s.fill []).logShutdown isSrcToDst) with
        ⟨answer, result, hflush⟩ | hflush
      · rw [Proc.bind_error hflush]
        exact .flushWaits hstate hbuffer
      · rw [Proc.bind_ok hflush]
        exact .flushed hstate hbuffer
    · rcases pollWrite_apply halves (s.transfer.buffer ++ more) (s.fill more) with
        ⟨answer, result, hanswer, hwrite⟩ | ⟨i, hle, hwrite⟩
      · rw [Proc.bind_error hwrite]
        exact .writeWaits hstate hanswer
      rw [Proc.bind_ok hwrite]
      split_ifs with hzero
      · subst hzero
        exact .wroteNothing hstate
      · exact .wrote hstate hle
  · dsimp only
    rcases pollShutdown_apply halves s with ⟨answer, result, hshutdown⟩ | hshutdown
    · rw [Proc.bind_error hshutdown]
      exact .shutdownWaits hstate
    · rw [Proc.bind_ok hshutdown]
      exact .shutDown hstate
  · exact .done hstate

end Iteration

/-! ## The bytes -/

section Through

variable {isSrcToDst : Bool} {start : List UInt8} {n : ℕ} {s s' : Moving}

/-- Nothing is lost between a direction's reader and its writer, and the writer's bytes are counted;
the other direction has `n` bytes. -/
structure Through (isSrcToDst : Bool) (start : List UInt8) (n : ℕ) (s : Moving) : Prop where
  delivered : delivered start s.transfer.polls = accepted s.transfer.polls ++ s.transfer.buffer
  counted : Counted isSrcToDst s.context s.events (accepted s.transfer.polls).length
  other : Counted (!isSrcToDst) s.context s.events n

namespace Through

theorem record (h : Through isSrcToDst start n s) {p : HalfPoll} (hfilled : p.filled = [])
    (htaken : p.taken = []) : Through isSrcToDst start n (s.record p) where
  delivered := by simpa [Moving.record, hfilled, htaken] using h.delivered
  counted := by simpa [Moving.record, htaken] using h.counted
  other := h.other

theorem fill (h : Through isSrcToDst start n s) (more : List UInt8) :
    Through isSrcToDst start n (s.fill more) where
  delivered := by simp [Moving.fill, Moving.record, HalfPoll.filled, HalfPoll.taken, h.delivered]
  counted := by simpa [Moving.fill, Moving.record, HalfPoll.taken] using h.counted
  other := h.other

theorem logShutdown (h : Through isSrcToDst start n s) (dir : Bool) :
    Through isSrcToDst start n (s.logShutdown dir) :=
  ⟨h.delivered, h.counted.logShutdown, h.other.logShutdown⟩

theorem setState (h : Through isSrcToDst start n s) (state : TransferState) :
    Through isSrcToDst start n (s.setState state) :=
  ⟨h.delivered, h.counted, h.other⟩

theorem wrote (h : Through isSrcToDst start n s) {i : ℕ} (hle : i ≤ s.transfer.buffer.length) :
    Through isSrcToDst start n (((s.record
      (.write s.transfer.buffer (.ready (.ok i)))).register isSrcToDst i).consume i) where
  delivered := by
    simp only [Moving.consume, Moving.register, Moving.record, delivered_append, accepted_append,
      HalfPoll.filled, HalfPoll.taken, List.append_nil, List.append_assoc, List.take_append_drop]
    exact h.delivered
  counted := by
    have hcounted := h.counted.register (s := s) isSrcToDst i
    rw [if_pos rfl] at hcounted
    simpa [Moving.consume, Moving.register, Moving.record, HalfPoll.taken, Nat.min_eq_left hle]
      using hcounted
  other := by
    have hother := h.other.register (s := s) isSrcToDst i
    rwa [if_neg (by simp)] at hother

end Through

theorem Iterates.through (h : Iterates isSrcToDst s s') (hs : Through isSrcToDst start n s) :
    Through isSrcToDst start n s' := by
  cases h with
  | fillWaits hstate hanswer =>
    refine hs.record ?_ rfl
    rename_i answer
    rcases answer with _ | (e | more)
    · rfl
    · rfl
    · exact absurd rfl (hanswer more)
  | flushWaits => exact ((hs.fill []).logShutdown _).record rfl rfl
  | flushed => exact (((hs.fill []).logShutdown _).record rfl rfl).setState _
  | writeWaits hstate hanswer =>
    refine (hs.fill _).record rfl ?_
    rename_i answer
    rcases answer with _ | (e | i)
    · rfl
    · rfl
    · exact absurd rfl (hanswer i)
  | wroteNothing => exact (((hs.fill _).record rfl rfl).logShutdown _).setState _
  | wrote hstate hle => exact (hs.fill _).wrote hle
  | shutdownWaits => exact hs.record rfl rfl
  | shutDown => exact (hs.record rfl rfl).setState _
  | done => exact hs

end Through

/-! ## The end of the stream -/

section Closing

variable {isSrcToDst : Bool} {start : List UInt8} {n : ℕ} {s s' : Moving}

/-- A direction stops running only at the end of its reader or after a write of no bytes, and is
done only once its writer is shut down. -/
def Closing (start : List UInt8) (transfer : Transfer) : Prop :=
  match transfer.state with
  | .running => ∀ p ∈ transfer.polls, ¬ p.IsShutdown
  | .shuttingDown => ZeroWrite transfer.polls ∨ Finished start transfer.polls
  | .done => (ZeroWrite transfer.polls ∨ Finished start transfer.polls)
      ∧ .shutdown (.ready (.ok ())) ∈ transfer.polls

theorem closing_of_running {transfer : Transfer} (hstate : transfer.state = .running) :
    Closing start transfer ↔ ∀ p ∈ transfer.polls, ¬ p.IsShutdown := by
  unfold Closing
  rw [hstate]

theorem closing_of_shuttingDown {transfer : Transfer} (hstate : transfer.state = .shuttingDown) :
    Closing start transfer ↔ ZeroWrite transfer.polls ∨ Finished start transfer.polls := by
  unfold Closing
  rw [hstate]

/-- A further poll of the writer's shutdown changes nothing about how the stream ended. -/
theorem closed_append {polls : List HalfPoll} (h : ZeroWrite polls ∨ Finished start polls)
    {p : HalfPoll} (hp : p.IsShutdown) :
    ZeroWrite (polls ++ [p]) ∨ Finished start (polls ++ [p]) := by
  rcases h with ⟨buffer, hmem⟩ | ⟨before, shutdowns, hpolls, haccepted, hbefore, hshutdowns⟩
  · exact .inl ⟨buffer, List.mem_append_left _ hmem⟩
  · refine .inr ⟨before, shutdowns ++ [p], by simp [hpolls], haccepted, hbefore, ?_⟩
    intro q hq
    rcases List.mem_append.1 hq with hq | hq
    · exact hshutdowns q hq
    · rwa [List.mem_singleton.1 hq]

theorem not_shutdown_append {polls : List HalfPoll} (h : ∀ p ∈ polls, ¬ p.IsShutdown)
    {p : HalfPoll} (hp : ¬ p.IsShutdown) : ∀ q ∈ polls ++ [p], ¬ q.IsShutdown := by
  intro q hq
  rcases List.mem_append.1 hq with hq | hq
  · exact h q hq
  · rwa [List.mem_singleton.1 hq]

theorem closing_record {p : HalfPoll} (hstate : s.transfer.state = .running)
    (hc : Closing start s.transfer) (hp : ¬ p.IsShutdown) :
    Closing start (s.record p).transfer := by
  refine (closing_of_running ?_).2 (not_shutdown_append ((closing_of_running hstate).1 hc) hp)
  show s.transfer.state = .running
  exact hstate

theorem closing_fill (more : List UInt8) (hstate : s.transfer.state = .running)
    (hc : Closing start s.transfer) : Closing start (s.fill more).transfer :=
  closing_record hstate hc id

theorem Iterates.closing (h : Iterates isSrcToDst s s') (hs : Through isSrcToDst start n s)
    (hc : Closing start s.transfer) : Closing start s'.transfer := by
  cases h with
  | fillWaits hstate => exact closing_record hstate hc id
  | flushWaits hstate =>
    exact closing_record (s := (s.fill []).logShutdown _) hstate (closing_fill [] hstate hc) id
  | flushed hstate hbuffer =>
    refine .inr ⟨s.transfer.polls, [], ?_, ?_, (closing_of_running hstate).1 hc, by simp⟩
    · simp [Moving.setState, Moving.record, Moving.logShutdown, Moving.fill]
    · rw [hs.delivered, hbuffer, List.append_nil]
  | writeWaits hstate =>
    exact closing_record (s := s.fill _) hstate (closing_fill _ hstate hc) id
  | wroteNothing hstate => exact .inl ⟨_, List.mem_append_right _ (List.mem_singleton_self _)⟩
  | wrote hstate => exact closing_record (s := s.fill _) hstate (closing_fill _ hstate hc) id
  | shutdownWaits hstate =>
    rw [closing_of_shuttingDown hstate] at hc
    refine (closing_of_shuttingDown ?_).2 (closed_append hc trivial)
    show s.transfer.state = .shuttingDown
    exact hstate
  | shutDown hstate =>
    rw [closing_of_shuttingDown hstate] at hc
    exact ⟨closed_append (p := .shutdown (.ready (.ok ()))) hc trivial,
      List.mem_append_right _ (List.mem_singleton_self _)⟩
  | done => exact hc

end Closing

/-! ## The relay -/

section Relay

variable {halves : Bool → Halves} {start : Bool → List UInt8} {s : Copying}

/-- The invariant of a direction. -/
structure Relays (start : List UInt8) (isSrcToDst : Bool) (s : Copying) : Prop where
  delivered : delivered start (s.transfer isSrcToDst).polls
    = accepted (s.transfer isSrcToDst).polls ++ (s.transfer isSrcToDst).buffer
  counted : Counted isSrcToDst s.context s.events (accepted (s.transfer isSrcToDst).polls).length
  closing : Closing start (s.transfer isSrcToDst)

theorem iterate_relays (isSrcToDst : Bool) (h : ∀ dir, Relays (start dir) dir s) (dir : Bool) :
    Relays (start dir) dir (Copying.iterate halves isSrcToDst s).2 := by
  have hstep := transferStep_iterates (halves isSrcToDst) isSrcToDst (s.moving isSrcToDst)
  have hmoving : Through isSrcToDst (start isSrcToDst) _ (s.moving isSrcToDst) :=
    ⟨(h isSrcToDst).delivered, (h isSrcToDst).counted, (h !isSrcToDst).counted⟩
  have hthrough := hstep.through hmoving
  have hclosing := hstep.closing hmoving (h isSrcToDst).closing
  unfold Copying.iterate
  rw [Proc.zoom_apply]
  by_cases hdir : dir = isSrcToDst
  · subst hdir
    refine ⟨?_, ?_, ?_⟩ <;> simp only [Copying.setMoving, Function.update_self]
    · exact hthrough.delivered
    · exact hthrough.counted
    · exact hclosing
  · have hother : dir = !isSrcToDst := Bool.eq_not_of_ne hdir
    refine ⟨?_, ?_, ?_⟩ <;> simp only [Copying.setMoving, Function.update_of_ne hdir]
    · exact (h dir).delivered
    · rw [hother]
      exact hthrough.other
    · exact (h dir).closing

theorem next_relays (result : Except (Stop IoError) Bool) (phase : CopyPhase)
    {start : List UInt8} {dir : Bool} (h : Relays start dir s) :
    Relays start dir (s.next phase result) := by
  unfold Copying.next
  split <;> exact ⟨h.delivered, h.counted, h.closing⟩

theorem step_relays (h : ∀ dir, Relays (start dir) dir s) (dir : Bool) :
    Relays (start dir) dir (Copying.step halves s) := by
  unfold Copying.step
  split
  · exact next_relays _ _ (iterate_relays true h dir)
  · exact next_relays _ _ (iterate_relays false h dir)
  · exact h dir

/-- What a direction's reader holds when the relay begins. -/
def heldAtStart (reader : BufReader) (isSrcToDst : Bool) : List UInt8 :=
  if isSrcToDst then reader.buf else []

theorem start_relays (clientId : ℕ) (state : ServerState) (logging : Bool) (reader : BufReader)
    (dir : Bool) :
    Relays (heldAtStart reader dir) dir
      (.start (.create clientId state logging) reader) where
  delivered := List.append_nil _
  counted := by cases dir <;> exact ⟨rfl, fun _ => rfl⟩
  closing := by simp [Closing, Copying.start]

theorem run_relays (halves : Bool → Halves) : ∀ (n : ℕ) {s : Copying},
    (∀ dir, Relays (start dir) dir s) → ∀ dir, Relays (start dir) dir ((Copying.step halves)^[n] s)
  | 0, _, h, dir => h dir
  | n + 1, _, h, dir => run_relays halves n (step_relays h) dir

end Relay

/-! ## The relay of a connection -/

section Connection

variable {env : SocksEnv} {cx : ClientContext} {fuel : ℕ} {address : SocketAddr}

/-- A connection that relays hands on its reader with all that the client sent after its request. -/
theorem handleSocks5Inner_eq_relaying {ρ : Type} [AsyncRead ρ] {r : ρ} {conn : SocksConn ρ}
    (h : handleSocks5Inner env cx fuel ⟨r, (), []⟩ = (.ok (.relaying address), conn)) :
    ∃ method request bytes, Gate cx (unread r) method bytes
      ∧ WritesRequest bytes request (unread conn.reader) := by
  obtain ⟨authStatus, conn1, hauth, h⟩ := Proc.bind_eq_ok h
  cases authStatus with
  | false => simp at h
  | true =>
    obtain ⟨method, hgate, -⟩ := negotiate_eq_true hauth
    obtain ⟨request, hwrites⟩ := serveRequest_eq_relaying h
    exact ⟨method, request, _, hgate, hwrites⟩

/-- Whatever the halves answer, after any number of steps and in each direction, the writer has
accepted a prefix of what its reader has delivered, its length is what the counter and the log say,
and a direction that is done without a write of no bytes has moved everything up to the end of its
reader and shut its writer down only then. What the client sent after its request is held by its
reader, and so the beginning of what that reader delivers, or is still to be read. -/
theorem relay_delivers {clientId capacity : ℕ} {state : ServerState} {logging : Bool}
    {source : Source} {conn : SocksConn BufReader}
    (hrun : handleSocks5Inner env (.create clientId state logging) fuel
      ⟨.withCapacity capacity source, (), []⟩ = (.ok (.relaying address), conn))
    (halves : Bool → Halves) (n : ℕ) :
    (∀ isSrcToDst,
      let s := (Copying.step halves)^[n] (.start (.create clientId state logging) conn.reader)
      let polls := (s.transfer isSrcToDst).polls
      let held := heldAtStart conn.reader isSrcToDst
      accepted polls <+: delivered held polls
        ∧ s.context.bytesMoved isSrcToDst = (accepted polls).length
        ∧ (s.context.logging → loggedBytes isSrcToDst s.events = (accepted polls).length)
        ∧ ((s.transfer isSrcToDst).state = .done → ¬ ZeroWrite polls →
          Finished held polls ∧ .shutdown (.ready (.ok ())) ∈ polls))
      ∧ ∃ method request bytes, Gate (.create clientId state logging) source.bytes method bytes
        ∧ WritesRequest bytes request (conn.reader.buf ++ conn.reader.inner.bytes) := by
  refine ⟨fun isSrcToDst => ?_, handleSocks5Inner_eq_relaying hrun⟩
  have hrelays := run_relays halves n (start_relays clientId state logging conn.reader) isSrcToDst
  refine ⟨⟨_, hrelays.delivered.symm⟩, hrelays.counted.1, hrelays.counted.2, ?_⟩
  intro hdone hnonzero
  have hclosing := hrelays.closing
  rw [Closing, hdone] at hclosing
  exact ⟨hclosing.1.resolve_left hnonzero, hclosing.2⟩

/-- Halves that answer at once: the readers are at their end, the writers take a byte at a time. -/
def bytewise : Halves where
  fillBuf _ := .ready (.ok [])
  write _ := .ready (.ok 1)
  flush _ := .ready (.ok ())
  shutdown _ := .ready (.ok ())

def loggedIn : SocksConn BufReader :=
  (handleSocks5Inner namelessEnv bothMethods 255 ⟨loginClient, (), []⟩).2

theorem handleSocks5Inner_loginClient :
    handleSocks5Inner namelessEnv bothMethods 255 ⟨loginClient, (), []⟩
      = (.ok (.relaying (.v4 ⟨⟨0x0A000001⟩, 80⟩)), loggedIn) := by
  have hresult : (handleSocks5Inner namelessEnv bothMethods 255 ⟨loginClient, (), []⟩).1
      = .ok (.relaying (.v4 ⟨⟨0x0A000001⟩, 80⟩)) := by decide +kernel
  unfold loggedIn
  rw [← hresult]

def loginClientPolls : List HalfPoll :=
  [.fillBuf (.ready (.ok [])), .write [0x68, 0x69] (.ready (.ok 1)),
    .fillBuf (.ready (.ok [])), .write [0x69] (.ready (.ok 1)),
    .fillBuf (.ready (.ok [])), .flush (.ready (.ok ())), .shutdown (.ready (.ok ()))]

def loginRelay : Copying :=
  (Copying.step fun _ => bytewise)^[4] (.start (.create 1 bothEnabled true) loggedIn.reader)

theorem loginRelay_srcToDst : (loginRelay.transfer true).state = .done
    ∧ (loginRelay.transfer true).polls = loginClientPolls := by
  decide +kernel

theorem relay_delivers_loginClient :
    Finished (heldAtStart loggedIn.reader true) (loginRelay.transfer true).polls := by
  have h := (relay_delivers handleSocks5Inner_loginClient (fun _ => bytewise) 4).1 true
  dsimp only at h
  rw [← loginRelay] at h
  refine (h.2.2.2 loginRelay_srcToDst.1 ?_).1
  rw [loginRelay_srcToDst.2]
  rintro ⟨buffer, hmem⟩
  simp [loginClientPolls] at hmem

end Connection

end DustDevil
