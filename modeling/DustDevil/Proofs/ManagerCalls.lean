import DustDevil.Client.Manager
import DustDevil.Proofs.Requests

/-!
# The calls on a request manager

A call leaves its handler and then writes its request, so that one whose request cannot be written
leaves the handler and the beginning of the request behind. The calls are atomic exactly if all of
their requests can be written (`callsAtomic_iff`).
-/

namespace DustDevil

open Wire

/-! ## Requests that are too long -/

section TooLong

theorem smallString_error {s : Str} (h : 255 < (utf8 s).length) (out : Sink) :
    ByteWrite.write (SmallWriteString.mk s) out
      = (.error (.err (invalidData "Small string is too long (>= 256B)")), out) := by
  show (if _ then _ else _ : Proc Sink IoError Unit) out = _
  rw [if_pos h]
  rfl

/-- The writing stops with an error. -/
def WriteFails (w : Proc Sink IoError Unit) : Prop :=
  ∀ out, ∃ e out', w out = (.error (.err e), out')

theorem smallString_fails {s : Str} (h : 255 < (utf8 s).length) :
    WriteFails (ByteWrite.write (SmallWriteString.mk s)) :=
  fun out => ⟨_, out, smallString_error h out⟩

theorem WriteFails.bind {w w' : Proc Sink IoError Unit} (h : WriteFails w) :
    WriteFails (w >>= fun _ => w') := by
  intro out
  obtain ⟨e, out', hw⟩ := h out
  exact ⟨e, out', Proc.bind_error hw _⟩

theorem WriteFails.after {w w' : Proc Sink IoError Unit} {bs : List UInt8} (hw : Writes w bs)
    (h : WriteFails w') : WriteFails (w >>= fun _ => w') := by
  intro out
  obtain ⟨e, out', hw'⟩ := h (out ++ bs)
  exact ⟨e, out', (Proc.bind_ok (hw out) _).trans hw'⟩

theorem smallString_writes {s : Str} (h : (utf8 s).length ≤ 255) :
    ∃ bs, Writes (ByteWrite.write (SmallWriteString.mk s)) bs := by
  obtain ⟨bs, hw, -⟩ := carries_smallString h
  exact ⟨bs, hw⟩

namespace ClientRequest

/-- Whatever precedes the string that is too long, the writing stops there. -/
theorem write_fails {q : ClientRequest} (h : ¬ q.Fits) : WriteFails q.write := by
  cases q with
  | addUser request =>
    refine .after (writeAll_writes _) ?_
    rcases Nat.lt_or_ge 255 (utf8 request.username).length with hu | hu
    · exact (smallString_fails hu).bind
    · obtain ⟨bs, hw⟩ := smallString_writes hu
      have hp : 255 < (utf8 request.password).length := Nat.lt_of_not_le fun hp => h ⟨hu, hp⟩
      exact .after hw (smallString_fails hp).bind
  | updateUser request =>
    refine .after (writeAll_writes _) ?_
    rcases Nat.lt_or_ge 255 (utf8 request.username).length with hu | hu
    · exact (smallString_fails hu).bind
    · obtain ⟨bs, hw⟩ := smallString_writes hu
      have hp : ∃ password ∈ request.password, 255 < (utf8 password).length := by
        by_contra hnone
        push Not at hnone
        exact h ⟨hu, hnone⟩
      obtain ⟨password, hmem, hp⟩ := hp
      rw [Option.mem_def.1 hmem]
      exact .after hw (WriteFails.after (writeAll_writes _) (smallString_fails hp)).bind
  | deleteUser request =>
    exact .after (writeAll_writes _) (smallString_fails (Nat.lt_of_not_le h))
  | _ => exact absurd trivial h

theorem write_writes {q : ClientRequest} (h : q.Fits) : Writes q.write q.encoding := by
  obtain ⟨body, hw, -⟩ := write_framed h
  have hencoding : q.encoding = q.command.intoU8 :: body := congrArg Prod.snd (hw [])
  rwa [hencoding]

end ClientRequest

end TooLong

/-! ## What a call does -/

section Call

namespace ClientRequest

theorem call_apply (q : ClientRequest) (f : ℕ) (manager : SandstormRequestManager) :
    q.call f manager
      = ((q.write manager.writer).1,
        ⟨(q.write manager.writer).2, q.register f manager.handlers⟩) := by
  cases q <;> rfl

theorem register_remaining (q : ClientRequest) (f : ℕ) (handlers : ResponseHandlers) :
    (q.register f handlers).remaining = handlers.remaining + 1 := by
  cases q <;> rfl

theorem call_ok {q : ClientRequest} (h : q.Fits) (f : ℕ) (manager : SandstormRequestManager) :
    q.call f manager
      = (.ok (), ⟨manager.writer ++ q.encoding, q.register f manager.handlers⟩) := by
  rw [call_apply, write_writes h]

theorem call_error {q : ClientRequest} (h : ¬ q.Fits) (f : ℕ) (manager : SandstormRequestManager) :
    ∃ e writer, q.call f manager
      = (.error (.err e), ⟨writer, q.register f manager.handlers⟩) := by
  obtain ⟨e, writer, hwrite⟩ := write_fails h manager.writer
  exact ⟨e, writer, by rw [call_apply, hwrite]⟩

end ClientRequest

end Call

/-! ## Any sequence of calls -/

section Calls

variable {manager : SandstormRequestManager} {steps : List ManagerStep}

/-- The requests whose calls returned `Ok`. -/
def okRequests (records : List CallRecord) : List ClientRequest :=
  records.filterMap fun record =>
    match record.result with
    | .ok _ => some record.request
    | .error _ => none

/-- The writer is given the complete requests of the calls that returned `Ok`, and nothing else, and
a call that returned an error leaves the handlers as they were. -/
def CallsAtomic (manager : SandstormRequestManager) (steps : List ManagerStep) : Prop :=
  (runCalls manager steps).2.writer
      = manager.writer ++ ClientRequest.encodings (okRequests (runCalls manager steps).1)
    ∧ ∀ record ∈ (runCalls manager steps).1, ∀ e, record.result = .error e →
      record.after.handlers = record.before.handlers

/-- Every request can be written. -/
def AllFit (steps : List ManagerStep) : Prop :=
  ∀ q f, ManagerStep.call q f ∈ steps → q.Fits

theorem allFit_cons {step : ManagerStep} :
    AllFit (step :: steps) ↔ (∀ q f, .call q f = step → q.Fits) ∧ AllFit steps := by
  unfold AllFit
  simp only [List.mem_cons]
  constructor
  · exact fun h => ⟨fun q f hstep => h q f (.inl hstep), fun q f hmem => h q f (.inr hmem)⟩
  · rintro ⟨hstep, hsteps⟩ q f (h | h)
    · exact hstep q f h
    · exact hsteps q f h

theorem callsAtomic_of_allFit :
    ∀ (steps : List ManagerStep) (manager : SandstormRequestManager),
      AllFit steps → CallsAtomic manager steps
  | [], manager, _ => ⟨(List.append_nil _).symm, fun _ h => absurd h List.not_mem_nil⟩
  | .others handlers :: steps, manager, h =>
    callsAtomic_of_allFit steps { manager with handlers := handlers } (allFit_cons.1 h).2
  | .call q f :: steps, manager, h => by
    obtain ⟨hq, hsteps⟩ := allFit_cons.1 h
    have hcall := ClientRequest.call_ok (hq q f rfl) f manager
    obtain ⟨hwriter, hhandlers⟩ := callsAtomic_of_allFit steps
      ⟨manager.writer ++ q.encoding, q.register f manager.handlers⟩ hsteps
    unfold CallsAtomic runCalls
    rw [hcall]
    constructor
    · show _ = manager.writer ++ ClientRequest.encodings (q :: okRequests _)
      rw [hwriter, List.append_assoc]
      rfl
    · intro record hrecord e he
      rcases List.mem_cons.1 hrecord with rfl | hrecord
      · simp at he
      · exact hhandlers record hrecord e he

theorem allFit_of_callsAtomic :
    ∀ (steps : List ManagerStep) (manager : SandstormRequestManager),
      (∀ record ∈ (runCalls manager steps).1, ∀ e, record.result = .error e →
        record.after.handlers = record.before.handlers) → AllFit steps
  | [], manager, _ => fun _ _ h => absurd h List.not_mem_nil
  | .others handlers :: steps, manager, h =>
    allFit_cons.2 ⟨nofun, allFit_of_callsAtomic steps { manager with handlers := handlers } h⟩
  | .call q f :: steps, manager, h => by
    refine allFit_cons.2 ⟨?_, allFit_of_callsAtomic steps (q.call f manager).2
      fun record hrecord => h record (List.mem_cons_of_mem _ hrecord)⟩
    rintro _ _ ⟨⟩
    by_contra hq
    obtain ⟨e, writer, hcall⟩ := ClientRequest.call_error hq f manager
    have hsame := h ⟨q, manager, (q.call f manager).1, (q.call f manager).2⟩
      List.mem_cons_self (.err e) (by rw [hcall])
    have hremaining := congrArg ResponseHandlers.remaining hsame
    rw [hcall] at hremaining
    rw [ClientRequest.register_remaining] at hremaining
    exact absurd hremaining (Nat.succ_ne_self _)

/-- The calls are atomic exactly if every username and password in them is at most 255 bytes
long. -/
theorem callsAtomic_iff : CallsAtomic manager steps ↔ AllFit steps :=
  ⟨fun h => allFit_of_callsAtomic steps manager h.2, callsAtomic_of_allFit steps manager⟩

/-- A call with a username of 256 bytes, and a meow. -/
def longUsernameSteps : List ManagerStep :=
  [.call (.addUser ⟨List.replicate 256 'a', [], .regular⟩) 0, .call .meow 1]

/-- The command byte of the first call stays in the writer, and its handler in the queue. -/
theorem not_callsAtomic_longUsername :
    ¬ CallsAtomic ⟨[], .new⟩ longUsernameSteps
      ∧ (runCalls ⟨[], .new⟩ longUsernameSteps).2.writer = [0x0A, 0xFF]
      ∧ (runCalls ⟨[], .new⟩ longUsernameSteps).2.handlers.remaining = 2
      ∧ (runCalls ⟨[], .new⟩ longUsernameSteps).2.handlers.queue .addUser = [0] := by
  have hwriter : (runCalls ⟨[], .new⟩ longUsernameSteps).2.writer = [0x0A, 0xFF] := by
    decide +kernel
  refine ⟨fun h => ?_, hwriter, by decide +kernel, by decide +kernel⟩
  have hbytes := h.1
  rw [hwriter] at hbytes
  revert hbytes
  decide +kernel

end Calls

end DustDevil
