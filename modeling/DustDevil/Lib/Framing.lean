import DustDevil.Lib.Codec
import DustDevil.Lib.Conn

/-!
# Streams of framed messages

A message is a byte that says what it is and then its body. The loop that reads messages until the
stream ends acts on exactly the messages that were sent, in order (`serveStream_frames`), and on a
stream that is cut it acts on those that arrived whole and stops with an error if the cut is inside
one (`serveStream_cut`).
-/

namespace Wire

/-- A message on the wire: what it is, its body, and what is read from it. -/
structure Frame (τ μ : Type) where
  tagByte : UInt8
  tag : τ
  body : List UInt8
  message : μ

namespace Frame

variable {τ μ ε ε' : Type}

def bytes (f : Frame τ μ) : List UInt8 := f.tagByte :: f.body

/-- The bytes of a stream of frames. -/
def wire (frames : List (Frame τ μ)) : List UInt8 := frames.flatMap bytes

@[simp] theorem wire_nil : wire ([] : List (Frame τ μ)) = [] := rfl

@[simp] theorem wire_cons (f : Frame τ μ) (frames : List (Frame τ μ)) :
    wire (f :: frames) = f.bytes ++ wire frames := rfl

end Frame

section Framed

variable {ε ε' μ : Type} {tagByte : UInt8} {w : Proc Sink ε Unit} {p : Proc Flat ε' μ} {m : μ}

/-- `w` writes a tag's byte and a body, and what `p` reads from the body is `m`. -/
def Framed (tagByte : UInt8) (w : Proc Sink ε Unit) (p : Proc Flat ε' μ) (m : μ) : Prop :=
  ∃ body, Writes w (tagByte :: body) ∧ Reads p body m

theorem framed_of_carries (tagByte : UInt8) (h : Carries w p m) :
    Framed tagByte (writeU8 tagByte >>= fun _ => w) p m := by
  obtain ⟨body, hw, hreads⟩ := h
  exact ⟨body, (writeAll_writes [tagByte]).bind hw, hreads⟩

theorem framed_of_empty (tagByte : UInt8) (h : p = pure m) :
    Framed tagByte (writeU8 tagByte : Proc Sink ε Unit) p m :=
  ⟨[], writeAll_writes _, h ▸ Reads.pure m⟩

theorem Framed.encoded (h : Framed tagByte w p m) :
    w [] = (.ok (), (w []).2) ∧ tagByte :: (w []).2.tail = (w []).2
      ∧ Reads p (w []).2.tail m := by
  obtain ⟨body, hw, hreads⟩ := h
  rw [hw []]
  exact ⟨rfl, rfl, hreads⟩

end Framed

open Conn
open Wire.Frame (wire wire_nil wire_cons)

/-- How the messages of a stream are read and acted on. Between the reading of a tag and that of the
body there may be effects, which are the tag's `mark`. On a stream without a byte left, the reading
of the tag meets the end of the file. -/
structure Service (ρ σ η τ μ : Type) [AsyncRead ρ] where
  readTag : {ρ : Type} → [AsyncRead ρ] → Proc ρ IoError τ
  readBody : {ρ : Type} → [AsyncRead ρ] → τ → Proc ρ IoError μ
  mark : τ → List η
  act : μ → Proc (Conn ρ σ η) IoError Unit
  tag_refines : Refines (readTag : Proc ρ IoError τ) readTag
  body_refines : ∀ t, Refines (readBody t : Proc ρ IoError μ) (readBody t)
  act_readerFree : ∀ m, ReaderFree (act m)
  tag_end : ∃ e, readTag (⟨[], .eof⟩ : Flat) = (.error (.err e), ⟨[], .eof⟩)
    ∧ e.kind = .unexpectedEof

section Serve

variable {ρ σ η τ μ : Type} [AsyncRead ρ] (S : Service ρ σ η τ μ)

/-- The tag and the message are what is read from the frame's bytes. -/
structure Frame.Valid (f : Frame τ μ) : Prop where
  tag : Reads S.readTag [f.tagByte] f.tag
  body : Reads (S.readBody f.tag) f.body f.message

/-- Reads a tag and then the message that it announces, until no tag can be read. -/
def serveStream : ℕ → Proc (Conn ρ σ η) IoError Unit
  | 0 => .stop .running
  | fuel + 1 => do
    let tag ← (Conn.read S.readTag).attempt
    match tag with
    | .ok tag => do
      Conn.perform (S.mark tag)
      let message ← Conn.read (S.readBody tag)
      S.act message
      serveStream fuel
    | .error e => if e.kind = .unexpectedEof then pure () else .throw e

/-- What is done for the messages of these frames. -/
def serveFrames : List (Frame τ μ) → Proc (Conn ρ σ η) IoError Unit
  | [] => pure ()
  | f :: frames => do
    Conn.perform (S.mark f.tag)
    S.act f.message
    serveFrames frames

theorem serveFrames_readerFree : ∀ frames : List (Frame τ μ), ReaderFree (serveFrames S frames)
  | [] => .pure ()
  | f :: frames => (ReaderFree.perform _).bind fun _ => (S.act_readerFree f.message).bind fun _ =>
    serveFrames_readerFree frames

variable {S} {f : Frame τ μ} {conn : Conn ρ σ η} {fuel k : ℕ}

theorem attempt_readTag (hf : f.Valid S) {rest : List UInt8}
    (hr : unread conn.reader = f.tagByte :: rest) :
    ∃ r, unread r = rest ∧ ending r = ending conn.reader
      ∧ ((Conn.read S.readTag).attempt : Proc (Conn ρ σ η) IoError _) conn
        = (.ok (.ok f.tag), { conn with reader := r }) := by
  obtain ⟨r, h, hr', hend⟩ := hf.tag.run S.tag_refines hr
  exact ⟨r, hr', hend, Proc.attempt_ok (by rw [read_apply, h])⟩

/-- On a stream of exactly `bytes` the loop does, in at most `rounds` rounds before the last, what
`p` does, and if it comes to the end it has taken every byte. -/
def ActsLike (S : Service ρ σ η τ μ) (bytes : List UInt8) (rounds : ℕ)
    (p : Proc (Conn ρ σ η) IoError Unit) : Prop :=
  ∀ (conn : Conn ρ σ η) (fuel : ℕ), unread conn.reader = bytes → ending conn.reader = .eof →
    rounds < fuel → outcome (serveStream S fuel conn) = outcome (p conn)
      ∧ ((serveStream S fuel conn).1 = .ok () → unread (serveStream S fuel conn).2.reader = [])

/-- The last round: the stream has ended and no tag is left. -/
theorem actsLike_nil (rounds : ℕ) : ActsLike S [] rounds (pure ()) := by
  intro conn fuel hr heof hfuel
  obtain ⟨fuel, rfl⟩ : ∃ n, fuel = n + 1 := ⟨fuel - 1, by omega⟩
  obtain ⟨e, htag, hkind⟩ := S.tag_end
  obtain ⟨r, h, hr', -⟩ := S.tag_refines.run_eq (r := conn.reader) (by rw [flat, hr, heof, htag])
  have htag' : ((Conn.read S.readTag).attempt : Proc (Conn ρ σ η) IoError _) conn
      = (.ok (.error e), { conn with reader := r }) :=
    Proc.attempt_err (by rw [read_apply, h])
  rw [serveStream, Proc.bind_ok htag']
  dsimp only
  rw [if_pos hkind]
  exact ⟨rfl, fun _ => hr'⟩

/-- One round, on a stream that begins with a frame. -/
theorem ActsLike.cons {bytes : List UInt8} {rounds : ℕ} {p : Proc (Conn ρ σ η) IoError Unit}
    (hp : ActsLike S bytes rounds p) (hfree : ReaderFree p) (hf : f.Valid S) :
    ActsLike S (f.bytes ++ bytes) (rounds + 1) (do
      Conn.perform (S.mark f.tag)
      S.act f.message
      p) := by
  intro conn fuel hr heof hfuel
  obtain ⟨fuel, rfl⟩ : ∃ n, fuel = n + 1 := ⟨fuel - 1, by omega⟩
  obtain ⟨r1, hr1, hend1, htag⟩ := attempt_readTag hf hr
  obtain ⟨r2, hbody, hr2, hend2⟩ := hf.body.run (S.body_refines f.tag) hr1
  have hact := S.act_readerFree f.message
  have hrest (conn' : Conn ρ σ η) (hconn : conn'.reader = r2) :=
    hp conn' fuel (by rw [hconn, hr2]) (by rw [hconn, hend2, hend1, heof])
      (Nat.lt_of_succ_lt_succ hfuel)
  have heq : serveStream S (fuel + 1) conn = (S.act f.message >>= fun _ => serveStream S fuel)
      ⟨r2, conn.state, conn.effects ++ S.mark f.tag⟩ := by
    rw [serveStream, Proc.bind_ok htag]
    dsimp only
    rw [Proc.bind_ok (perform_apply _ _),
      Proc.bind_ok (show Conn.read (S.readBody f.tag) _ = (.ok f.message, _) by
        rw [read_apply, hbody])]
  rw [heq]
  constructor
  · exact hact.outcome_bind (fun _ => hfree) conn.reader fun _ conn' hconn =>
      (hrest conn' hconn).1
  · intro hok
    obtain ⟨_, conn', hstep, hloop⟩ := Proc.bind_eq_ok (Prod.ext hok rfl)
    have hconn := hact.reader_eq ⟨r2, conn.state, conn.effects ++ S.mark f.tag⟩
    rw [hstep] at hconn
    rw [Proc.bind_ok hstep]
    exact (hrest conn' hconn).2 (congrArg Prod.fst hloop)

/-- The last round, on a stream that ends inside a frame. -/
theorem actsLike_torn (hf : f.Valid S) (hk : k < f.body.length) (rounds : ℕ) :
    ∃ e, ActsLike S (f.tagByte :: f.body.take k) rounds (do
      Conn.perform (S.mark f.tag)
      .throw e) := by
  obtain ⟨e, hcut⟩ := hf.body.run_cut (S.body_refines f.tag) hk
  refine ⟨e, fun conn fuel hr heof hfuel => ?_⟩
  obtain ⟨fuel, rfl⟩ : ∃ n, fuel = n + 1 := ⟨fuel - 1, by omega⟩
  obtain ⟨r1, hr1, hend1, htag⟩ := attempt_readTag hf hr
  obtain ⟨r2, hbody⟩ := hcut r1 hr1 (hend1.trans heof)
  have heq : serveStream S (fuel + 1) conn
      = (.error (.err e), ⟨r2, conn.state, conn.effects ++ S.mark f.tag⟩) := by
    rw [serveStream, Proc.bind_ok htag]
    dsimp only
    rw [Proc.bind_ok (perform_apply _ _), Proc.bind_error
      (show Conn.read (S.readBody f.tag) _ = (.error (.err e), _) by rw [read_apply, hbody])]
  rw [heq]
  exact ⟨rfl, fun hok => by simp at hok⟩

/-- On the frames' bytes the loop acts on every message, in order. -/
theorem serveStream_frames :
    ∀ frames : List (Frame τ μ), (∀ f ∈ frames, f.Valid S) →
      ActsLike S (wire frames) frames.length (serveFrames S frames)
  | [], _ => actsLike_nil _
  | f :: frames, hvalid => by
    obtain ⟨hf, hframes⟩ := List.forall_mem_cons.1 hvalid
    exact (serveStream_frames frames hframes).cons (serveFrames_readerFree S frames) hf

/-- What is done on a stream that ends inside `f`, after `frames`. -/
def serveTorn (S : Service ρ σ η τ μ) (f : Frame τ μ) (e : IoError) :
    List (Frame τ μ) → Proc (Conn ρ σ η) IoError Unit
  | [] => do
    Conn.perform (S.mark f.tag)
    .throw e
  | g :: frames => do
    Conn.perform (S.mark g.tag)
    S.act g.message
    serveTorn S f e frames

theorem serveTorn_readerFree (e : IoError) :
    ∀ frames : List (Frame τ μ), ReaderFree (serveTorn S f e frames)
  | [] => (ReaderFree.perform _).bind fun _ => .throw e
  | g :: frames => (ReaderFree.perform _).bind fun _ => (S.act_readerFree g.message).bind fun _ =>
    serveTorn_readerFree e frames

/-- A stream that is cut: the loop acts on the frames that arrived whole. If the cut is between two
frames that is all, and if it is inside one the loop stops with an error there. -/
theorem serveStream_cut :
    ∀ (frames : List (Frame τ μ)) (k : ℕ), (∀ f ∈ frames, f.Valid S) →
      ∃ n ≤ frames.length,
        ((wire frames).take k = wire (frames.take n)
          ∧ ActsLike S ((wire frames).take k) frames.length (serveFrames S (frames.take n)))
        ∨ ∃ f e, frames[n]? = some f
          ∧ (wire (frames.take n)).length < k ∧ k < (wire (frames.take (n + 1))).length
          ∧ ActsLike S ((wire frames).take k) frames.length (serveTorn S f e (frames.take n))
  | [], k, _ => by
    refine ⟨0, le_rfl, .inl ?_⟩
    rw [wire_nil, List.take_nil]
    exact ⟨rfl, actsLike_nil _⟩
  | f :: frames, 0, _ => ⟨0, Nat.zero_le _, .inl ⟨rfl, actsLike_nil _⟩⟩
  | f :: frames, k + 1, hvalid => by
    obtain ⟨hf, hframes⟩ := List.forall_mem_cons.1 hvalid
    have hlen : f.bytes.length = f.body.length + 1 := rfl
    rcases Nat.lt_or_ge k f.body.length with hk | hk
    · -- the stream ends inside this frame
      obtain ⟨e, he⟩ := actsLike_torn hf hk (frames.length + 1)
      refine ⟨0, Nat.zero_le _, .inr ⟨f, e, rfl, by simp, ?_, ?_⟩⟩
      · simpa [hlen] using hk
      · rwa [wire_cons, Frame.bytes, List.cons_append, List.take_succ_cons,
          List.take_append_of_le_length hk.le]
    · -- the frame is whole, and the cut is in what follows it
      have htake : (wire (f :: frames)).take (k + 1)
          = f.bytes ++ (wire frames).take (k + 1 - f.bytes.length) := by
        rw [wire_cons, List.take_append, List.take_of_length_le (by omega)]
      obtain ⟨n, hn, ⟨hwire, hacts⟩ | ⟨g, e, hg, hlo, hhi, hacts⟩⟩ :=
        serveStream_cut frames (k + 1 - f.bytes.length) hframes
      · refine ⟨n + 1, Nat.succ_le_succ hn, .inl ⟨?_, ?_⟩⟩
        · rw [htake, hwire, List.take_succ_cons, wire_cons]
        · rw [htake]
          exact hacts.cons (serveFrames_readerFree S _) hf
      · refine ⟨n + 1, Nat.succ_le_succ hn, .inr ⟨g, e, hg, ?_, ?_, ?_⟩⟩
        · rw [List.take_succ_cons, wire_cons, List.length_append]
          omega
        · rw [List.take_succ_cons, wire_cons, List.length_append]
          omega
        · rw [htake]
          exact hacts.cons (serveTorn_readerFree e _) hf

end Serve

end Wire
