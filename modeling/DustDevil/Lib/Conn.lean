import DustDevil.Lib.Proc

/-!
# Connections

A connection reads from its reader, works on a state and does things outside of itself, which are
its effects, in order. An invariant that ignores the reader is kept by every read, and one that
`Extends` with some kind of effect by every effect of that kind.
-/

namespace Wire

structure Conn (ρ σ η : Type) where
  reader : ρ
  state : σ
  effects : List η

namespace Conn

variable {ρ σ η ε α : Type}

def read (p : Proc ρ ε α) : Proc (Conn ρ σ η) ε α :=
  p.zoom Conn.reader fun conn reader => { conn with reader := reader }

def perform (effects : List η) : Proc (Conn ρ σ η) ε Unit :=
  .modify fun conn => { conn with effects := conn.effects ++ effects }

@[simp] theorem read_apply (p : Proc ρ ε α) (conn : Conn ρ σ η) :
    read p conn = ((p conn.reader).1, ⟨(p conn.reader).2, conn.state, conn.effects⟩) := rfl

@[simp] theorem perform_apply (effects : List η) (conn : Conn ρ σ η) :
    (perform effects : Proc (Conn ρ σ η) ε Unit) conn
      = (.ok (), ⟨conn.reader, conn.state, conn.effects ++ effects⟩) := rfl

theorem perform_nil : (perform [] : Proc (Conn ρ σ η) ε Unit) = pure () := by
  funext conn
  rw [perform_apply, List.append_nil]
  rfl

/-- What follows a reading may be done with what the reading gives. -/
theorem read_map_bind {β γ : Type} (p : Proc ρ ε α) (f : α → β)
    (g : β → Proc (Conn ρ σ η) ε γ) :
    (read (p >>= fun a => pure (f a)) >>= g) = (read p >>= fun a => g (f a)) := by
  funext conn
  rcases h : p conn.reader with ⟨e | a, r⟩
  · rw [Proc.bind_error (by rw [read_apply, Proc.bind_error h]),
      Proc.bind_error (by rw [read_apply, h])]
  · rw [Proc.bind_ok (a := f a) (by rw [read_apply, Proc.bind_ok h]; rfl),
      Proc.bind_ok (by rw [read_apply, h])]
    rfl

theorem read_eq_ok {p : Proc ρ ε α} {conn conn' : Conn ρ σ η} {a : α}
    (h : read p conn = (.ok a, conn')) :
    p conn.reader = (.ok a, conn'.reader) ∧ conn'.state = conn.state
      ∧ conn'.effects = conn.effects := by
  simp only [read_apply, Prod.mk.injEq] at h
  obtain ⟨h1, rfl⟩ := h
  exact ⟨Prod.ext h1 rfl, rfl, rfl⟩

section Keeps

variable {I : Conn ρ σ η → Prop} {P : η → Prop}

/-- `I` does not look at the reader. -/
def IgnoresReader (I : Conn ρ σ η → Prop) : Prop :=
  ∀ conn reader, I conn → I { conn with reader := reader }

theorem IgnoresReader.read (h : IgnoresReader I) (p : Proc ρ ε α) : Proc.Keeps I (read p) :=
  .zoom (fun conn reader => h conn reader) p

/-- Every effect that satisfies `P` may follow. -/
def Extends (P : η → Prop) (I : Conn ρ σ η → Prop) : Prop :=
  ∀ conn effects, (∀ e ∈ effects, P e) → I conn →
    I { conn with effects := conn.effects ++ effects }

theorem Extends.perform (h : Extends P I) {effects : List η} (he : ∀ e ∈ effects, P e) :
    Proc.Keeps I (perform effects : Proc (Conn ρ σ η) ε Unit) :=
  .modify fun conn => h conn effects he

theorem Extends.performAny (h : Extends (fun _ => True) I) (effects : List η) :
    Proc.Keeps I (Conn.perform effects : Proc (Conn ρ σ η) ε Unit) :=
  h.perform fun _ _ => trivial

theorem Extends.of_any (h : Extends (fun _ => True) I) : Extends P I :=
  fun conn effects _ => h conn effects fun _ _ => trivial

end Keeps

/-! ## Computations without the reader -/

section ReaderFree

variable {ε' β : Type}

/-- How a computation ends and what it leaves, the reader apart. -/
def outcome (x : Except (Stop ε) α × Conn ρ σ η) : Except (Stop ε) α × σ × List η :=
  (x.1, x.2.state, x.2.effects)

/-- `p` neither looks at the reader nor moves it. -/
def ReaderFree (p : Proc (Conn ρ σ η) ε α) : Prop :=
  ∀ conn reader, p { conn with reader := reader }
    = ((p conn).1, { (p conn).2 with reader := reader })

theorem ReaderFree.apply {p : Proc (Conn ρ σ η) ε α} (h : ReaderFree p)
    {x : Except (Stop ε) α} {conn conn' : Conn ρ σ η} (hp : p conn = (x, conn')) (reader : ρ) :
    p { conn with reader := reader } = (x, { conn' with reader := reader }) := by
  rw [h, hp]

theorem ReaderFree.outcome {p : Proc (Conn ρ σ η) ε α} (h : ReaderFree p) (conn : Conn ρ σ η)
    (reader : ρ) : outcome (p { conn with reader := reader }) = outcome (p conn) := by
  rw [h]
  rfl

theorem ReaderFree.pure (a : α) : ReaderFree (pure a : Proc (Conn ρ σ η) ε α) := fun _ _ => rfl

theorem ReaderFree.throw (e : ε) : ReaderFree (.throw e : Proc (Conn ρ σ η) ε α) :=
  fun _ _ => rfl

theorem ReaderFree.perform (effects : List η) :
    ReaderFree (perform effects : Proc (Conn ρ σ η) ε Unit) := fun _ _ => rfl

/-- What is done with a connection that has been looked at, its reader apart. -/
theorem ReaderFree.get_bind {f : Conn ρ σ η → Proc (Conn ρ σ η) ε α}
    (hf : ∀ conn reader, f { conn with reader := reader } = f conn)
    (h : ∀ conn, ReaderFree (f conn)) : ReaderFree (.get >>= f) := fun conn reader => by
  rw [Proc.bind_ok (Proc.get_apply _), Proc.bind_ok (Proc.get_apply _), hf, h]

theorem ReaderFree.bind {p : Proc (Conn ρ σ η) ε α} {f : α → Proc (Conn ρ σ η) ε β}
    (hp : ReaderFree p) (hf : ∀ a, ReaderFree (f a)) : ReaderFree (p >>= f) := by
  intro conn reader
  rcases Proc.bind_cases p f conn with ⟨a, conn', h, heq⟩ | ⟨e, conn', h, heq⟩
  · rw [heq, Proc.bind_ok (hp.apply h reader), hf]
  · rw [heq, Proc.bind_error (hp.apply h reader)]

theorem ReaderFree.reader_eq {p : Proc (Conn ρ σ η) ε α} (h : ReaderFree p) (conn : Conn ρ σ η) :
    (p conn).2.reader = conn.reader :=
  congrArg (fun x => x.2.reader) (h conn conn.reader)

/-- After the same beginning, from different readers, the same happens. -/
theorem ReaderFree.outcome_bind {p : Proc (Conn ρ σ η) ε α} {f g : α → Proc (Conn ρ σ η) ε β}
    (hp : ReaderFree p) (hg : ∀ a, ReaderFree (g a)) {conn : Conn ρ σ η} (reader : ρ)
    (h : ∀ a conn', conn'.reader = conn.reader →
      Conn.outcome (f a conn') = Conn.outcome (g a conn')) :
    Conn.outcome ((p >>= f) conn) = Conn.outcome ((p >>= g) { conn with reader := reader }) := by
  have hreader := hp.reader_eq conn
  rcases hpc : p conn with ⟨e | a, conn'⟩ <;> rw [hpc] at hreader
  · rw [Proc.bind_error hpc, Proc.bind_error (hp.apply hpc reader)]
    rfl
  · rw [Proc.bind_ok hpc, Proc.bind_ok (hp.apply hpc reader), h a conn' hreader,
      (hg a).outcome conn' reader]

/-- After beginnings that do the same, the same happens. -/
theorem outcome_bind_congr {p q : Proc (Conn ρ σ η) ε α} {f : α → Proc (Conn ρ σ η) ε β}
    {conn : Conn ρ σ η} (h : Conn.outcome (p conn) = Conn.outcome (q conn))
    (hf : ∀ a, ReaderFree (f a)) :
    Conn.outcome ((p >>= f) conn) = Conn.outcome ((q >>= f) conn) := by
  rcases hp : p conn with ⟨x, reader, state, effects⟩
  rcases hq : q conn with ⟨y, reader', state', effects'⟩
  rw [hp, hq] at h
  simp only [Conn.outcome, Prod.mk.injEq] at h
  obtain ⟨rfl, rfl, rfl⟩ := h
  rcases x with e | a
  · rw [Proc.bind_error hp, Proc.bind_error hq]
    rfl
  · rw [Proc.bind_ok hp, Proc.bind_ok hq]
    exact (hf a).outcome ⟨reader', state, effects⟩ reader

end ReaderFree

end Conn

end Wire
