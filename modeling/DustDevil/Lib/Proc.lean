/-!
# Computations on a connection

A `Proc σ ε α` runs on a state `σ`, which keeps its changes whether or not the computation gets
to its result: bytes read and bytes written before an error stay read and written. It stops with
an error, in a panic, waiting for something that has not happened, or still in a loop when its
fuel is used up.
-/

namespace Wire

/-- How a computation stops short of its result. -/
inductive Stop (ε : Type) where
  | err (e : ε)
  | panic
  | blocked
  | running
  deriving DecidableEq, Repr

namespace Stop

variable {ε ε' : Type}

def map (f : ε → ε') : Stop ε → Stop ε'
  | .err e => .err (f e)
  | .panic => .panic
  | .blocked => .blocked
  | .running => .running

@[simp] theorem map_id (e : Stop ε) : e.map id = e := by
  cases e <;> rfl

end Stop

def Proc (σ ε α : Type) : Type := σ → Except (Stop ε) α × σ

namespace Proc

variable {σ τ ε ε' α β : Type}

instance : Monad (Proc σ ε) where
  pure a := fun s => (.ok a, s)
  bind p f := fun s => match p s with
    | (.ok a, s') => f a s'
    | (.error e, s') => (.error e, s')

/-- `Err(e)?`. -/
def throw (e : ε) : Proc σ ε α := fun s => (.error (.err e), s)

def stop (e : Stop ε) : Proc σ ε α := fun s => (.error e, s)

def modify (f : σ → σ) : Proc σ ε Unit := fun s => (.ok (), f s)

def get : Proc σ ε σ := fun s => (.ok s, s)

def ofExcept : Except ε α → Proc σ ε α
  | .ok a => pure a
  | .error e => throw e

/-- `p?` inside a function with another error type. -/
def mapErr (f : ε → ε') (p : Proc σ ε α) : Proc σ ε' α := fun s =>
  match p s with
  | (.ok a, s') => (.ok a, s')
  | (.error e, s') => (.error (e.map f), s')

/-- `match p.await { .. }`: an error of `p` is a value here, every other stop still stops. -/
def attempt (p : Proc σ ε α) : Proc σ ε' (Except ε α) := fun s =>
  match p s with
  | (.ok a, s') => (.ok (.ok a), s')
  | (.error (.err e), s') => (.ok (.error e), s')
  | (.error .panic, s') => (.error .panic, s')
  | (.error .blocked, s') => (.error .blocked, s')
  | (.error .running, s') => (.error .running, s')

/-- `p` on the part of the state that `get` reads and `set` replaces. -/
def zoom (get : τ → σ) (set : τ → σ → τ) (p : Proc σ ε α) : Proc τ ε α := fun t =>
  let (r, s) := p (get t)
  (r, set t s)

def onFst (p : Proc σ ε α) : Proc (σ × τ) ε α := p.zoom Prod.fst fun t s => (s, t.2)

def onSnd (p : Proc σ ε α) : Proc (τ × σ) ε α := p.zoom Prod.snd fun t s => (t.1, s)

@[simp] theorem pure_apply (a : α) (s : σ) : (pure a : Proc σ ε α) s = (.ok a, s) := rfl

@[simp] theorem throw_apply (e : ε) (s : σ) :
    (throw e : Proc σ ε α) s = (.error (.err e), s) := rfl

@[simp] theorem stop_apply (e : Stop ε) (s : σ) :
    (stop e : Proc σ ε α) s = (.error e, s) := rfl

@[simp] theorem modify_apply (f : σ → σ) (s : σ) :
    (modify f : Proc σ ε Unit) s = (.ok (), f s) := rfl

@[simp] theorem get_apply (s : σ) : (get : Proc σ ε σ) s = (.ok s, s) := rfl

@[simp] theorem ofExcept_ok (a : α) (s : σ) :
    (ofExcept (.ok a) : Proc σ ε α) s = (.ok a, s) := rfl

@[simp] theorem ofExcept_error (e : ε) (s : σ) :
    (ofExcept (.error e) : Proc σ ε α) s = (.error (.err e), s) := rfl

theorem bind_apply (p : Proc σ ε α) (f : α → Proc σ ε β) (s : σ) :
    (p >>= f) s = match p s with
      | (.ok a, s') => f a s'
      | (.error e, s') => (.error e, s') := rfl

theorem pure_bind (a : α) (f : α → Proc σ ε β) : (pure a >>= f) = f a := rfl

theorem bind_assoc {γ : Type} (p : Proc σ ε α) (f : α → Proc σ ε β) (g : β → Proc σ ε γ) :
    ((p >>= f) >>= g) = (p >>= fun a => f a >>= g) := by
  funext s
  rcases h : p s with ⟨e | a, s'⟩ <;> simp only [bind_apply, h]

theorem bind_ok {p : Proc σ ε α} {s s' : σ} {a : α} (h : p s = (.ok a, s'))
    (f : α → Proc σ ε β) : (p >>= f) s = f a s' := by
  rw [bind_apply, h]

theorem bind_error {p : Proc σ ε α} {s s' : σ} {e : Stop ε} (h : p s = (.error e, s'))
    (f : α → Proc σ ε β) : (p >>= f) s = (.error e, s') := by
  rw [bind_apply, h]

theorem bind_eq_ok {p : Proc σ ε α} {f : α → Proc σ ε β} {s s'' : σ} {b : β}
    (h : (p >>= f) s = (.ok b, s'')) :
    ∃ a s', p s = (.ok a, s') ∧ f a s' = (.ok b, s'') := by
  rw [bind_apply] at h
  split at h
  · exact ⟨_, _, by assumption, h⟩
  · simp at h

theorem bind_cases (p : Proc σ ε α) (f : α → Proc σ ε β) (s : σ) :
    (∃ a s', p s = (.ok a, s') ∧ (p >>= f) s = f a s')
      ∨ ∃ e s', p s = (.error e, s') ∧ (p >>= f) s = (.error e, s') := by
  rcases h : p s with ⟨a | e, s'⟩
  · exact .inr ⟨_, _, rfl, bind_error h f⟩
  · exact .inl ⟨_, _, rfl, bind_ok h f⟩

theorem mapErr_ok {p : Proc σ ε α} {s s' : σ} {a : α} (h : p s = (.ok a, s')) (f : ε → ε') :
    mapErr f p s = (.ok a, s') := by
  simp only [mapErr, h]

theorem mapErr_error {p : Proc σ ε α} {s s' : σ} {e : Stop ε} (h : p s = (.error e, s'))
    (f : ε → ε') : mapErr f p s = (.error (e.map f), s') := by
  simp only [mapErr, h]

theorem mapErr_eq_ok {p : Proc σ ε α} {f : ε → ε'} {s s' : σ} {a : α}
    (h : mapErr f p s = (.ok a, s')) : p s = (.ok a, s') := by
  unfold mapErr at h
  split at h <;> simp_all

theorem mapErr_id (p : Proc σ ε α) : mapErr id p = p := by
  funext s
  rcases h : p s with ⟨e | a, s'⟩
  · rw [mapErr_error h, Stop.map_id]
  · rw [mapErr_ok h]

theorem attempt_ok {p : Proc σ ε α} {s s' : σ} {a : α} (h : p s = (.ok a, s')) :
    (attempt p : Proc σ ε' _) s = (.ok (.ok a), s') := by
  simp only [attempt, h]

theorem attempt_err {p : Proc σ ε α} {s s' : σ} {e : ε} (h : p s = (.error (.err e), s')) :
    (attempt p : Proc σ ε' _) s = (.ok (.error e), s') := by
  simp only [attempt, h]

theorem attempt_eq_ok {p : Proc σ ε α} {s s' : σ} {a : α}
    (h : (attempt p : Proc σ ε' _) s = (.ok (.ok a), s')) : p s = (.ok a, s') := by
  unfold attempt at h
  split at h <;> simp_all

theorem zoom_apply (get : τ → σ) (set : τ → σ → τ) (p : Proc σ ε α) (t : τ) :
    zoom get set p t = ((p (get t)).1, set t (p (get t)).2) := rfl

@[simp] theorem onFst_apply (p : Proc σ ε α) (s : σ) (t : τ) :
    p.onFst (s, t) = ((p s).1, ((p s).2, t)) := rfl

@[simp] theorem onSnd_apply (p : Proc σ ε α) (t : τ) (s : σ) :
    p.onSnd (t, s) = ((p s).1, (t, (p s).2)) := rfl

/-! ## Invariants of the state -/

section Keeps

variable {I : σ → Prop}

/-- However `p` ends, it leaves a state that satisfies `I` if it found one. -/
def Keeps (I : σ → Prop) (p : Proc σ ε α) : Prop := ∀ s, I s → I (p s).2

theorem Keeps.pure (a : α) : Keeps I (pure a : Proc σ ε α) := fun _ h => h

theorem Keeps.throw (e : ε) : Keeps I (throw e : Proc σ ε α) := fun _ h => h

theorem Keeps.stop (e : Stop ε) : Keeps I (stop e : Proc σ ε α) := fun _ h => h

theorem Keeps.modify {f : σ → σ} (hf : ∀ s, I s → I (f s)) :
    Keeps I (modify f : Proc σ ε Unit) := hf

theorem Keeps.ofExcept (a : Except ε α) : Keeps I (ofExcept a) := by
  cases a with
  | error e => exact Keeps.throw e
  | ok a => exact Keeps.pure a

theorem Keeps.bind_of {p : Proc σ ε α} {f : α → Proc σ ε β} (hp : Keeps I p)
    (hf : ∀ a s s', p s = (.ok a, s') → Keeps I (f a)) : Keeps I (p >>= f) := by
  intro s hs
  have hs' := hp s hs
  rcases bind_cases p f s with ⟨a, s', h, heq⟩ | ⟨e, s', h, heq⟩ <;> rw [heq] <;> rw [h] at hs'
  · exact hf a s s' h s' hs'
  · exact hs'

theorem Keeps.bind {p : Proc σ ε α} {f : α → Proc σ ε β} (hp : Keeps I p)
    (hf : ∀ a, Keeps I (f a)) : Keeps I (p >>= f) :=
  hp.bind_of fun a _ _ _ => hf a

theorem Keeps.mapErr {p : Proc σ ε α} (hp : Keeps I p) (f : ε → ε') : Keeps I (mapErr f p) := by
  intro s hs
  have hs' := hp s hs
  rcases h : p s with ⟨e | a, s'⟩ <;> rw [h] at hs'
  · rwa [mapErr_error h]
  · rwa [mapErr_ok h]

theorem Keeps.attempt {p : Proc σ ε α} (hp : Keeps I p) :
    Keeps I (attempt p : Proc σ ε' (Except ε α)) := by
  intro s hs
  have hs' := hp s hs
  unfold Proc.attempt
  rcases h : p s with ⟨e | a, s'⟩ <;> rw [h] at hs'
  · cases e <;> exact hs'
  · exact hs'

theorem Keeps.zoom {get : τ → σ} {set : τ → σ → τ} {I : τ → Prop}
    (h : ∀ t s, I t → I (set t s)) (p : Proc σ ε α) : Keeps I (zoom get set p) :=
  fun t ht => h t _ ht

theorem Keeps.ite {c : Prop} [Decidable c] {p q : Proc σ ε α} (hp : Keeps I p) (hq : Keeps I q) :
    Keeps I (if c then p else q) := by
  by_cases hc : c
  · rwa [if_pos hc]
  · rwa [if_neg hc]

end Keeps

/-! ## Computations that return -/

section Settles

/-- In every state `p` ends with a result or an error. -/
def Settles (p : Proc σ ε α) : Prop :=
  ∀ s, (∃ a, (p s).1 = .ok a) ∨ ∃ e, (p s).1 = .error (.err e)

theorem Settles.pure (a : α) : Settles (pure a : Proc σ ε α) := fun _ => .inl ⟨a, rfl⟩

theorem Settles.throw (e : ε) : Settles (throw e : Proc σ ε α) := fun _ => .inr ⟨e, rfl⟩

theorem Settles.bind {p : Proc σ ε α} {f : α → Proc σ ε β} (hp : Settles p)
    (hf : ∀ a, Settles (f a)) : Settles (p >>= f) := by
  intro s
  rcases bind_cases p f s with ⟨a, s', -, heq⟩ | ⟨e, s', h, heq⟩ <;> rw [heq]
  · exact hf a s'
  · have hs := hp s
    rw [h] at hs
    simpa using hs

theorem Settles.mapErr {p : Proc σ ε α} (hp : Settles p) (f : ε → ε') : Settles (mapErr f p) := by
  intro s
  have hs := hp s
  rcases h : p s with ⟨e | a, s'⟩ <;> rw [h] at hs
  · rw [mapErr_error h]
    rcases hs with ⟨_, hs⟩ | ⟨e', hs⟩
    · nomatch hs
    · rw [Except.error.inj hs]
      exact .inr ⟨f e', rfl⟩
  · rw [mapErr_ok h]
    exact .inl ⟨a, rfl⟩

theorem Settles.forM {l : List β} {f : β → Proc σ ε PUnit} (hf : ∀ b, Settles (f b)) :
    Settles (l.forM f) := by
  induction l with
  | nil => exact .pure _
  | cons b l ih => exact (hf b).bind fun _ => ih

end Settles

end Proc

/-! ## What has no state -/

theorem bind_eq_ok {ε α β : Type} {x : Except ε α} {f : α → Except ε β} {b : β}
    (h : (x >>= f) = .ok b) : ∃ a, x = .ok a ∧ f a = .ok b := by
  cases x with
  | error e => cases h
  | ok a => exact ⟨a, rfl, h⟩

theorem bind_eq_error {ε α β : Type} {x : Except ε α} {f : α → Except ε β} {e : ε}
    (h : (x >>= f) = .error e) : x = .error e ∨ ∃ a, x = .ok a ∧ f a = .error e := by
  cases x with
  | error e' =>
    cases h
    exact .inl rfl
  | ok a => exact .inr ⟨a, rfl, h⟩

end Wire
