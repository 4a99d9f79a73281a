import DustDevil.Lib.Steps

/-!
# Steps that may change places

Two partial steps commute if they lead to the same state in either order, or in neither to any. A
step that reads and changes only a part of the state commutes with one on another part
(`Component.Apart.commutes`), and in a run two such steps next to each other may change places
(`runSteps_swap`).
-/

namespace Wire

section Commutes

variable {σ α β : Type}

def Commutes (f g : σ → Option σ) : Prop := ∀ s, (f s).bind g = (g s).bind f

theorem Commutes.symm {f g : σ → Option σ} (h : Commutes f g) : Commutes g f := fun s => (h s).symm

/-- A step that is never possible. -/
theorem commutes_of_none {f : σ → Option σ} (hf : ∀ s, f s = none) (g : σ → Option σ) :
    Commutes f g := by
  intro s
  rw [hf, Option.bind_none, funext hf]
  cases g s <;> rfl

theorem runSteps_swap {step : σ → α → Option σ} {a b : α}
    (h : Commutes (step · a) (step · b)) (before after : List α) (s : σ) :
    runSteps step s (before ++ a :: b :: after) = runSteps step s (before ++ b :: a :: after) := by
  rw [runSteps_append, runSteps_append]
  refine congrArg _ (funext fun s' => ?_)
  simp only [runSteps, ← Option.bind_assoc]
  exact congrArg (Option.bind · _) (h s')

/-- A part of a state, which can be read and replaced. -/
structure Component (σ α : Type) where
  get : σ → α
  set : σ → α → σ

namespace Component

/-- A step on a part. -/
def on (p : Component σ α) (f : α → Option α) (s : σ) : Option σ := (f (p.get s)).map (p.set s)

/-- Replacing one part leaves the other as it is. -/
structure Apart (p : Component σ α) (q : Component σ β) : Prop where
  get_set : ∀ s b, p.get (q.set s b) = p.get s
  get_set' : ∀ s a, q.get (p.set s a) = q.get s
  set_set : ∀ s a b, q.set (p.set s a) b = p.set (q.set s b) a

theorem Apart.commutes {p : Component σ α} {q : Component σ β} (h : p.Apart q) (f : α → Option α)
    (g : β → Option β) : Commutes (p.on f) (q.on g) := by
  intro s
  unfold on
  cases hf : f (p.get s) with
  | none => cases hg : g (q.get s) <;> simp [h.get_set, hf]
  | some a => cases hg : g (q.get s) <;> simp [h.get_set, h.get_set', h.set_set, hf, hg]

/-- Steps on the same part commute if they do on it. -/
theorem commutes_of_same {p : Component σ α} (hget : ∀ s a, p.get (p.set s a) = a)
    (hset : ∀ s a b, p.set (p.set s a) b = p.set s b) {f g : α → Option α} (h : Commutes f g) :
    Commutes (p.on f) (p.on g) := by
  intro s
  have hboth (f g : α → Option α) :
      (p.on f s).bind (p.on g) = ((f (p.get s)).bind g).map (p.set s) := by
    unfold on
    cases f (p.get s) with
    | none => rfl
    | some a => simp [hget, funext (hset s a)]
  rw [hboth, hboth, h]

end Component

end Commutes

end Wire
