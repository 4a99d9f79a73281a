import Mathlib.Logic.Function.Basic
import Mathlib.Tactic.SplitIfs

/-!
# Two stores that are written one after the other

Some processes write to cells, each of them first in one store and then in another, and between its
two writes any others may write. A cell that no process is between its writes to is settled, and the
stores are to agree on it. A process's first write never spoils that, and its second one keeps it
exactly if it is in turn: it leaves others to settle the cell, or writes what the first store has.
Second writes are in turn where, of the processes at one cell, the first to have come goes first.
-/

namespace Wire

/-- What the two stores have, and what each process has yet to write to the second. -/
structure Mirror {κ : Type} (β : κ → Type) (ι : Type) where
  first : ∀ k, β k
  second : ∀ k, β k
  pending : ι → Option (Σ k, β k)

namespace Mirror

variable {κ ι : Type} {β : κ → Type} (m : Mirror β ι)

def Settled (k : κ) : Prop := ∀ i v, m.pending i ≠ some ⟨k, v⟩

def Agree : Prop := ∀ k, m.Settled k → m.first k = m.second k

/-- No process but `i` is between its writes to `k`. -/
def Alone (i : ι) (k : κ) : Prop := ∀ j, j ≠ i → ∀ v, m.pending j ≠ some ⟨k, v⟩

def InTurn (i : ι) : Prop := ∀ k v, m.pending i = some ⟨k, v⟩ → m.Alone i k → m.first k = v

/-- Of the processes between their writes to a cell, one that no other of them came after has
written to it what the first store has. -/
def Follows (before : ι → ι → Prop) : Prop := ∀ i k v, m.pending i = some ⟨k, v⟩ →
  m.first k = v ∨ ∃ j v', m.pending j = some ⟨k, v'⟩ ∧ before i j

section Follows

variable {m} {before : ι → ι → Prop}

theorem Follows.inTurn {i : ι} (h : m.Follows before) (hi : ¬ before i i) : m.InTurn i := by
  intro k v hpending halone
  obtain hv | ⟨j, v', hj, hij⟩ := h i k v hpending
  · exact hv
  · rcases eq_or_ne j i with rfl | hji
    · exact absurd hij hi
    · exact absurd hj (halone j hji v')

theorem Follows.mono (h : m.Follows before) {before' : ι → ι → Prop}
    (hle : ∀ i j, m.pending i ≠ none → m.pending j ≠ none → before i j → before' i j) :
    m.Follows before' := by
  intro i k v hi
  obtain hv | ⟨j, v', hj, hij⟩ := h i k v hi
  · exact .inl hv
  · exact .inr ⟨j, v', hj, hle i j (by simp [hi]) (by simp [hj]) hij⟩

end Follows

variable [DecidableEq κ] [DecidableEq ι]

def begin (i : ι) (w : Σ k, β k) : Mirror β ι :=
  ⟨Function.update m.first w.1 w.2, m.second, Function.update m.pending i (some w)⟩

def finish (i : ι) (w : Σ k, β k) : Mirror β ι :=
  ⟨m.first, Function.update m.second w.1 w.2, Function.update m.pending i none⟩

variable {m} {i : ι}

theorem Agree.begin (h : m.Agree) (hi : m.pending i = none) (w : Σ k, β k) :
    (m.begin i w).Agree := by
  obtain ⟨k, v⟩ := w
  intro k' hk'
  have hne : k' ≠ k := by
    rintro rfl
    exact hk' i v (by simp [Mirror.begin])
  have hsettled : m.Settled k' := by
    intro j v' hj
    rcases eq_or_ne j i with rfl | hji
    · simp [hi] at hj
    · exact hk' j v' (by simpa [Mirror.begin, hji] using hj)
  simpa [Mirror.begin, hne] using h k' hsettled

theorem settled_finish {k : κ} {v : β k} {k' : κ} (hi : m.pending i = some ⟨k, v⟩) :
    (m.finish i ⟨k, v⟩).Settled k' ↔ if k' = k then m.Alone i k else m.Settled k' := by
  have hothers : (m.finish i ⟨k, v⟩).Settled k' ↔ m.Alone i k' := by
    refine forall_congr' fun j => ?_
    rcases eq_or_ne j i with rfl | hji
    · simp [finish]
    · simp [finish, hji]
  rw [hothers]
  split_ifs with hk
  · rw [hk]
  · refine ⟨fun h j v' hj => ?_, fun h j _ => h j⟩
    rcases eq_or_ne j i with rfl | hji
    · simp only [hi, Option.some.injEq, Sigma.mk.injEq] at hj
      exact hk hj.1.symm
    · exact h j hji v' hj

theorem Agree.finish_iff (h : m.Agree) {w : Σ k, β k} (hi : m.pending i = some w) :
    (m.finish i w).Agree ↔ m.InTurn i := by
  obtain ⟨k, v⟩ := w
  constructor
  · intro hagree k' v' hi' halone
    obtain ⟨rfl, hv⟩ := Sigma.mk.inj (Option.some.inj (hi.symm.trans hi'))
    obtain rfl := eq_of_heq hv
    simpa [finish] using hagree k ((settled_finish hi).2 (by simpa using halone))
  · intro hturn k' hk'
    rw [settled_finish hi] at hk'
    split_ifs at hk' with hk
    · subst hk
      simpa [finish] using hturn k' v hi hk'
    · simpa [finish, hk] using h k' hk'

/-! ## Second writes in the order of the first ones -/

section Order

variable {before : ι → ι → Prop}

theorem Follows.begin (h : m.Follows before) (hi : m.pending i = none)
    (hlast : ∀ j, m.pending j ≠ none → before j i) (w : Σ k, β k) :
    (m.begin i w).Follows before := by
  obtain ⟨k, v⟩ := w
  intro j k' v' hj
  rcases eq_or_ne j i with rfl | hji
  · obtain ⟨rfl, hv⟩ : k = k' ∧ v ≍ v' := by simpa [Mirror.begin] using hj
    obtain rfl := eq_of_heq hv
    exact .inl (by simp [Mirror.begin])
  · have hj' : m.pending j = some ⟨k', v'⟩ := by simpa [Mirror.begin, hji] using hj
    rcases eq_or_ne k' k with rfl | hk
    · exact .inr ⟨i, v, by simp [Mirror.begin], hlast j (by simp [hj'])⟩
    · obtain hv | ⟨j1, v1, hj1, hjj1⟩ := h j k' v' hj'
      · exact .inl (by simpa [Mirror.begin, hk] using hv)
      · have hne : j1 ≠ i := by
          rintro rfl
          simp [hi] at hj1
        exact .inr ⟨j1, v1, by simpa [Mirror.begin, hne] using hj1, hjj1⟩

theorem Follows.finish (h : m.Follows before) {w : Σ k, β k}
    (hfirst : ∀ j, j ≠ i → ∀ v, m.pending j = some ⟨w.1, v⟩ → ¬ before j i)
    (hi : m.pending i = some w) : (m.finish i w).Follows before := by
  obtain ⟨k, v⟩ := w
  intro j k' v' hj
  rcases eq_or_ne j i with rfl | hji
  · simp [Mirror.finish] at hj
  · have hj' : m.pending j = some ⟨k', v'⟩ := by simpa [Mirror.finish, hji] using hj
    obtain hv | ⟨j1, v1, hj1, hjj1⟩ := h j k' v' hj'
    · exact .inl hv
    · rcases eq_or_ne j1 i with rfl | hne
      · obtain ⟨rfl, -⟩ := Sigma.mk.inj (Option.some.inj (hi.symm.trans hj1))
        exact absurd hjj1 (hfirst j hji v' hj')
      · exact .inr ⟨j1, v1, by simpa [Mirror.finish, hne] using hj1, hjj1⟩

end Order

end Mirror

end Wire
