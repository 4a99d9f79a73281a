import Mathlib.Algebra.BigOperators.Group.Finset.Piecewise

/-!
# Sums over threads

Each thread is at a point of its own, and a sum over the points is a quantity that all of them share
in. A step of one thread changes it by what that thread's point changes.
-/

namespace Wire

section Threads

variable {ι π : Type} [Fintype ι] [DecidableEq ι]

theorem sum_update (f : π → ℤ) (point : ι → π) (i : ι) (p : π) :
    ∑ j, f (Function.update point i p j) = ∑ j, f (point j) + (f p - f (point i)) := by
  have hupdate : (fun j => f (Function.update point i p j))
      = Function.update (fun j => f (point j)) i (f p) := Function.comp_update f point i p
  rw [hupdate, Finset.sum_update_of_mem (Finset.mem_univ i),
    ← Finset.add_sum_erase _ _ (Finset.mem_univ i), Finset.sdiff_singleton_eq_erase]
  omega

end Threads

end Wire
