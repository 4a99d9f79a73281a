import Mathlib.Data.List.Basic

/-!
# Sequences with the same order within each class

Two sequences have the same order by `f` when for each class of elements, those with one value of
`f`, they have the same elements of it in the same order. Neighbours of different classes may change
places. What is done of a sequence in such an order is, class by class, a prefix of it.
-/

namespace Wire

section SameOrder

variable {α γ : Type} [DecidableEq γ] {f : α → γ} {xs ys zs rest : List α}

def SameOrder (f : α → γ) (xs ys : List α) : Prop :=
  ∀ c, xs.filter (f · = c) = ys.filter (f · = c)

theorem SameOrder.refl (f : α → γ) (xs : List α) : SameOrder f xs xs := fun _ => rfl

theorem SameOrder.trans (hxy : SameOrder f xs ys) (hyz : SameOrder f ys zs) :
    SameOrder f xs zs := fun c => (hxy c).trans (hyz c)

theorem SameOrder.concat (h : SameOrder f xs ys) (a : α) :
    SameOrder f (xs ++ [a]) (ys ++ [a]) := by
  intro c
  simp only [List.filter_append, h c]

/-- An element may be passed by elements of other classes. -/
theorem SameOrder.pass {a : α} (h : ∀ y ∈ ys, f y ≠ f a) (xs zs : List α) :
    SameOrder f (xs ++ a :: (ys ++ zs)) (xs ++ (ys ++ a :: zs)) := by
  intro c
  simp only [List.filter_append, List.filter_cons]
  by_cases hc : f a = c
  · have hys : ys.filter (f · = c) = [] := by
      rw [List.filter_eq_nil_iff]
      intro y hy
      simpa [hc] using h y hy
    simp [hc, hys]
  · simp [hc]

theorem SameOrder.filter_isPrefix (h : SameOrder f (xs ++ rest) ys) (c : γ) :
    xs.filter (f · = c) <+: ys.filter (f · = c) := by
  rw [← h c, List.filter_append]
  exact List.prefix_append _ _

theorem SameOrder.perm (h : SameOrder f xs ys) : xs.Perm ys := by
  classical
  rw [List.perm_iff_count]
  intro a
  have hcount := congrArg (List.count a) (h (f a))
  rwa [List.count_filter (by simp), List.count_filter (by simp)] at hcount

end SameOrder

end Wire
