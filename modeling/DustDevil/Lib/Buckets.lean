import Mathlib.Algebra.BigOperators.Group.List.Basic
import Mathlib.Tactic.SplitIfs

/-!
# Sums of entries by their keys

Entries, of which each has a key, are summed up by those: `buckets key entries n` has the sums for
the keys below `n`. One more entry changes the sum of its key only (`buckets_snoc`), and keys that
no entry has are sums of nothing (`buckets_extend`).
-/

namespace Wire

section Buckets

variable {τ M : Type} [AddCommMonoid M]

/-- The sum of the entries of a key. -/
def bucketSum (key : τ → ℤ) (entries : List (τ × M)) (k : ℤ) : M :=
  ((entries.filter fun entry => key entry.1 = k).map Prod.snd).sum

def buckets (key : τ → ℤ) (entries : List (τ × M)) (n : ℕ) : List M :=
  (List.range n).map fun k : ℕ => bucketSum key entries k

variable {key key' : τ → ℤ} {entries later : List (τ × M)} {n : ℕ}

@[simp] theorem length_buckets : (buckets key entries n).length = n := by
  rw [buckets, List.length_map, List.length_range]

theorem bucketSum_append (k : ℤ) :
    bucketSum key (entries ++ later) k = bucketSum key entries k + bucketSum key later k := by
  rw [bucketSum, List.filter_append, List.map_append, List.sum_append]
  rfl

theorem bucketSum_singleton (t : τ) (m : M) (k : ℤ) :
    bucketSum key [(t, m)] k = if key t = k then m else 0 := by
  by_cases h : key t = k <;> simp [bucketSum, h]

theorem bucketSum_cons (t : τ) (m : M) (k : ℤ) :
    bucketSum key ((t, m) :: entries) k
      = (if key t = k then m else 0) + bucketSum key entries k := by
  rw [← List.singleton_append, bucketSum_append, bucketSum_singleton]

theorem bucketSum_of_forall_ne {k : ℤ} (h : ∀ entry ∈ entries, key entry.1 ≠ k) :
    bucketSum key entries k = 0 := by
  rw [bucketSum, List.filter_eq_nil_iff.2 fun entry hentry => by simpa using h entry hentry]
  rfl

theorem bucketSum_of_iff {k : ℤ} {p : τ × M → Bool}
    (h : ∀ entry ∈ entries, key entry.1 = k ↔ p entry) :
    bucketSum key entries k = ((entries.filter p).map Prod.snd).sum := by
  have hfilter : entries.filter (fun entry => key entry.1 = k) = entries.filter p :=
    List.filter_congr fun entry hentry => by simp [h entry hentry]
  rw [bucketSum, hfilter]

theorem bucketSum_congr {k k' : ℤ} (h : ∀ entry ∈ entries, key entry.1 = k ↔ key' entry.1 = k') :
    bucketSum key entries k = bucketSum key' entries k' := by
  have hfilter : entries.filter (fun entry => key entry.1 = k)
      = entries.filter fun entry => key' entry.1 = k' :=
    List.filter_congr fun entry hentry => by simp [h entry hentry]
  rw [bucketSum, bucketSum, hfilter]

theorem buckets_congr {entries' : List (τ × M)}
    (h : ∀ k : ℕ, k < n → bucketSum key entries k = bucketSum key' entries' k) :
    buckets key entries n = buckets key' entries' n :=
  List.map_congr_left fun k hk => h k (List.mem_range.1 hk)

theorem buckets_nil : buckets key ([] : List (τ × M)) n = List.replicate n 0 := by
  refine List.eq_replicate_iff.2 ⟨length_buckets, fun m hm => ?_⟩
  obtain ⟨k, -, rfl⟩ := List.mem_map.1 hm
  rfl

/-- One more entry is added to the sum of its key. -/
theorem buckets_snoc {t : τ} {m : M} {k : ℕ} (hkey : key t = k) :
    buckets key (entries ++ [(t, m)]) n = (buckets key entries n).modify k (· + m) := by
  refine List.ext_getElem (by simp) fun i hi hi' => ?_
  simp only [buckets, List.getElem_modify, List.getElem_map, List.getElem_range, bucketSum_append,
    bucketSum_singleton, hkey, Int.natCast_inj]
  split_ifs
  · rfl
  · rw [add_zero]

/-- Further keys that no entry has come with zeros. -/
theorem buckets_extend (h : ∀ entry ∈ entries, key entry.1 < n) (extra : ℕ) :
    buckets key entries n ++ List.replicate extra 0 = buckets key entries (n + extra) := by
  rw [buckets, buckets, List.range_add, List.map_append, List.map_map]
  congr 1
  refine (List.eq_replicate_iff.2 ⟨by simp, fun m hm => ?_⟩).symm
  obtain ⟨k, -, rfl⟩ := List.mem_map.1 hm
  refine bucketSum_of_forall_ne fun entry hentry heq => ?_
  have hlt := h entry hentry
  push_cast at heq
  omega

/-- Without the first keys the others are what they were. -/
theorem buckets_drop (j : ℕ) {entries' : List (τ × M)}
    (h : ∀ k : ℕ, bucketSum key entries (k + j : ℕ) = bucketSum key' entries' k) :
    (buckets key entries n).drop j = buckets key' entries' (n - j) := by
  refine List.ext_getElem (by simp) fun i hi hi' => ?_
  simp only [buckets, List.getElem_drop, List.getElem_map, List.getElem_range]
  rw [Nat.add_comm, h]

end Buckets

end Wire
