import Mathlib.Data.Finmap

/-!
# Counting the values of a finite map

`countVals p m` is how many keys of `m` have a value that satisfies `p`. Putting a value in and
taking one out change it by what the key had and has, which is all a counter kept beside the map
needs.
-/

namespace Finmap

variable {κ ν : Type}

abbrev Of (κ ν : Type) := Finmap fun _ : κ => ν

/-- How many keys have a value satisfying `p`. -/
def countVals (p : ν → Bool) (m : Of κ ν) : ℕ := m.entries.countP fun e => p e.2

theorem countVals_toFinmap (p : ν → Bool) (a : AList fun _ : κ => ν) :
    countVals p a.toFinmap = a.entries.countP fun e => p e.2 := by
  simp [countVals, AList.toFinmap]

variable [DecidableEq κ]

theorem countP_kerase (p : ν → Bool) (k : κ) :
    ∀ l : List (Sigma fun _ : κ => ν),
      (l.kerase k).countP (fun e => p e.2) + ((l.dlookup k).any p).toNat
        = l.countP (fun e => p e.2)
  | [] => by simp
  | ⟨k', v⟩ :: l => by
    by_cases h : k = k'
    · subst h
      cases hv : p v <;> simp [hv]
    · rw [List.kerase_cons_ne h, List.dlookup_cons_ne l (⟨k', v⟩ : Sigma fun _ => ν) h,
        List.countP_cons, List.countP_cons]
      have := countP_kerase p k l
      omega

theorem countVals_erase (p : ν → Bool) (k : κ) (m : Of κ ν) :
    countVals p (m.erase k) + ((m.lookup k).any p).toNat = countVals p m := by
  induction m using Finmap.induction_on with
  | _ a =>
    rw [Finmap.erase_toFinmap, Finmap.lookup_toFinmap, countVals_toFinmap, countVals_toFinmap]
    exact countP_kerase p k a.entries

/-- Putting a value in counts it in place of what the key had. -/
theorem countVals_insert (p : ν → Bool) (k : κ) (v : ν) (m : Of κ ν) :
    countVals p (m.insert k v) + ((m.lookup k).any p).toNat = countVals p m + (p v).toNat := by
  have herase := countVals_erase p k m
  have hinsert : countVals p (m.insert k v) = countVals p (m.erase k) + (p v).toNat := by
    induction m using Finmap.induction_on with
    | _ a =>
      rw [Finmap.insert_toFinmap, Finmap.erase_toFinmap, countVals_toFinmap, countVals_toFinmap,
        AList.entries_insert, List.countP_cons]
      cases p v <;> rfl
  omega

theorem countVals_pos_of_lookup {p : ν → Bool} {m : Of κ ν} {k : κ} {v : ν}
    (h : m.lookup k = some v) (hv : p v = true) : 0 < countVals p m := by
  have := countVals_erase p k m
  simp only [h, Option.any_some, hv, Bool.toNat_true] at this
  omega

theorem countVals_pos_iff {p : ν → Bool} {m : Of κ ν} :
    0 < countVals p m ↔ ∃ k v, m.lookup k = some v ∧ p v = true := by
  refine ⟨fun h => ?_, fun ⟨k, v, hk, hv⟩ => countVals_pos_of_lookup hk hv⟩
  obtain ⟨⟨k, v⟩, hmem, hv⟩ := Multiset.countP_pos.1 h
  refine ⟨k, v, ?_, hv⟩
  induction m using Finmap.induction_on with
  | _ a => exact List.mem_dlookup a.nodupKeys hmem

theorem countVals_eq_one_iff {p : ν → Bool} {m : Of κ ν} {k : κ} {v : ν}
    (h : m.lookup k = some v) (hv : p v = true) :
    countVals p m = 1 ↔ ∀ k' v', m.lookup k' = some v' → p v' = true → k' = k := by
  have herase := countVals_erase p k m
  simp only [h, Option.any_some, hv, Bool.toNat_true] at herase
  constructor
  · intro h1 k' v' hk' hv'
    by_contra hne
    have := countVals_pos_of_lookup (m := m.erase k) (p := p) (k := k') (v := v')
      (by rw [Finmap.lookup_erase_ne hne, hk']) hv'
    omega
  · intro hall
    by_contra hne
    obtain ⟨k', v', hk', hv'⟩ := countVals_pos_iff.1 (show 0 < countVals p (m.erase k) by omega)
    by_cases hkk : k' = k
    · subst hkk
      simp at hk'
    · rw [Finmap.lookup_erase_ne hkk] at hk'
      exact hkk (hall k' v' hk' hv')

end Finmap
