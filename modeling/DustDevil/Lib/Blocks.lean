import Mathlib.Algebra.BigOperators.Intervals
import Mathlib.Data.List.Chain
import Mathlib.Data.List.DropRight

/-!
# Runs of consecutive blocks

A sequence of blocks of elements is a list for each index. `blocks g a b` are the elements of those
from `a` until `b`, each with the index of its block. They are contiguous where none of them is
empty (`contiguous_blocks`), and whatever is contiguous are such blocks
(`Contiguous.exists_blocks`).
-/

namespace Wire

section Blocks

variable {α β : Type}

def blocks (g : ℕ → List α) (a b : ℕ) : List (α × ℕ) :=
  (List.range' a (b - a)).flatMap fun i => (g i).map (·, i)

/-- Each index is that of the element before or the one after it. -/
def Contiguous (l : List (α × ℕ)) : Prop := l.IsChain fun x y => y.2 = x.2 ∨ y.2 = x.2 + 1

variable {g g' : ℕ → List α} {a b c i : ℕ}

@[simp] theorem blocks_self : blocks g a a = [] := by simp [blocks]

theorem blocks_append (hab : a ≤ b) (hbc : b ≤ c) :
    blocks g a b ++ blocks g b c = blocks g a c := by
  have hrange : List.range' a (b - a) ++ List.range' b (c - b) = List.range' a (c - a) := by
    have h := List.range'_append_1 (s := a) (m := b - a) (n := c - b)
    rwa [Nat.add_sub_cancel' hab, show b - a + (c - b) = c - a by omega] at h
  rw [blocks, blocks, blocks, ← List.flatMap_append, hrange]

theorem blocks_succ (g : ℕ → List α) (a : ℕ) : blocks g a (a + 1) = (g a).map (·, a) := by
  simp [blocks]

theorem blocks_cons (hab : a < b) :
    blocks g a b = (g a).map (·, a) ++ blocks g (a + 1) b := by
  rw [← blocks_succ, blocks_append (Nat.le_succ a) hab]

theorem blocks_snoc (hab : a ≤ b) :
    blocks g a (b + 1) = blocks g a b ++ (g b).map (·, b) := by
  rw [← blocks_succ, blocks_append hab (Nat.le_succ b)]

/-- One of the blocks, with those on either side of it. -/
theorem blocks_split (hai : a ≤ i) (hib : i < b) :
    blocks g a b = blocks g a i ++ ((g i).map (·, i) ++ blocks g (i + 1) b) := by
  rw [← blocks_cons hib, blocks_append hai hib.le]

theorem mem_blocks {x : α × ℕ} : x ∈ blocks g a b ↔ a ≤ x.2 ∧ x.2 < b ∧ x.1 ∈ g x.2 := by
  simp only [blocks, List.mem_flatMap, List.mem_range'_1, List.mem_map]
  constructor
  · rintro ⟨i, ⟨hai, hib⟩, y, hy, rfl⟩
    exact ⟨hai, by omega, hy⟩
  · rintro ⟨hai, hib, hx⟩
    exact ⟨x.2, ⟨hai, by omega⟩, x.1, hx, rfl⟩

theorem blocks_congr (h : ∀ i, a ≤ i → i < b → g i = g' i) : blocks g a b = blocks g' a b := by
  refine List.flatMap_congr fun i hi => ?_
  rw [List.mem_range'_1] at hi
  rw [h i hi.1 (by omega)]

theorem map_blocks (f : α → β) (g : ℕ → List α) (a b : ℕ) :
    (blocks g a b).map (Prod.map f id) = blocks (fun i => (g i).map f) a b := by
  simp only [blocks, List.map_flatMap, List.map_map]
  rfl

theorem length_blocks (g : ℕ → List α) (hab : a ≤ b) :
    (blocks g a b).length = ∑ i ∈ Finset.Ico a b, (g i).length := by
  induction b, hab using Nat.le_induction with
  | base => simp
  | succ b hab ih =>
    rw [blocks_snoc hab, List.length_append, List.length_map, ih, Finset.sum_Ico_succ_top hab]

/-- The blocks after one that is left out. -/
theorem map_pred_blocks (g : ℕ → List α) (a b : ℕ) :
    (blocks g (a + 1) (b + 1)).map (Prod.map id (· - 1)) = blocks (fun i => g (i + 1)) a b := by
  have hrange : List.range' (a + 1) (b - a) = (List.range' a (b - a)).map (· + 1) :=
    List.range'_succ_left
  simp only [blocks, Nat.add_sub_add_right, hrange, List.flatMap_map, List.map_flatMap,
    List.map_map]
  rfl

/-! ### Being contiguous -/

theorem contiguous_iff {l : List (α × ℕ)} :
    Contiguous l ↔ (l.map Prod.snd).IsChain fun i j => j = i ∨ j = i + 1 :=
  (List.isChain_map (R := fun i j : ℕ => j = i ∨ j = i + 1) Prod.snd).symm

theorem Contiguous.of_map_snd {l l' : List (α × ℕ)} (h : Contiguous l)
    (heq : l'.map Prod.snd = l.map Prod.snd) : Contiguous l' := by
  rw [contiguous_iff] at h ⊢
  rwa [heq]

theorem Contiguous.pairwise {l : List (α × ℕ)} (h : Contiguous l) :
    l.Pairwise fun x y => x.2 ≤ y.2 := by
  have : Trans (fun x y : α × ℕ => x.2 ≤ y.2) (fun x y : α × ℕ => x.2 ≤ y.2)
      (fun x y : α × ℕ => x.2 ≤ y.2) := ⟨Nat.le_trans⟩
  refine List.isChain_iff_pairwise.1 (h.imp fun x y hxy => ?_)
  omega

theorem snd_of_mem_getLast? (hab : a ≤ b) (hb : g b ≠ []) {x : α × ℕ}
    (hx : x ∈ (blocks g a (b + 1)).getLast?) : x.2 = b := by
  have hne : (g b).map (·, b) ≠ [] := by simpa using hb
  rw [blocks_snoc hab, List.getLast?_append_of_ne_nil _ hne, List.getLast?_map, Option.mem_def,
    Option.map_eq_some_iff] at hx
  obtain ⟨_, -, rfl⟩ := hx
  rfl

theorem contiguous_map_pair (l : List α) (i : ℕ) : Contiguous (l.map (·, i)) := by
  induction l with
  | nil => exact .nil
  | cons y l ih =>
    refine List.isChain_cons.2 ⟨fun z hz => ?_, ih⟩
    rw [List.head?_map, Option.mem_def, Option.map_eq_some_iff] at hz
    obtain ⟨_, -, rfl⟩ := hz
    exact .inl rfl

theorem contiguous_blocks (h : ∀ i, a ≤ i → i < b → g i ≠ []) : Contiguous (blocks g a b) := by
  obtain hba | hab := Nat.le_total b a
  · simp [blocks, Nat.sub_eq_zero_of_le hba, Contiguous]
  · induction b, hab using Nat.le_induction with
    | base => simp [Contiguous]
    | succ b hab ih =>
      rw [blocks_snoc hab]
      refine List.IsChain.append (ih fun i hai hib => h i hai (by omega))
        (contiguous_map_pair (g b) b) fun x hx y hy => ?_
      rw [List.head?_map, Option.mem_def, Option.map_eq_some_iff] at hy
      obtain ⟨_, -, rfl⟩ := hy
      obtain rfl | hab := Nat.eq_or_lt_of_le hab
      · simp at hx
      · obtain ⟨b, rfl⟩ : ∃ c, b = c + 1 := ⟨b - 1, by omega⟩
        have hxb := snd_of_mem_getLast? (by omega) (h b (by omega) (by omega)) hx
        exact .inr (by rw [hxb])

theorem Contiguous.exists_blocks {l : List (α × ℕ)} (hl : Contiguous l) :
    ∃ g a b, a ≤ b ∧ (∀ i, a ≤ i → i < b → g i ≠ []) ∧ l = blocks g a b := by
  induction l with
  | nil => exact ⟨fun _ => [], 0, 0, le_rfl, fun i _ _ => by omega, by simp⟩
  | cons x l ih =>
    obtain ⟨hhead, hrest⟩ := List.isChain_cons.1 hl
    obtain ⟨g, a, b, hab, hg, rfl⟩ := ih hrest
    obtain rfl | hab := Nat.eq_or_lt_of_le hab
    · refine ⟨fun _ => [x.1], x.2, x.2 + 1, Nat.le_succ _, fun _ _ _ => by simp, ?_⟩
      simp [blocks_succ]
    · obtain ⟨y, ys, hy⟩ := List.exists_cons_of_ne_nil (hg a le_rfl hab)
      have ha : a = x.2 ∨ a = x.2 + 1 := by
        refine hhead (y, a) ?_
        rw [blocks_cons hab, hy]
        rfl
      have hafter (z : List α) (c : ℕ) (hc : x.2 < c) :
          blocks (Function.update g x.2 z) c b = blocks g c b :=
        blocks_congr fun i hi _ => Function.update_of_ne (by omega) ..
      obtain rfl | rfl := ha
      · refine ⟨Function.update g x.2 (x.1 :: g x.2), x.2, b, hab.le, fun i hai hib => ?_, ?_⟩
        · obtain rfl | hi := eq_or_ne i x.2
          · simp
          · rw [Function.update_of_ne hi]
            exact hg i hai hib
        · rw [blocks_cons hab, blocks_cons hab, hafter _ _ (Nat.lt_succ_self _),
            Function.update_self]
          rfl
      · refine ⟨Function.update g x.2 [x.1], x.2, b, by omega, fun i hai hib => ?_, ?_⟩
        · obtain rfl | hi := eq_or_ne i x.2
          · simp
          · rw [Function.update_of_ne hi]
            exact hg i (by omega) hib
        · rw [blocks_cons (a := x.2) (by omega), hafter _ _ (Nat.lt_succ_self _),
            Function.update_self]
          rfl

end Blocks

end Wire
