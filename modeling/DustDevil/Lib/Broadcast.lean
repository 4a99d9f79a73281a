import Mathlib.Data.List.Basic

/-!
# Broadcast channels

The values that have been sent on a channel are a list, and a receiver is the position of the next
one that it gets. The channel keeps the last `cap` values: a receiver that is further behind loses
those before them. `Received` says how what a receiver has got accounts for what was sent.
-/

namespace Wire

inductive Recv (α : Type) where
  | value (a : α)
  /-- So many values are lost. -/
  | lagged (count : ℕ)
  | empty

section Broadcast

variable {α : Type}

/-- What a receiver at the position gets, and its position then. -/
def broadcastRecv (cap : ℕ) (sent : List α) (cursor : ℕ) : Recv α × ℕ :=
  if cursor + cap < sent.length then
    (.lagged (sent.length - cap - cursor), sent.length - cap)
  else
    match sent[cursor]? with
    | some a => (.value a, cursor + 1)
    | none => (.empty, cursor)

theorem broadcastRecv_cases (cap : ℕ) {sent : List α} {cursor : ℕ} (h : cursor ≤ sent.length) :
    (cursor + cap < sent.length ∧ broadcastRecv cap sent cursor
      = (.lagged (sent.length - cap - cursor), sent.length - cap))
    ∨ (∃ a, sent[cursor]? = some a ∧ broadcastRecv cap sent cursor = (.value a, cursor + 1))
    ∨ (cursor = sent.length ∧ broadcastRecv cap sent cursor = (.empty, cursor)) := by
  unfold broadcastRecv
  by_cases hlag : cursor + cap < sent.length
  · exact .inl ⟨hlag, if_pos hlag⟩
  rw [if_neg hlag]
  rcases Nat.lt_or_ge cursor sent.length with hlt | hge
  · exact .inr (.inl ⟨sent[cursor], List.getElem?_eq_getElem hlt, by
      rw [List.getElem?_eq_getElem hlt]⟩)
  · exact .inr (.inr ⟨Nat.le_antisymm h hge, by rw [List.getElem?_eq_none hge]⟩)

/-- What a receiver has got accounts for the values up to its position, each got or lost. -/
inductive Received : List (Recv α) → List α → Prop where
  | nil : Received [] []
  | value {received : List (Recv α)} {sent : List α} (h : Received received sent) (a : α) :
      Received (received ++ [.value a]) (sent ++ [a])
  | lagged {received : List (Recv α)} {sent : List α} (h : Received received sent)
      {lost : List α} (hne : lost ≠ []) :
      Received (received ++ [.lagged lost.length]) (sent ++ lost)

theorem Received.snoc {received : List (Recv α)} {cap : ℕ} {sent : List α} {cursor : ℕ}
    (h : Received received (sent.take cursor)) (hcursor : cursor ≤ sent.length)
    {got : Recv α} (hgot : (broadcastRecv cap sent cursor).1 = got) (hne : got ≠ .empty) :
    Received (received ++ [got]) (sent.take (broadcastRecv cap sent cursor).2)
      ∧ cursor < (broadcastRecv cap sent cursor).2
      ∧ (broadcastRecv cap sent cursor).2 ≤ sent.length := by
  rcases broadcastRecv_cases cap hcursor with ⟨hlag, heq⟩ | ⟨a, ha, heq⟩ | ⟨-, heq⟩
  · rw [heq] at hgot ⊢
    subst hgot
    have hsplit : sent.take (sent.length - cap)
        = sent.take cursor ++ (sent.drop cursor).take (sent.length - cap - cursor) := by
      rw [← List.take_add, Nat.add_sub_cancel' (by omega)]
    have hlength : ((sent.drop cursor).take (sent.length - cap - cursor)).length
        = sent.length - cap - cursor := by
      rw [List.length_take, List.length_drop]
      omega
    have hne : (sent.drop cursor).take (sent.length - cap - cursor) ≠ [] :=
      List.length_pos_iff.1 (by omega)
    have hlagged := h.lagged hne
    rw [hlength, ← hsplit] at hlagged
    exact ⟨hlagged, by dsimp only; omega, Nat.sub_le _ _⟩
  · rw [heq] at hgot ⊢
    subst hgot
    obtain ⟨hlt, rfl⟩ := List.getElem?_eq_some_iff.1 ha
    refine ⟨?_, Nat.lt_succ_self _, hlt⟩
    rw [List.take_add_one, ha]
    exact h.value _
  · rw [heq] at hgot
    exact absurd hgot.symm hne

end Broadcast

end Wire
