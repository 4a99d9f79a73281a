import Mathlib.Data.List.Basic

/-!
# What a trace says of its past

A trace grows at its end. `EachAfter` states something of each of its entries and of what comes
before that entry, and `latest` is what the last entry of some kind says.
-/

namespace Wire

section Trace

variable {α β : Type} {P Q : List α → α → Prop} {trace : List α} {a : α}

/-- Each entry stands in `P` to the entries before it. -/
def EachAfter (P : List α → α → Prop) (trace : List α) : Prop :=
  ∀ before a after, trace = before ++ a :: after → P before a

theorem EachAfter.nil : EachAfter P [] := fun before a after h => by simp at h

theorem EachAfter.snoc (h : EachAfter P trace) (ha : P trace a) : EachAfter P (trace ++ [a]) := by
  intro before b after heq
  rcases List.eq_nil_or_concat after with rfl | ⟨after, c, rfl⟩
  · obtain ⟨rfl, hb⟩ := List.append_inj' heq rfl
    obtain rfl := (List.cons.inj hb).1
    exact ha
  · rw [List.concat_eq_append, ← List.cons_append, ← List.append_assoc] at heq
    exact h before b after (List.append_inj' heq rfl).1

theorem EachAfter.mono (h : EachAfter P trace) (hPQ : ∀ before a, P before a → Q before a) :
    EachAfter Q trace := fun before a after heq => hPQ before a (h before a after heq)

/-- What the last entry of which `f` says something says. -/
def latest (f : α → Option β) (trace : List α) : Option β := trace.reverse.findSome? f

@[simp] theorem latest_nil (f : α → Option β) : latest f [] = none := rfl

@[simp] theorem latest_snoc (f : α → Option β) (trace : List α) (a : α) :
    latest f (trace ++ [a]) = (f a).or (latest f trace) := by
  unfold latest
  rw [List.reverse_append, List.reverse_singleton, List.singleton_append, List.findSome?_cons]
  cases f a <;> rfl

end Trace

end Wire
