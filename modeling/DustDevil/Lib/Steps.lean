import Mathlib.Data.Option.Basic

/-!
# Runs of a system that takes steps

A system in some state can take some actions, each of which leads to one state. What every step
preserves holds in every state that is reached (`runSteps_keeps`), and what only some steps preserve
holds in those that are reached by such steps (`runSteps_keeps_along`).
-/

namespace Wire

section Steps

variable {σ α : Type} {step : σ → α → Option σ}

/-- The state after the actions, if each of them can happen. -/
def runSteps (step : σ → α → Option σ) (s : σ) : List α → Option σ
  | [] => some s
  | a :: actions => (step s a).bind fun s' => runSteps step s' actions

/-- `C` holds of every step of the run. -/
def AlongRun (step : σ → α → Option σ) (C : σ → α → Prop) (s : σ) : List α → Prop
  | [] => True
  | a :: actions => C s a ∧ ∀ s', step s a = some s' → AlongRun step C s' actions

theorem runSteps_cons {s s'' : σ} {a : α} {actions : List α} :
    runSteps step s (a :: actions) = some s''
      ↔ ∃ s', step s a = some s' ∧ runSteps step s' actions = some s'' :=
  Option.bind_eq_some_iff

theorem runSteps_append (s : σ) (xs ys : List α) :
    runSteps step s (xs ++ ys) = (runSteps step s xs).bind fun s' => runSteps step s' ys := by
  induction xs generalizing s with
  | nil => rfl
  | cons a xs ih => simp [runSteps, ih, Option.bind_assoc]

theorem runSteps_snoc {s s'' : σ} {actions : List α} {a : α} :
    runSteps step s (actions ++ [a]) = some s''
      ↔ ∃ s', runSteps step s actions = some s' ∧ step s' a = some s'' := by
  rw [runSteps_append, Option.bind_eq_some_iff]
  simp [runSteps]

variable {I : σ → Prop} {C : σ → α → Prop}

theorem AlongRun.cons {s s' : σ} {a : α} {actions : List α} (hC : C s a) (h : step s a = some s')
    (hrest : AlongRun step C s' actions) : AlongRun step C s (a :: actions) := by
  refine ⟨hC, fun s'' h' => ?_⟩
  obtain rfl := Option.some.inj (h.symm.trans h')
  exact hrest

theorem runSteps_keeps_along
    (hstep : ∀ s a s', I s → C s a → step s a = some s' → I s') :
    ∀ {actions : List α} {s s' : σ}, I s → AlongRun step C s actions →
      runSteps step s actions = some s' → I s'
  | [], s, s', hs, _, h => by
    obtain rfl := Option.some.inj h
    exact hs
  | a :: actions, s, s', hs, hC, h => by
    obtain ⟨s1, h1, h'⟩ := runSteps_cons.1 h
    exact runSteps_keeps_along hstep (hstep s a s1 hs hC.1 h1) (hC.2 s1 h1) h'

/-- Where `C` holds of just the steps that preserve `I`, it holds along a run exactly if `I` holds
in every state on the way. -/
theorem alongRun_iff (hstep : ∀ s a s', I s → step s a = some s' → (I s' ↔ C s a)) :
    ∀ {actions : List α} {s s' : σ}, I s → runSteps step s actions = some s' →
      (AlongRun step C s actions
        ↔ ∀ before, before <+: actions → ∀ s1, runSteps step s before = some s1 → I s1)
  | [], s, s', hs, _ => by
    refine iff_of_true trivial fun before hbefore s1 h1 => ?_
    obtain rfl := List.prefix_nil.1 hbefore
    obtain rfl := Option.some.inj h1
    exact hs
  | a :: actions, s, s', hs, h => by
    obtain ⟨s1, h1, h'⟩ := runSteps_cons.1 h
    constructor
    · intro hC before hbefore s2 h2
      obtain rfl | ⟨before, rfl, hrest⟩ := List.prefix_cons_iff.1 hbefore
      · obtain rfl := Option.some.inj h2
        exact hs
      · obtain ⟨s1', h1', h2⟩ := runSteps_cons.1 h2
        obtain rfl := Option.some.inj (h1.symm.trans h1')
        have hs1 := (hstep s a s1 hs h1).2 hC.1
        exact (alongRun_iff hstep hs1 h').1 (hC.2 s1 h1) before hrest s2 h2
    · intro hI
      have hs1 : I s1 := hI [a] ⟨actions, rfl⟩ s1 (runSteps_cons.2 ⟨s1, h1, rfl⟩)
      refine .cons ((hstep s a s1 hs h1).1 hs1) h1 ((alongRun_iff hstep hs1 h').2 ?_)
      intro before hbefore s2 h2
      exact hI (a :: before) (List.cons_prefix_cons.2 ⟨rfl, hbefore⟩) s2
        (runSteps_cons.2 ⟨s1, h1, h2⟩)

theorem alongRun_of_isPrefix {actions : List α} {s : σ}
    (h : ∀ before a, before ++ [a] <+: actions → ∀ s1, runSteps step s before = some s1 → C s1 a) :
    AlongRun step C s actions := by
  induction actions generalizing s with
  | nil => trivial
  | cons a actions ih =>
    refine ⟨h [] a (by simp) s rfl, fun s' h' => ih fun before b hbefore s1 h1 => ?_⟩
    exact h (a :: before) b (by simpa using hbefore) s1 (runSteps_cons.2 ⟨s', h', h1⟩)

theorem alongRun_true : ∀ {actions : List α} {s : σ}, AlongRun step (fun _ _ => True) s actions
  | [], _ => trivial
  | _ :: _, _ => ⟨trivial, fun _ _ => alongRun_true⟩

theorem runSteps_keeps (hstep : ∀ s a s', I s → step s a = some s' → I s') {actions : List α}
    {s s' : σ} (hs : I s) (h : runSteps step s actions = some s') : I s' :=
  runSteps_keeps_along (fun s a s' hs _ => hstep s a s' hs) hs alongRun_true h

/-- What an action brings about and no action ends holds after every run with the action in it. -/
theorem runSteps_establishes (hstep : ∀ s b s', I s → step s b = some s' → I s') {a : α}
    (ha : ∀ s s', step s a = some s' → I s') {actions : List α} {s s' : σ} (hmem : a ∈ actions)
    (h : runSteps step s actions = some s') : I s' := by
  obtain ⟨before, after, rfl⟩ := List.append_of_mem hmem
  rw [runSteps_append] at h
  obtain ⟨s1, -, h1⟩ := Option.bind_eq_some_iff.1 h
  obtain ⟨s2, h2, hrest⟩ := runSteps_cons.1 h1
  exact runSteps_keeps hstep (ha s1 s2 h2) hrest

/-- Where every action leads from a state with `I` to one, none of them is ever impossible. -/
theorem exists_runSteps (hstep : ∀ s a, I s → ∃ s', step s a = some s' ∧ I s') :
    ∀ (actions : List α) {s : σ}, I s → ∃ s', runSteps step s actions = some s' ∧ I s'
  | [], s, hs => ⟨s, rfl, hs⟩
  | a :: actions, s, hs => by
    obtain ⟨s1, h1, hs1⟩ := hstep s a hs
    obtain ⟨s', h', hs'⟩ := exists_runSteps hstep actions hs1
    exact ⟨s', runSteps_cons.2 ⟨s1, h1, h'⟩, hs'⟩

end Steps

end Wire
