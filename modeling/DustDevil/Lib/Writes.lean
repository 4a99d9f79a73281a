import Mathlib.Data.List.Induction
import Mathlib.Data.List.Nodup
import Mathlib.Logic.Function.Basic
import DustDevil.Lib.Trace

/-!
# Maps that are written to

A change sets the entry of a key or removes it. After some changes a key has what the last change to
it says (`changeAll_apply`). So a map that reflects some changes is not altered by making them
again, nor by making the last of them again (`Reflects.changeAll`): whoever takes such a map and
goes on with the changes from any earlier point on ends with the same map as one who has missed
none.
-/

namespace Wire

/-- A change of an entry. An entry tells its own key. -/
inductive Change (κ α : Type) where
  | set (a : α)
  | remove (k : κ)

section Changes

variable {κ α : Type} [DecidableEq κ] (key : α → κ)

namespace Change

def target : Change κ α → κ
  | set a => key a
  | remove k => k

def entry : Change κ α → Option α
  | set a => some a
  | remove _ => none

end Change

def change (m : κ → Option α) (c : Change κ α) : κ → Option α :=
  Function.update m (c.target key) c.entry

def changeAll (m : κ → Option α) (changes : List (Change κ α)) : κ → Option α :=
  changes.foldl (change key) m

/-- What the last change to the key says. -/
def lastChange (changes : List (Change κ α)) (k : κ) : Option (Option α) :=
  latest (fun c => if c.target key = k then some c.entry else none) changes

/-- Each key has what the last change to it says. -/
def Reflects (m : κ → Option α) (changes : List (Change κ α)) : Prop :=
  ∀ k v, lastChange key changes k = some v → m k = v

variable {key} {m : κ → Option α} {c : Change κ α} {changes changes' : List (Change κ α)}

@[simp] theorem changeAll_nil : changeAll key m [] = m := rfl

@[simp] theorem changeAll_cons :
    changeAll key m (c :: changes) = changeAll key (change key m c) changes := rfl

theorem changeAll_append :
    changeAll key m (changes ++ changes') = changeAll key (changeAll key m changes) changes' :=
  List.foldl_append

theorem changeAll_snoc :
    changeAll key m (changes ++ [c]) = change key (changeAll key m changes) c :=
  changeAll_append

theorem changeAll_apply (k : κ) :
    changeAll key m changes k = (lastChange key changes k).getD (m k) := by
  induction changes using List.reverseRecOn with
  | nil => rfl
  | append_singleton changes c ih =>
    rw [changeAll_snoc, change, lastChange, latest_snoc, Function.update_apply]
    by_cases hk : k = c.target key
    · simp [hk]
    · rw [if_neg hk, if_neg (Ne.symm hk), Option.none_or, ih]
      rfl

theorem Reflects.nil : Reflects key m [] := fun _ _ h => nomatch h

/-- Making the changes again alters nothing. -/
theorem Reflects.changeAll (h : Reflects key m changes) : changeAll key m changes = m := by
  funext k
  rw [changeAll_apply]
  rcases hlast : lastChange key changes k with _ | v
  · rfl
  · exact (h k v hlast).symm

theorem Reflects.snoc (h : Reflects key m changes) (c : Change κ α) :
    Reflects key (change key m c) (changes ++ [c]) := by
  intro k v hlast
  rw [lastChange, latest_snoc] at hlast
  by_cases hk : c.target key = k
  · subst hk
    simp only [if_true, Option.some_or, Option.some.injEq] at hlast
    rw [change, Function.update_self, hlast]
  · rw [if_neg hk, Option.none_or] at hlast
    rw [change, Function.update_of_ne (Ne.symm hk), h k v hlast]

/-- The earliest changes may be left out. -/
theorem Reflects.of_append (h : Reflects key m (changes ++ changes')) :
    Reflects key m changes' := by
  intro k v hlast
  refine h k v ?_
  unfold lastChange latest at hlast ⊢
  rw [List.reverse_append, List.findSome?_append, hlast, Option.some_or]

end Changes

/-! ## Maps as lists of their entries -/

section Distinct

variable {κ α : Type} {key : α → κ} {entries entries' : List α} {a : α}

/-- No two entries are of one key. -/
def Distinct (key : α → κ) (entries : List α) : Prop := (entries.map key).Nodup

theorem Distinct.of_perm (h : Distinct key entries) (hperm : entries'.Perm entries) :
    Distinct key entries' := (hperm.map key).nodup_iff.2 h

theorem Distinct.nodup (h : Distinct key entries) : entries.Nodup := List.Nodup.of_map key h

theorem Distinct.cons_iff :
    Distinct key (a :: entries) ↔ (∀ b ∈ entries, key b ≠ key a) ∧ Distinct key entries := by
  simp [Distinct]

end Distinct

section Entries

variable {κ α : Type} [DecidableEq κ] (key : α → κ)

def find (entries : List α) (k : κ) : Option α := entries.find? fun a => key a = k

/-- What a change does to the entries. -/
def changeEntries (entries : List α) (c : Change κ α) : List α :=
  (entries.filter fun a => key a ≠ c.target key) ++ c.entry.toList

variable {key} {entries entries' : List α} {c : Change κ α} {a : α}

theorem find_eq_some (h : Distinct key entries) {k : κ} :
    find key entries k = some a ↔ a ∈ entries ∧ key a = k := by
  constructor
  · intro hfind
    exact ⟨List.mem_of_find?_eq_some hfind, by simpa using List.find?_some hfind⟩
  · rintro ⟨hmem, rfl⟩
    rcases hfind : find key entries (key a) with _ | b
    · have := List.find?_eq_none.1 hfind a hmem
      simp at this
    · have hb : key b = key a := by simpa using List.find?_some hfind
      exact congrArg some
        (List.inj_on_of_nodup_map h (List.mem_of_find?_eq_some hfind) hmem hb)

theorem find_of_perm (h : Distinct key entries) (hperm : entries'.Perm entries) :
    find key entries' = find key entries := by
  funext k
  refine Option.ext fun a => ?_
  rw [find_eq_some h, find_eq_some (h.of_perm hperm), hperm.mem_iff]

/-- The map tells the entries. -/
theorem perm_of_find (h : Distinct key entries) (h' : Distinct key entries')
    (hfind : find key entries' = find key entries) : entries'.Perm entries := by
  rw [List.perm_ext_iff_of_nodup h'.nodup h.nodup]
  intro a
  have hiff := congrArg (· = some a) (congrFun hfind (key a))
  simpa [find_eq_some h, find_eq_some h'] using hiff

theorem find_cons (a : α) (entries : List α) :
    find key (a :: entries) = Function.update (find key entries) (key a) (some a) := by
  funext k
  rw [Function.update_apply, find, List.find?_cons]
  by_cases hk : k = key a
  · simp [hk]
  · simp [hk, Ne.symm hk, find]

theorem find_eq_none {k : κ} : find key entries k = none ↔ ∀ a ∈ entries, key a ≠ k := by
  simp [find]

/-- The second list is the first one after the change. -/
structure Changed (key : α → κ) (entries entries' : List α) (c : Change κ α) : Prop where
  distinct : Distinct key entries'
  find_eq : find key entries' = change key (find key entries) c

/-- An entry more. -/
theorem Changed.insert (h : Distinct key entries) (hnone : ∀ b ∈ entries, key b ≠ key a)
    (hperm : entries'.Perm (a :: entries)) : Changed key entries entries' (.set a) := by
  have hcons : Distinct key (a :: entries) := Distinct.cons_iff.2 ⟨hnone, h⟩
  refine ⟨hcons.of_perm hperm, ?_⟩
  rw [find_of_perm hcons hperm, find_cons]
  rfl

/-- An entry less. -/
theorem Changed.erase (h : Distinct key entries) (hperm : (a :: entries').Perm entries) :
    Changed key entries entries' (.remove (key a)) := by
  obtain ⟨hnone, hdistinct⟩ := Distinct.cons_iff.1 (h.of_perm hperm)
  refine ⟨hdistinct, ?_⟩
  rw [← find_of_perm h hperm, find_cons, change, Change.target, Change.entry,
    Function.update_idem, ← find_eq_none.2 hnone, Function.update_eq_self]

/-- An entry in place of another one. -/
theorem Changed.replace {between : List α} (h : Changed key entries between (.remove (key a)))
    (h' : Changed key between entries' (.set a)) : Changed key entries entries' (.set a) :=
  ⟨h'.distinct, by rw [h'.find_eq, h.find_eq]; exact Function.update_idem _ _ _⟩

/-- Nothing to change. -/
theorem Changed.same (h : Distinct key entries)
    (hfind : find key entries (c.target key) = c.entry) :
    Changed key entries entries c :=
  ⟨h, by rw [change, ← hfind, Function.update_eq_self]⟩

theorem find_filter (entries : List α) (k : κ) :
    find key (entries.filter fun a => key a ≠ k) = Function.update (find key entries) k none := by
  induction entries with
  | nil =>
    funext k'
    rw [Function.update_apply]
    split_ifs <;> rfl
  | cons a entries ih =>
    rw [find_cons, List.filter_cons]
    by_cases hk : key a = k
    · simp only [hk, ne_eq, not_true_eq_false, decide_false, Bool.false_eq_true, if_false]
      rw [ih, Function.update_idem]
    · simp only [hk, ne_eq, not_false_eq_true, decide_true, if_true]
      rw [find_cons, ih, Function.update_comm (Ne.symm hk)]

theorem changeEntries_changed (h : Distinct key entries) (c : Change κ α) :
    Changed key entries (changeEntries key entries c) c := by
  have hfilter : Changed key entries (entries.filter fun a => key a ≠ c.target key)
      (.remove (c.target key)) :=
    ⟨h.sublist (List.filter_sublist.map key), find_filter entries _⟩
  unfold changeEntries
  rcases c with a | k
  · refine hfilter.replace (.insert hfilter.distinct (fun b hb => ?_)
      (List.perm_append_singleton a _))
    exact of_decide_eq_true (List.mem_filter.1 hb).2
  · rw [Change.entry, Option.toList_none, List.append_nil]
    exact hfilter

end Entries

end Wire
