import DustDevil.Client.ArrowSelector
import DustDevil.Lib.Steps

/-!
# The selected option exists

`new` takes the number of the options for an index too. A selector that is made with the index of an
option keeps to such indices whatever is done with it, and otherwise not even a new one can be
rendered (`inRange_iff`).
-/

namespace DustDevil

open Wire

namespace ArrowSelector

/-- The options that are selected, now and whenever the handler was told, exist. -/
structure InRange (selector : ArrowSelector) : Prop where
  selected_lt : selector.selectedIndex < selector.options.length
  told_lt : ∀ index ∈ selector.selectionsChanged, index < selector.options.length

section Calls

variable {selector selector' : ArrowSelector}

theorem InRange.change (h : InRange selector) {index : ℕ}
    (hindex : index < selector.options.length) : InRange (selector.change index) where
  selected_lt := hindex
  told_lt i hi := by
    obtain hi | hi := List.mem_append.1 hi
    · exact h.told_lt i hi
    · exact List.mem_singleton.1 hi ▸ hindex

theorem indexOfChar_lt {c : Char} {index : ℕ} (h : selector.indexOfChar c = some index) :
    index < selector.options.length :=
  (List.findIdx?_eq_some_iff_findIdx_eq.1 h).1

theorem InRange.handleKey (h : InRange selector) (code : KeyCode) :
    InRange (selector.handleKey code).2 := by
  unfold ArrowSelector.handleKey
  split
  · exact ⟨h.selected_lt, h.told_lt⟩
  · split <;> exact h

theorem InRange.handleEvent (h : InRange selector) (event : InputEvent) (isFocused : Bool) :
    InRange (selector.handleEvent event isFocused).2 := by
  have hlt := h.selected_lt
  cases event with
  | other => exact h
  | key keyEvent =>
    simp only [ArrowSelector.handleEvent]
    split
    · exact h
    cases keyEvent.code with
    | char c =>
      simp only
      split
      · rename_i index hindex
        exact h.change (indexOfChar_lt (Option.filter_eq_some_iff.1 hindex).1)
      · exact h
    | backspace => exact h
    | delete => exact h
    | key code =>
      simp only
      split
      · exact h
      split
      · cases code with
        | left =>
          simp only
          split
          · exact h.change (by omega)
          · exact h
        | right =>
          simp only
          split
          · exact h.change (by omega)
          · exact h
        | esc => exact ⟨h.selected_lt, h.told_lt⟩
        | _ => exact h.handleKey _
      · exact h.handleKey code

theorem InRange.step (h : InRange selector) {call : Call}
    (hstep : selector.step call = some selector') : InRange selector' := by
  cases call with
  | setSelectedIndexNoRedraw selectedIndex =>
    simp only [ArrowSelector.step, ArrowSelector.setSelectedIndexNoRedraw] at hstep
    split_ifs at hstep with hle
    · cases hstep
    · obtain rfl := Option.some.inj hstep
      exact ⟨Nat.lt_of_not_le hle, h.told_lt⟩
  | resize area =>
    obtain rfl := Option.some.inj hstep
    exact ⟨h.selected_lt, h.told_lt⟩
  | handleEvent event isFocused =>
    obtain rfl := Option.some.inj hstep
    exact h.handleEvent event isFocused
  | receiveFocus =>
    obtain rfl := Option.some.inj hstep
    exact ⟨h.selected_lt, h.told_lt⟩
  | focusLost =>
    obtain rfl := Option.some.inj hstep
    exact ⟨h.selected_lt, h.told_lt⟩

theorem InRange.render {ε : Type} (h : InRange selector) (setStringn : SetStringn) (area : Rect) :
    ∃ drawn, selector.render (ε := ε) setStringn area = .ok drawn := by
  simp only [ArrowSelector.render, List.getElem?_eq_getElem h.selected_lt]
  split_ifs <;> exact ⟨_, rfl⟩

end Calls

theorem length_optionsOf (options : List (StaticString × Option Char)) :
    (optionsOf options).length = max 1 options.length := by
  cases options with
  | nil => rfl
  | cons option options => simp [optionsOf]

theorem inRange_new_iff (options : List (StaticString × Option Char)) (selectedIndex : ℕ)
    (afterText : StaticString) (autoselect : Bool) :
    InRange (new options selectedIndex afterText autoselect)
      ↔ selectedIndex < max 1 options.length := by
  constructor
  · intro h
    have hlt : min selectedIndex (optionsOf options).length < (optionsOf options).length :=
      h.selected_lt
    rw [length_optionsOf] at hlt
    omega
  · intro h
    refine ⟨?_, fun index hindex => absurd hindex List.not_mem_nil⟩
    show min selectedIndex (optionsOf options).length < (optionsOf options).length
    rw [length_optionsOf]
    omega

/-- After any calls the selected option exists, as did each that the handler was told of, and the
selector can be rendered. -/
theorem inRange_iff (options : List (StaticString × Option Char)) (selectedIndex : ℕ)
    (afterText : StaticString) (autoselect : Bool) :
    (∀ calls selector,
        runSteps step (new options selectedIndex afterText autoselect) calls = some selector →
          selector.selectedIndex < selector.options.length
            ∧ (∀ index ∈ selector.selectionsChanged, index < selector.options.length)
            ∧ ∀ setStringn area, ∃ drawn,
              selector.render (ε := Empty) setStringn area = .ok drawn)
      ↔ selectedIndex < max 1 options.length := by
  rw [← inRange_new_iff options selectedIndex afterText autoselect]
  constructor
  · intro h
    obtain ⟨hselected, htold, -⟩ := h [] _ rfl
    exact ⟨hselected, htold⟩
  · intro h calls selector hrun
    have hrange := runSteps_keeps (fun _ _ _ h hstep => h.step hstep) h hrun
    exact ⟨hrange.selected_lt, hrange.told_lt, hrange.render⟩

/-- An index of one after the last option is taken as it is. -/
theorem not_inRange_one :
    ¬ ∀ calls selector,
      runSteps step (new [(.static ['a'], none)] 1 (.static []) false) calls = some selector →
        selector.selectedIndex < selector.options.length
          ∧ (∀ index ∈ selector.selectionsChanged, index < selector.options.length)
          ∧ ∀ setStringn area, ∃ drawn,
            selector.render (ε := Empty) setStringn area = .ok drawn := by
  intro h
  have hlt := (h [] _ rfl).1
  exact absurd hlt (by decide)

end ArrowSelector

end DustDevil
