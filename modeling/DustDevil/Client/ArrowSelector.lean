import DustDevil.Client.LongList

/-!
# Arrow selectors

The client's `elements/arrow_selector.rs`: one of some options, which is chosen with the arrow keys
or by a character of its own. Of ratatui there is `set_stringn`, as the column after what it writes.
-/

namespace DustDevil

open Wire

/-- `Buffer::set_stringn`: the column after a text that is written from a column on, over so many
columns at most. -/
abbrev SetStringn := ℕ → Str → ℕ → ℕ

/-- An `ArrowSelector`, and what its handler and the `Notify` were told. -/
structure ArrowSelector where
  options : List (StaticString × Option Char)
  selectedIndex : ℕ
  afterText : StaticString
  autoselect : Bool
  isFocused : Bool
  isSelecting : Bool
  currentPosition : ℕ × ℕ
  /-- The indices that `selection_changed` was called with, the latest one last. -/
  selectionsChanged : List ℕ
  redrawNotified : Bool
  options_ne_nil : options ≠ []

namespace ArrowSelector

variable {ε : Type}

/-- `new`'s options: a blank one where there is none, and their characters in lower case. -/
def optionsOf (options : List (StaticString × Option Char)) : List (StaticString × Option Char) :=
  (if options.isEmpty then [(.static [' '], none)] else options).map
    fun option => (option.1, option.2.map Char.toLower)

theorem optionsOf_ne_nil (options : List (StaticString × Option Char)) :
    optionsOf options ≠ [] := by
  cases options <;> simp [optionsOf]

def new (options : List (StaticString × Option Char)) (selectedIndex : ℕ)
    (afterText : StaticString) (autoselect : Bool) : ArrowSelector where
  options := optionsOf options
  selectedIndex := min selectedIndex (optionsOf options).length
  afterText := afterText
  autoselect := autoselect
  isFocused := false
  isSelecting := false
  currentPosition := (0, 0)
  selectionsChanged := []
  redrawNotified := false
  options_ne_nil := optionsOf_ne_nil options

def setSelectedIndexNoRedraw (selectedIndex : ℕ) (selector : ArrowSelector) :
    Except (Stop ε) ArrowSelector :=
  if selector.options.length ≤ selectedIndex then .error .panic
  else .ok { selector with selectedIndex := selectedIndex }

def resize (area : Rect) (selector : ArrowSelector) : ArrowSelector :=
  { selector with currentPosition := (area.x, area.y) }

/-- The texts that are drawn, each with its first column and how many columns it may take. -/
def render (setStringn : SetStringn) (area : Rect) (selector : ArrowSelector) :
    Except (Stop ε) (List (Drawn Str)) :=
  let right := area.x + area.width
  let arrows := selector.isFocused && selector.isSelecting
  let text (x : ℕ) (s : Str) : Drawn Str := .line x area.y s (right - x)
  let leftArrow := "← ".toList
  let rightArrow := " →".toList
  let drawn := if arrows then [text area.x leftArrow] else []
  let drawX := if arrows then setStringn area.x leftArrow (right - area.x) else area.x
  if right ≤ drawX then .ok drawn
  else
    match selector.options[selector.selectedIndex]? with
    | none => .error .panic
    | some (option, _) =>
      let drawn := drawn ++ [text drawX option.toStr]
      let drawX := setStringn drawX option.toStr (right - drawX)
      if right ≤ drawX then .ok drawn
      else
        let drawn := if arrows then drawn ++ [text drawX rightArrow] else drawn
        let drawX := (if arrows then setStringn drawX rightArrow (right - drawX) else drawX) + 1
        if right ≤ drawX then .ok drawn
        else .ok (drawn ++ [text drawX selector.afterText.toStr])

/-- Selecting another option, which the handler is told of. -/
def change (selectedIndex : ℕ) (selector : ArrowSelector) : ArrowSelector :=
  { selector with
    selectedIndex := selectedIndex
    selectionsChanged := selector.selectionsChanged ++ [selectedIndex]
    redrawNotified := true }

/-- The first option with a character. -/
def indexOfChar (c : Char) (selector : ArrowSelector) : Option ℕ :=
  selector.options.findIdx? fun option => option.2 = some c.toLower

/-- The keys that an element passes its focus with. -/
def passFocusDirection : KeyCode → Option PassFocusDirection
  | .left => some .left
  | .right => some .right
  | .up => some .up
  | .down => some .down
  | .tab => some .forward
  | .esc => some .away
  | .pageUp | .pageDown | .home | .endKey | .enter | .other => none

/-- A key that is no character. -/
def handleKey (code : KeyCode) (selector : ArrowSelector) : HandleEventStatus × ArrowSelector :=
  match code with
  | .enter =>
    (.handled, { selector with isSelecting := !selector.isSelecting, redrawNotified := true })
  | code =>
    match passFocusDirection code with
    | some direction => (.passFocus selector.currentPosition direction, selector)
    | none => (.unhandled, selector)

def handleEvent (event : InputEvent) (isFocused : Bool) (selector : ArrowSelector) :
    HandleEventStatus × ArrowSelector :=
  match event with
  | .other => (.unhandled, selector)
  | .key keyEvent =>
    if keyEvent.isRelease then (.unhandled, selector)
    else
      match keyEvent.code with
      | .char c =>
        match (selector.indexOfChar c).filter (· ≠ selector.selectedIndex) with
        | some index => (.handled, selector.change index)
        | none => (.unhandled, selector)
      | .backspace | .delete => (.unhandled, selector)
      | .key code =>
        if !isFocused then (.unhandled, selector)
        else if selector.isSelecting && !keyEvent.modifiers.control then
          match code with
          | .left =>
            if selector.selectedIndex ≠ 0 then
              (.handled, selector.change (selector.selectedIndex - 1))
            else (.handled, selector)
          | .right =>
            if selector.selectedIndex < selector.options.length - 1 then
              (.handled, selector.change (selector.selectedIndex + 1))
            else (.handled, selector)
          | .esc => (.handled, { selector with isSelecting := false, redrawNotified := true })
          | code => selector.handleKey code
        else selector.handleKey code

def receiveFocus (selector : ArrowSelector) : Bool × ArrowSelector :=
  (true, { selector with
    isFocused := true, isSelecting := selector.autoselect, redrawNotified := true })

def focusLost (selector : ArrowSelector) : ArrowSelector :=
  { selector with isFocused := false, isSelecting := false, redrawNotified := true }

/-- A call of a selector's method. -/
inductive Call where
  | setSelectedIndexNoRedraw (selectedIndex : ℕ)
  | resize (area : Rect)
  | handleEvent (event : InputEvent) (isFocused : Bool)
  | receiveFocus
  | focusLost

/-- The selector after a call, if it does not panic. -/
def step (selector : ArrowSelector) : Call → Option ArrowSelector
  | .setSelectedIndexNoRedraw selectedIndex =>
    (selector.setSelectedIndexNoRedraw (ε := Empty) selectedIndex).toOption
  | .resize area => some (selector.resize area)
  | .handleEvent event isFocused => some (selector.handleEvent event isFocused).2
  | .receiveFocus => some selector.receiveFocus.2
  | .focusLost => some selector.focusLost

end ArrowSelector

end DustDevil
