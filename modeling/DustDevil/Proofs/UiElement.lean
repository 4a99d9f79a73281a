import DustDevil.Client.UiElement
import DustDevil.Proofs.ArrowSelector

/-!
# What elements of the UI keep to

The rules of `ui_element.rs`, as a law that an element has with respect to who holds the focus: it
shows it in exactly one place while it holds it and nowhere else, passes it on only then, and is
drawn in the area that it was last given, in parts that do not overlap. Splits keep to them if both
of their elements do, and a focus cell makes of the law that its element has what a window needs.
-/

namespace DustDevil

open Wire

theorem Ui.bind_ok {α β : Type} {x : Ui α} {a : α} (h : x = .ok a) (f : α → Ui β) :
    (x >>= f) = f a := by
  rw [h]
  rfl

theorem addU16_ok {a b : ℕ} (h : a + b < 2 ^ 16) : addU16 a b = .ok (a + b) := if_pos h

theorem subU16_ok {a b : ℕ} (h : b ≤ a) : subU16 a b = .ok (a - b) := if_pos h

def HandleEventStatus.passes : HandleEventStatus → Bool
  | .passFocus _ _ => true
  | .handled | .unhandled => false

/-! ## Areas -/

namespace Rect

variable {area area' part part' : Rect}

def Has (area : Rect) (cell : ℕ × ℕ) : Prop :=
  area.x ≤ cell.1 ∧ cell.1 < area.right ∧ area.y ≤ cell.2 ∧ cell.2 < area.bottom

def Within (part area : Rect) : Prop := ∀ cell, part.Has cell → area.Has cell

def Apart (area area' : Rect) : Prop := ∀ cell, area.Has cell → ¬ area'.Has cell

theorem Within.refl (area : Rect) : area.Within area := fun _ => id

theorem Within.trans {outer : Rect} (h : part.Within area) (h' : area.Within outer) :
    part.Within outer := fun cell hcell => h' cell (h cell hcell)

theorem Apart.mono (h : area.Apart area') (hpart : part.Within area) (hpart' : part'.Within area') :
    part.Apart part' := fun cell hcell hcell' => h cell (hpart cell hcell) (hpart' cell hcell')

theorem new_ok {x y width height : ℕ} (hright : x + width < 2 ^ 16)
    (hbottom : y + height < 2 ^ 16) :
    Rect.new x y width height = .ok ⟨x, y, width, height, hright, hbottom⟩ :=
  dif_pos ⟨hright, hbottom⟩

theorem new_eq {x y width height : ℕ} (hx : area.x = x) (hy : area.y = y)
    (hwidth : area.width = width) (hheight : area.height = height) :
    Rect.new x y width height = .ok area := by
  subst hx hy hwidth hheight
  exact new_ok area.right_lt area.bottom_lt

theorem eq_of_new {x y width height : ℕ} (h : Rect.new x y width height = .ok area) :
    area.x = x ∧ area.y = y ∧ area.width = width ∧ area.height = height := by
  unfold Rect.new at h
  split at h
  · obtain rfl := Except.ok.inj h
    exact ⟨rfl, rfl, rfl, rfl⟩
  · cases h

/-- What is drawn in two areas that are apart. -/
theorem pairwise_apart_append {drawn drawn' : List Rect} (h : drawn.Pairwise Apart)
    (h' : drawn'.Pairwise Apart) (hin : ∀ r ∈ drawn, r.Within area)
    (hin' : ∀ r ∈ drawn', r.Within area') (hapart : area.Apart area') :
    (drawn ++ drawn').Pairwise Apart :=
  List.pairwise_append.2 ⟨h, h', fun r hr r' hr' => hapart.mono (hin r hr) (hin' r' hr')⟩

theorem Apart.symm (h : area.Apart area') : area'.Apart area :=
  fun cell hcell hcell' => h cell hcell' hcell

/-- What is drawn in any number of them. -/
theorem exists_within_of_mem_flatten {areas : List Rect} {drawn : List (List Rect)}
    (h : List.Forall₂ (fun area drawn => drawn.Pairwise Apart ∧ ∀ r ∈ drawn, r.Within area)
      areas drawn) : ∀ r ∈ drawn.flatten, ∃ area ∈ areas, r.Within area := by
  induction h with
  | nil => exact fun r hr => absurd hr List.not_mem_nil
  | cons hdrawn _ ih =>
    intro r hr
    rcases List.mem_append.1 hr with hr | hr
    · exact ⟨_, List.mem_cons_self, hdrawn.2 r hr⟩
    · obtain ⟨area, harea, hwithin⟩ := ih r hr
      exact ⟨area, List.mem_cons_of_mem _ harea, hwithin⟩

theorem within_flatten {areas : List Rect} {drawn : List (List Rect)}
    (h : List.Forall₂ (fun area drawn => drawn.Pairwise Apart ∧ ∀ r ∈ drawn, r.Within area)
      areas drawn) (hareas : ∀ r ∈ areas, r.Within area) :
    ∀ r ∈ drawn.flatten, r.Within area := fun r hr =>
  let ⟨area', harea', hwithin⟩ := exists_within_of_mem_flatten h r hr
  hwithin.trans (hareas area' harea')

theorem pairwise_apart_flatten {areas : List Rect} {drawn : List (List Rect)}
    (h : List.Forall₂ (fun area drawn => drawn.Pairwise Apart ∧ ∀ r ∈ drawn, r.Within area)
      areas drawn) (hareas : areas.Pairwise Apart) : drawn.flatten.Pairwise Apart := by
  induction h with
  | nil => exact .nil
  | cons hdrawn hrest ih =>
    obtain ⟨hfirst, hareas⟩ := List.pairwise_cons.1 hareas
    refine List.pairwise_append.2 ⟨hdrawn.1, ih hareas, fun r hr r' hr' => ?_⟩
    obtain ⟨area, harea, hwithin⟩ := exists_within_of_mem_flatten hrest r' hr'
    exact (hfirst area harea).mono (hdrawn.2 r hr) hwithin

theorem pairwise_apart_whole : [area].Pairwise Apart := List.pairwise_singleton _ _

theorem whole_within : ∀ r ∈ [area], r.Within area := fun r hr => by
  rw [List.mem_singleton.1 hr]
  exact .refl _

end Rect

namespace Axis

variable {axis : Axis} {area area' : Rect} {size size' : ℕ}

theorem before_within : (axis.before size area).Within area := by
  rintro ⟨x, y⟩ h
  cases axis <;>
    simp only [Rect.Has, before, Rect.narrow, Rect.shorten, Rect.right, Rect.bottom] at h ⊢ <;>
    omega

theorem after_within (h : axis.after size area = .ok area') : area'.Within area := by
  rintro ⟨x, y⟩ hcell
  cases axis <;> obtain ⟨hx, hy, hwidth, hheight⟩ := Rect.eq_of_new h <;>
    simp only [Rect.Has, Rect.right, Rect.bottom, hx, hy, hwidth, hheight] at hcell ⊢ <;> omega

theorem before_apart_after (hsize : size ≤ size') (h : axis.after size' area = .ok area') :
    (axis.before size area).Apart area' := by
  rintro ⟨x, y⟩ hcell hcell'
  cases axis <;> obtain ⟨hx, hy, hwidth, hheight⟩ := Rect.eq_of_new h <;>
    simp only [Rect.Has, before, Rect.narrow, Rect.shorten, Rect.right, Rect.bottom, hx, hy, hwidth,
      hheight] at hcell hcell' <;> omega

theorem exists_after (h : axis.start area + size < 2 ^ 16) :
    ∃ area', axis.after size area = .ok area' := by
  have hright := area.right_lt
  have hbottom := area.bottom_lt
  cases axis <;> simp only [start] at h
  · exact ⟨_, Rect.new_ok (by omega) (by omega)⟩
  · exact ⟨_, Rect.new_ok (by omega) (by omega)⟩

end Axis

/-! ## The law -/

/-- What an element keeps to. `Focus` says of a state whether it is one that holds the focus,
`Placed` that it was last resized to an area, `Draws` that it can be drawn there, and the data is
what only others than the UI change. -/
structure UIElement.Law {σ : Type} (element : UIElement σ) (κ : Type) where
  data : σ → κ
  /-- In how many places the focus is shown. -/
  marks : σ → ℕ
  Focus : Bool → σ → Prop
  Placed : Rect → σ → Prop
  /-- The areas that it may be given. -/
  Fits : Rect → Prop
  Draws : Rect → σ → Prop
  /-- Whether it always accepts the focus. -/
  Eager : Prop
  marks_eq : ∀ {b s}, Focus b s → marks s = b.toNat
  resize : ∀ {b s area}, Focus b s → Fits area →
    ∃ s', element.resize area s = .ok s' ∧ Focus b s' ∧ Placed area s' ∧ data s' = data s
  render_iff : ∀ {b s area}, Focus b s → Placed area s →
    ((∃ r, element.render area s = .ok r) ↔ Draws area s)
  render : ∀ {b s area drawn s'}, Focus b s → Placed area s →
    element.render area s = .ok (drawn, s') →
      Focus b s' ∧ Placed area s' ∧ data s' = data s
        ∧ drawn.Pairwise Rect.Apart ∧ ∀ r ∈ drawn, r.Within area
  /-- Events are offered to an element that holds the focus again when it has not handled them. -/
  handleEvent : ∀ {b c s} (event), (c = true → b = true) → Focus b s →
    ∃ status s', element.handleEvent event c s = .ok (status, s') ∧ Focus b s'
      ∧ (∀ area, Placed area s → Placed area s') ∧ data s' = data s
      ∧ (c = false → status.passes = false)
  receiveFocus : ∀ {s} (position), Focus false s →
    ∃ received s', element.receiveFocus position s = .ok (received, s') ∧ Focus received s'
      ∧ (∀ area, Placed area s → Placed area s') ∧ data s' = data s ∧ (Eager → received = true)
  focusLost : ∀ {s}, Focus true s →
    Focus false (element.focusLost s) ∧ (∀ area, Placed area s → Placed area (element.focusLost s))
      ∧ data (element.focusLost s) = data s

/-- And one that may be asked how large it would like to be, of so much room at most. -/
structure AutosizeUIElement.Law {σ : Type} (element : AutosizeUIElement σ) (maxWidth : ℕ) (κ : Type)
    extends UIElement.Law element.toUIElement κ where
  beginResize : ∀ {b s width} (height), width ≤ maxWidth → Focus b s →
    Focus b (element.beginResize width height s).2
      ∧ data (element.beginResize width height s).2 = data s
  beginResize_le : ∀ {s} (width height), (element.beginResize width height s).1.1 ≤ width

namespace UIElement.Law

variable {σ κ : Type} {element : UIElement σ} (law : element.Law κ) {b : Bool} {s s' : σ}
  {area : Rect} {drawn : List Rect}

theorem resizeVisible (area : Rect) (h : law.Focus b s) (hfits : ¬ area.isEmpty → law.Fits area) :
    ∃ s', element.resizeVisible area s = .ok s' ∧ law.Focus b s'
      ∧ (¬ area.isEmpty → law.Placed area s') ∧ law.data s' = law.data s := by
  unfold UIElement.resizeVisible
  split_ifs with hempty
  · exact ⟨s, rfl, h, fun hne => absurd hempty hne, rfl⟩
  · obtain ⟨s', hresize, hfocus, hplaced, hdata⟩ := law.resize h (hfits hempty)
    exact ⟨s', hresize, hfocus, fun _ => hplaced, hdata⟩

theorem renderVisible_iff (h : law.Focus b s) (hplaced : ¬ area.isEmpty → law.Placed area s) :
    (∃ r, element.renderVisible area s = .ok r) ↔ (¬ area.isEmpty → law.Draws area s) := by
  unfold UIElement.renderVisible
  split_ifs with hempty
  · exact iff_of_true ⟨_, rfl⟩ fun hne => absurd hempty hne
  · rw [law.render_iff h (hplaced hempty)]
    exact ⟨fun hdraws _ => hdraws, fun hdraws => hdraws hempty⟩

theorem renderVisible (h : law.Focus b s) (hplaced : ¬ area.isEmpty → law.Placed area s)
    (hrender : element.renderVisible area s = .ok (drawn, s')) :
    law.Focus b s' ∧ (¬ area.isEmpty → law.Placed area s') ∧ law.data s' = law.data s
      ∧ drawn.Pairwise Rect.Apart ∧ ∀ r ∈ drawn, r.Within area := by
  unfold UIElement.renderVisible at hrender
  split_ifs at hrender with hempty
  · obtain ⟨rfl, rfl⟩ := Prod.ext_iff.1 (Except.ok.inj hrender)
    exact ⟨h, fun hne => absurd hempty hne, rfl, .nil, fun r hr => absurd hr List.not_mem_nil⟩
  · obtain ⟨hfocus, hplaced', hrest⟩ := law.render h (hplaced hempty) hrender
    exact ⟨hfocus, fun _ => hplaced', hrest⟩

end UIElement.Law

/-! ## Single elements -/

/-- A text never takes the focus. -/
def TextLine.law (maxWidth : ℕ) : TextLine.element.Law maxWidth Unit where
  data _ := ()
  marks _ := 0
  Focus b _ := b = false
  Placed area line := line.currentWidth = area.width
  Fits _ := True
  Draws _ _ := True
  Eager := False
  marks_eq h := by rw [h]; rfl
  resize {b line area} h _ := by
    refine ⟨_, rfl, h, ?_, rfl⟩
    unfold TextLine.resize
    split_ifs with hwidth
    · exact hwidth.symm
    · rfl
  render_iff _ _ := iff_of_true ⟨_, rfl⟩ trivial
  render h hplaced hrender := by
    obtain ⟨rfl, rfl⟩ := Prod.ext_iff.1 (Except.ok.inj hrender)
    exact ⟨h, hplaced, rfl, Rect.pairwise_apart_whole, Rect.whole_within⟩
  handleEvent _ _ h := ⟨_, _, rfl, h, fun _ => id, rfl, fun _ => rfl⟩
  receiveFocus _ h := ⟨_, _, rfl, rfl, fun _ => id, rfl, False.elim⟩
  focusLost h := absurd h.symm Bool.false_ne_true
  beginResize _ _ h := ⟨h, rfl⟩
  beginResize_le _ _ := min_le_left _ _

theorem CenteredButton.handleEvent_kept {η : Type} (onPressed : ButtonHandler η) (event : UiEvent)
    (b : Bool) (button : CenteredButton η) :
    (button.handleEvent onPressed event b).2.isFocused = button.isFocused
      ∧ (button.handleEvent onPressed event b).2.currentPosition = button.currentPosition
      ∧ (button.handleEvent onPressed event b).2.currentWidth = button.currentWidth
      ∧ (b = false → (button.handleEvent onPressed event b).1.passes = false) := by
  unfold CenteredButton.handleEvent
  rcases event.pressed with _ | (c | _ | _ | code)
  · exact ⟨rfl, rfl, rfl, fun _ => rfl⟩
  · dsimp only
    split_ifs <;> exact ⟨rfl, rfl, rfl, fun _ => rfl⟩
  · exact ⟨rfl, rfl, rfl, fun _ => rfl⟩
  · exact ⟨rfl, rfl, rfl, fun _ => rfl⟩
  · dsimp only
    split_ifs with hb
    · refine ⟨?_, ?_, ?_, fun hfalse => absurd (hfalse.symm.trans hb) Bool.false_ne_true⟩ <;>
      · cases code with
        | enter =>
          rcases hresult : onPressed button.handler with ⟨_ | _ | _, handler⟩ <;>
            simp only [CenteredButton.handleKey, CenteredButton.press, hresult]
        | _ => rfl
    · exact ⟨rfl, rfl, rfl, fun _ => rfl⟩

/-- A button always does. -/
def CenteredButton.law {η : Type} (onPressed : ButtonHandler η) (maxWidth : ℕ) :
    (CenteredButton.element onPressed).Law maxWidth Unit where
  data _ := ()
  marks button := button.isFocused.toNat
  Focus b button := button.isFocused = b
  Placed area button := button.currentPosition = (area.x, area.y) ∧ button.currentWidth = area.width
  Fits _ := True
  Draws _ _ := True
  Eager := True
  marks_eq h := by rw [h]
  resize h _ := ⟨_, rfl, h, ⟨rfl, rfl⟩, rfl⟩
  render_iff _ _ := iff_of_true ⟨_, rfl⟩ trivial
  render h hplaced hrender := by
    obtain ⟨rfl, rfl⟩ := Prod.ext_iff.1 (Except.ok.inj hrender)
    exact ⟨h, hplaced, rfl, Rect.pairwise_apart_whole, Rect.whole_within⟩
  handleEvent {b c button} event _ h := by
    obtain ⟨hfocused, hposition, hwidth, hpasses⟩ := button.handleEvent_kept onPressed event c
    exact ⟨_, _, rfl, hfocused.trans h,
      fun _ hplaced => ⟨hposition.trans hplaced.1, hwidth.trans hplaced.2⟩, rfl, hpasses⟩
  receiveFocus _ _ := ⟨_, _, rfl, rfl, fun _ => id, rfl, fun _ => rfl⟩
  focusLost _ := ⟨rfl, fun _ => id, rfl⟩
  beginResize _ _ h := ⟨h, rfl⟩
  beginResize_le _ _ := min_le_left _ _

namespace ArrowSelector

variable {selector : ArrowSelector}

theorem handleKey_kept (code : KeyCode) :
    (selector.handleKey code).2.isFocused = selector.isFocused
      ∧ (selector.handleKey code).2.currentPosition = selector.currentPosition
      ∧ (selector.handleKey code).2.options = selector.options := by
  cases code <;> exact ⟨rfl, rfl, rfl⟩

theorem handleEvent_kept (event : InputEvent) (b : Bool) :
    (selector.handleEvent event b).2.isFocused = selector.isFocused
      ∧ (selector.handleEvent event b).2.currentPosition = selector.currentPosition
      ∧ (selector.handleEvent event b).2.options = selector.options
      ∧ (b = false → (selector.handleEvent event b).1.passes = false) := by
  rcases event with ⟨c | _ | _ | code, modifiers, isRelease⟩ | _
  case other => exact ⟨rfl, rfl, rfl, fun _ => rfl⟩
  all_goals simp only [ArrowSelector.handleEvent]
  · split_ifs
    · exact ⟨rfl, rfl, rfl, fun _ => rfl⟩
    · rcases (selector.indexOfChar c).filter (· ≠ selector.selectedIndex) with _ | index <;>
        exact ⟨rfl, rfl, rfl, fun _ => rfl⟩
  · split_ifs <;> exact ⟨rfl, rfl, rfl, fun _ => rfl⟩
  · split_ifs <;> exact ⟨rfl, rfl, rfl, fun _ => rfl⟩
  · obtain ⟨hfocused, hposition, hoptions⟩ := selector.handleKey_kept code
    split
    · exact ⟨rfl, rfl, rfl, fun _ => rfl⟩
    split
    · exact ⟨rfl, rfl, rfl, fun _ => rfl⟩
    rename_i hb
    have hpasses : ∀ status : HandleEventStatus, b = false → status.passes = false := by
      rintro _ rfl
      exact absurd rfl hb
    split
    · cases code with
      | left => dsimp only; split <;> exact ⟨rfl, rfl, rfl, hpasses _⟩
      | right => dsimp only; split <;> exact ⟨rfl, rfl, rfl, hpasses _⟩
      | esc => exact ⟨rfl, rfl, rfl, hpasses _⟩
      | _ => exact ⟨hfocused, hposition, hoptions, hpasses _⟩
    · exact ⟨hfocused, hposition, hoptions, hpasses _⟩

/-- As does an arrow selector. -/
def law (setStringn : SetStringn) (maxWidth : ℕ) :
    (element setStringn).Law maxWidth (List (StaticString × Option Char)) where
  data := options
  marks selector := selector.isFocused.toNat
  Focus b selector := selector.isFocused = b ∧ InRange selector
  Placed area selector := selector.currentPosition = (area.x, area.y)
  Fits _ := True
  Draws _ _ := True
  Eager := True
  marks_eq h := by rw [h.1]
  resize h _ := ⟨_, rfl, ⟨h.1, h.2.selected_lt, h.2.told_lt⟩, rfl, rfl⟩
  render_iff {b selector area} h _ := by
    obtain ⟨drawn, hdrawn⟩ := h.2.render (ε := Empty) setStringn area
    exact iff_of_true ⟨_, Ui.bind_ok hdrawn _⟩ trivial
  render {b selector area drawn selector'} h hplaced hrender := by
    obtain ⟨texts, htexts⟩ := h.2.render (ε := Empty) setStringn area
    obtain ⟨rfl, rfl⟩ :=
      Prod.ext_iff.1 (Except.ok.inj ((Ui.bind_ok htexts _).symm.trans hrender))
    exact ⟨h, hplaced, rfl, Rect.pairwise_apart_whole, Rect.whole_within⟩
  handleEvent {b c selector} event _ h := by
    obtain ⟨hfocused, hposition, hoptions, hpasses⟩ := selector.handleEvent_kept event.input c
    exact ⟨_, _, rfl, ⟨hfocused.trans h.1, h.2.handleEvent _ _⟩, fun _ => hposition.trans, hoptions,
      hpasses⟩
  receiveFocus _ h := ⟨_, _, rfl, ⟨rfl, h.2.selected_lt, h.2.told_lt⟩, fun _ => id, rfl,
    fun _ => rfl⟩
  focusLost h := ⟨⟨rfl, h.2.selected_lt, h.2.told_lt⟩, fun _ => id, rfl⟩
  beginResize _ _ h := ⟨h, rfl⟩
  beginResize_le _ _ := min_le_left _ _

end ArrowSelector

/-! ## Splits -/

namespace Split

variable {α β κ κ' : Type} {axis : Axis} {first : UIElement α} {second : UIElement β}
  (law : first.Law κ) (law' : second.Law κ') (Sizes : ℕ → ℕ → Prop)
  {b : Bool} {split split' : Split α β} {area : Rect} {position : ℕ × ℕ}

/-- The sizes are ones that a split may have where it is, and the focus is with one element. -/
structure Focus (axis : Axis) (b : Bool) (split : Split α β) : Prop where
  sizes : Sizes split.firstSize split.spaceBetween
  room : ∀ size space, Sizes size space →
    axis.start split.currentArea + size + space < 2 ^ 16
  first : law.Focus (b && !split.secondFocused) split.first
  second : law'.Focus (b && split.secondFocused) split.second

structure Placed (axis : Axis) (area : Rect) (split : Split α β) : Prop where
  currentArea : split.currentArea = area
  first : ¬ (axis.before split.firstSize area).isEmpty →
    law.Placed (axis.before split.firstSize area) split.first
  second : ∀ area', split.secondArea axis area = .ok area' → ¬ area'.isEmpty →
    law'.Placed area' split.second

/-- Whatever the sizes are, there is room for the first element and what is between the two. -/
structure Fits (axis : Axis) (area : Rect) : Prop where
  room : ∀ size space, Sizes size space → axis.start area + size + space < 2 ^ 16
  first : ∀ size space, Sizes size space → law.Fits (axis.before size area)
  second : ∀ size space area', Sizes size space → axis.after (size + space) area = .ok area' →
    law'.Fits area'

structure Draws (axis : Axis) (area : Rect) (split : Split α β) : Prop where
  first : ¬ (axis.before split.firstSize area).isEmpty →
    law.Draws (axis.before split.firstSize area) split.first
  second : ∀ area', split.secondArea axis area = .ok area' → ¬ area'.isEmpty →
    law'.Draws area' split.second

variable {law law' Sizes}

theorem secondArea_eq (h : split.firstSize + split.spaceBetween < 2 ^ 16) :
    split.secondArea axis area = axis.after (split.firstSize + split.spaceBetween) area :=
  Ui.bind_ok (addU16_ok h) _

theorem Focus.total_lt (h : Focus law law' Sizes axis b split) :
    axis.start split.currentArea + split.firstSize + split.spaceBetween < 2 ^ 16 :=
  h.room _ _ h.sizes

theorem Focus.secondArea_eq (h : Focus law law' Sizes axis b split) :
    split.secondArea axis area = axis.after (split.firstSize + split.spaceBetween) area :=
  Split.secondArea_eq (by have := h.total_lt; omega)

theorem Focus.resize (h : Focus law law' Sizes axis b split)
    (hfits : Fits law law' Sizes axis area) :
    ∃ split', split.resize axis first second area = .ok split'
      ∧ Focus law law' Sizes axis b split' ∧ Placed law law' axis area split'
      ∧ law.data split'.first = law.data split.first
      ∧ law'.data split'.second = law'.data split.second := by
  have hroom := hfits.room _ _ h.sizes
  rw [Nat.add_assoc] at hroom
  obtain ⟨s, hs, hfocus, hplaced, hdata⟩ := law.resize h.first (hfits.first _ _ h.sizes)
  obtain ⟨area', harea'⟩ := Axis.exists_after hroom
  obtain ⟨s', hs', hfocus', hplaced', hdata'⟩ :=
    law'.resize h.second (hfits.second _ _ _ h.sizes harea')
  refine ⟨{ split with first := s, second := s', currentArea := area }, ?_,
    ⟨h.sizes, hfits.room, hfocus, hfocus'⟩, ⟨rfl, fun _ => hplaced, ?_⟩, hdata, hdata'⟩
  · rw [Split.resize, Ui.bind_ok hs, Ui.bind_ok (h.secondArea_eq.trans harea'), Ui.bind_ok hs']
    rfl
  · intro area'' hsecond _
    obtain rfl := Except.ok.inj (hsecond.symm.trans (h.secondArea_eq.trans harea'))
    exact hplaced'

theorem Focus.exists_secondArea (h : Focus law law' Sizes axis b split)
    (hplaced : Placed law law' axis area split) :
    ∃ area', split.secondArea axis area = .ok area' := by
  have htotal := h.total_lt
  rw [hplaced.currentArea, Nat.add_assoc] at htotal
  obtain ⟨area', harea'⟩ := Axis.exists_after htotal
  exact ⟨area', h.secondArea_eq.trans harea'⟩

theorem Focus.render_iff (h : Focus law law' Sizes axis b split)
    (hplaced : Placed law law' axis area split) :
    (∃ r, split.render axis first second area = .ok r) ↔ Draws law law' axis area split := by
  obtain ⟨area', harea'⟩ := h.exists_secondArea hplaced
  have hfirst := law.renderVisible_iff h.first hplaced.first
  have hsecond := law'.renderVisible_iff h.second (hplaced.second _ harea')
  unfold Split.render
  constructor
  · rintro ⟨r, hr⟩
    rcases hs : first.renderVisible (axis.before split.firstSize area) split.first
      with e | ⟨drawn, s⟩
    · rw [hs] at hr
      cases hr
    rw [Ui.bind_ok hs] at hr
    dsimp only at hr
    rw [Ui.bind_ok harea'] at hr
    rcases hs' : second.renderVisible area' split.second with e | ⟨drawn', s'⟩
    · rw [hs'] at hr
      cases hr
    refine ⟨hfirst.1 ⟨_, hs⟩, fun area'' harea'' => ?_⟩
    obtain rfl := Except.ok.inj (harea''.symm.trans harea')
    exact hsecond.1 ⟨_, hs'⟩
  · intro hdraws
    obtain ⟨⟨drawn, s⟩, hs⟩ := hfirst.2 hdraws.first
    obtain ⟨⟨drawn', s'⟩, hs'⟩ := hsecond.2 (hdraws.second _ harea')
    rw [Ui.bind_ok hs]
    dsimp only
    rw [Ui.bind_ok harea', Ui.bind_ok hs']
    exact ⟨_, rfl⟩

theorem Focus.render {drawn : List Rect} (h : Focus law law' Sizes axis b split)
    (hplaced : Placed law law' axis area split)
    (hrender : split.render axis first second area = .ok (drawn, split')) :
    Focus law law' Sizes axis b split' ∧ Placed law law' axis area split'
      ∧ law.data split'.first = law.data split.first
      ∧ law'.data split'.second = law'.data split.second
      ∧ drawn.Pairwise Rect.Apart ∧ ∀ r ∈ drawn, r.Within area := by
  obtain ⟨area', harea'⟩ := h.exists_secondArea hplaced
  unfold Split.render at hrender
  rcases hs : first.renderVisible (axis.before split.firstSize area) split.first
    with e | ⟨drawn₁, s⟩
  · rw [hs] at hrender
    cases hrender
  rw [Ui.bind_ok hs] at hrender
  dsimp only at hrender
  rw [Ui.bind_ok harea'] at hrender
  rcases hs' : second.renderVisible area' split.second with e | ⟨drawn₂, s'⟩
  · rw [hs'] at hrender
    cases hrender
  rw [Ui.bind_ok hs'] at hrender
  obtain ⟨rfl, rfl⟩ := Prod.ext_iff.1 (Except.ok.inj hrender)
  obtain ⟨hfocus, hin, hdata, hapart, hwithin⟩ := law.renderVisible h.first hplaced.first hs
  obtain ⟨hfocus', hin', hdata', hapart', hwithin'⟩ :=
    law'.renderVisible h.second (hplaced.second _ harea') hs'
  have hafter := h.secondArea_eq.symm.trans harea'
  have hsecond := Axis.after_within hafter
  refine ⟨⟨h.sizes, h.room, hfocus, hfocus'⟩, ⟨hplaced.currentArea, hin, fun area'' harea'' => ?_⟩,
    hdata, hdata', ?_, fun r hr => ?_⟩
  · obtain rfl := Except.ok.inj (harea''.symm.trans harea')
    exact hin'
  · exact Rect.pairwise_apart_append hapart hapart' hwithin hwithin'
      (Axis.before_apart_after (Nat.le_add_right _ _) hafter)
  · rcases List.mem_append.1 hr with hr | hr
    · exact (hwithin r hr).trans Axis.before_within
    · exact (hwithin' r hr).trans hsecond

/-! ### Events -/

variable (law law') in
/-- What only changes in the elements, and there no more than events change. -/
structure Keeps (split split' : Split α β) : Prop where
  firstSize : split'.firstSize = split.firstSize
  spaceBetween : split'.spaceBetween = split.spaceBetween
  currentArea : split'.currentArea = split.currentArea
  placed : ∀ area, law.Placed area split.first → law.Placed area split'.first
  placed' : ∀ area, law'.Placed area split.second → law'.Placed area split'.second
  data : law.data split'.first = law.data split.first
  data' : law'.data split'.second = law'.data split.second

theorem Keeps.trans {split'' : Split α β} (h : Keeps law law' split split')
    (h' : Keeps law law' split' split'') : Keeps law law' split split'' where
  firstSize := h'.firstSize.trans h.firstSize
  spaceBetween := h'.spaceBetween.trans h.spaceBetween
  currentArea := h'.currentArea.trans h.currentArea
  placed area harea := h'.placed area (h.placed area harea)
  placed' area harea := h'.placed' area (h.placed' area harea)
  data := h'.data.trans h.data
  data' := h'.data'.trans h.data'

theorem Keeps.inPlace (h : Keeps law law' split split')
    (hplaced : Placed law law' axis area split) :
    Placed law law' axis area split' where
  currentArea := h.currentArea.trans hplaced.currentArea
  first hne := by
    rw [h.firstSize] at hne ⊢
    exact h.placed _ (hplaced.first hne)
  second area' harea' hne := by
    rw [secondArea, h.firstSize, h.spaceBetween] at harea'
    exact h.placed' _ (hplaced.second area' harea' hne)

theorem Focus.of_keeps {b' : Bool} (h : Focus law law' Sizes axis b split)
    (hkeeps : Keeps law law' split split')
    (hfirst : law.Focus (b' && !split'.secondFocused) split'.first)
    (hsecond : law'.Focus (b' && split'.secondFocused) split'.second) :
    Focus law law' Sizes axis b' split' where
  sizes := by
    rw [hkeeps.firstSize, hkeeps.spaceBetween]
    exact h.sizes
  room := by
    rw [hkeeps.currentArea]
    exact h.room
  first := hfirst
  second := hsecond

variable (law law') in
theorem handleFirst_ok {b c : Bool} (event : UiEvent) (hc : c = true → b = true)
    (h : law.Focus b split.first) :
    ∃ status s, split.handleFirst first event c = .ok (status, { split with first := s })
      ∧ law.Focus b s ∧ Keeps law law' split { split with first := s }
      ∧ (c = false → status.passes = false) := by
  obtain ⟨status, s, hs, hfocus, hplaced, hdata, hpasses⟩ := law.handleEvent event hc h
  exact ⟨status, s, Ui.bind_ok hs _, hfocus,
    ⟨rfl, rfl, rfl, hplaced, fun _ => id, hdata, rfl⟩, hpasses⟩

variable (law law') in
theorem handleSecond_ok {b c : Bool} (event : UiEvent) (hc : c = true → b = true)
    (h : law'.Focus b split.second) :
    ∃ status s, split.handleSecond second event c = .ok (status, { split with second := s })
      ∧ law'.Focus b s ∧ Keeps law law' split { split with second := s }
      ∧ (c = false → status.passes = false) := by
  obtain ⟨status, s, hs, hfocus, hplaced, hdata, hpasses⟩ := law'.handleEvent event hc h
  exact ⟨status, s, Ui.bind_ok hs _, hfocus,
    ⟨rfl, rfl, rfl, fun _ => id, hplaced, rfl, hdata⟩, hpasses⟩

variable (law law') in
theorem offerFirst_ok (position : ℕ × ℕ) (h : law.Focus false split.first) :
    ∃ received s, split.offerFirst first position
        = .ok (received, { split with
            first := s, secondFocused := split.secondFocused && !received })
      ∧ law.Focus received s ∧ Keeps law law' split { split with
        first := s, secondFocused := split.secondFocused && !received }
      ∧ (law.Eager → received = true) := by
  obtain ⟨received, s, hs, hfocus, hplaced, hdata, heager⟩ := law.receiveFocus position h
  exact ⟨received, s, Ui.bind_ok hs _, hfocus,
    ⟨rfl, rfl, rfl, hplaced, fun _ => id, hdata, rfl⟩, heager⟩

variable (law law') in
theorem offerSecond_ok (position : ℕ × ℕ) (h : law'.Focus false split.second) :
    ∃ received s, split.offerSecond second position
        = .ok (received, { split with
            second := s, secondFocused := split.secondFocused || received })
      ∧ law'.Focus received s ∧ Keeps law law' split { split with
        second := s, secondFocused := split.secondFocused || received }
      ∧ (law'.Eager → received = true) := by
  obtain ⟨received, s, hs, hfocus, hplaced, hdata, heager⟩ := law'.receiveFocus position h
  exact ⟨received, s, Ui.bind_ok hs _, hfocus,
    ⟨rfl, rfl, rfl, fun _ => id, hplaced, rfl, hdata⟩, heager⟩

/-- An event that is not for the element that has the focus. -/
theorem Focus.handleEvent_unfocused (h : Focus law law' Sizes axis b split) (event : UiEvent) :
    ∃ status split', split.handleEvent axis first second event false = .ok (status, split')
      ∧ Focus law law' Sizes axis b split' ∧ Keeps law law' split split'
      ∧ status.passes = false := by
  obtain ⟨status, s, hs, hfocus, hkeeps, hpasses⟩ :=
    handleFirst_ok (c := false) law law' event nofun h.first
  have hsecond : law'.Focus (b && split.secondFocused) { split with first := s }.second := h.second
  simp only [Split.handleEvent, Bool.not_false, if_true]
  rw [Ui.bind_ok hs]
  dsimp only
  split_ifs with hstatus
  · obtain ⟨status', s', hs', hfocus', hkeeps', hpasses'⟩ :=
      handleSecond_ok (c := false) law law' event nofun hsecond
    exact ⟨status', _, hs', h.of_keeps (hkeeps.trans hkeeps') hfocus hfocus',
      hkeeps.trans hkeeps', hpasses' rfl⟩
  · exact ⟨status, _, rfl, h.of_keeps hkeeps hfocus hsecond, hkeeps, hpasses rfl⟩

/-- An event while the first element holds the focus: it may be passed forwards. -/
theorem Focus.handleEvent_first (h : Focus law law' Sizes axis true split)
    (hfocused : split.secondFocused = false) (event : UiEvent) :
    ∃ status split', split.handleEvent axis first second event true = .ok (status, split')
      ∧ Focus law law' Sizes axis true split' ∧ Keeps law law' split split' := by
  have hfirst : law.Focus true split.first := by simpa [hfocused] using h.first
  have hsecond : law'.Focus false split.second := by simpa [hfocused] using h.second
  obtain ⟨status, s, hs, hfocus, hkeeps, -⟩ := handleFirst_ok law law' event id hfirst
  have hsecond' : law'.Focus false { split with first := s }.second := hsecond
  have hstay : Focus law law' Sizes axis true { split with first := s } :=
    h.of_keeps hkeeps (by rw [hfocused]; exact hfocus) (by rw [hfocused]; exact hsecond')
  simp only [Split.handleEvent, Bool.not_true, Bool.false_eq_true, if_false, hfocused,
    Bool.not_false, if_true]
  rw [Ui.bind_ok hs]
  dsimp only
  rcases status with _ | _ | ⟨position, direction⟩
  · exact ⟨_, _, rfl, hstay, hkeeps⟩
  · obtain ⟨status', s', hs', hfocus', hkeeps', -⟩ := handleSecond_ok law law' event id hsecond'
    exact ⟨status', _, hs', hstay.of_keeps hkeeps' (by rw [hfocused]; exact hfocus)
      (by rw [hfocused]; exact hfocus'), hkeeps.trans hkeeps'⟩
  · dsimp only
    split_ifs
    · obtain ⟨received, s', hs', hfocus', hkeeps', -⟩ := offerSecond_ok law law' position hsecond'
      rw [Ui.bind_ok hs']
      cases received with
      | false =>
        refine ⟨_, _, rfl, hstay.of_keeps hkeeps' ?_ ?_, hkeeps.trans hkeeps'⟩
        · simpa [hfocused] using hfocus
        · simpa [hfocused] using hfocus'
      | true =>
        obtain ⟨hlost, hplaced, hdata⟩ := law.focusLost hfocus
        have hpassed : Keeps law law' { split with first := s } { split with
            first := first.focusLost s, second := s',
            secondFocused := split.secondFocused || true } :=
          hkeeps'.trans ⟨rfl, rfl, rfl, hplaced, fun _ => id, hdata, rfl⟩
        refine ⟨_, _, rfl, hstay.of_keeps hpassed ?_ ?_, hkeeps.trans hpassed⟩
        · simpa [hfocused] using hlost
        · simpa [hfocused] using hfocus'
    · exact ⟨_, _, rfl, hstay, hkeeps⟩

/-- And while the second one does: it may be passed backwards. -/
theorem Focus.handleEvent_second (h : Focus law law' Sizes axis true split)
    (hfocused : split.secondFocused = true) (event : UiEvent) :
    ∃ status split', split.handleEvent axis first second event true = .ok (status, split')
      ∧ Focus law law' Sizes axis true split' ∧ Keeps law law' split split' := by
  have hfirst : law.Focus false split.first := by simpa [hfocused] using h.first
  have hsecond : law'.Focus true split.second := by simpa [hfocused] using h.second
  obtain ⟨status, s, hs, hfocus, hkeeps, -⟩ := handleSecond_ok law law' event id hsecond
  have hfirst' : law.Focus false { split with second := s }.first := hfirst
  have hstay : Focus law law' Sizes axis true { split with second := s } :=
    h.of_keeps hkeeps (by rw [hfocused]; exact hfirst') (by rw [hfocused]; exact hfocus)
  simp only [Split.handleEvent, Bool.not_true, Bool.false_eq_true, if_false, hfocused]
  rw [Ui.bind_ok hs]
  dsimp only
  rcases status with _ | _ | ⟨position, direction⟩
  · exact ⟨_, _, rfl, hstay, hkeeps⟩
  · obtain ⟨status', s', hs', hfocus', hkeeps', -⟩ := handleFirst_ok law law' event id hfirst'
    exact ⟨status', _, hs', hstay.of_keeps hkeeps' (by rw [hfocused]; exact hfocus')
      (by rw [hfocused]; exact hfocus), hkeeps.trans hkeeps'⟩
  · dsimp only
    split_ifs
    · obtain ⟨received, s', hs', hfocus', hkeeps', -⟩ := offerFirst_ok law law' position hfirst'
      rw [Ui.bind_ok hs']
      cases received with
      | false =>
        refine ⟨_, _, rfl, hstay.of_keeps hkeeps' ?_ ?_, hkeeps.trans hkeeps'⟩
        · simpa [hfocused] using hfocus'
        · simpa [hfocused] using hfocus
      | true =>
        obtain ⟨hlost, hplaced, hdata⟩ := law'.focusLost hfocus
        have hpassed : Keeps law law' { split with second := s } { split with
            first := s', second := second.focusLost s,
            secondFocused := split.secondFocused && !true } :=
          hkeeps'.trans ⟨rfl, rfl, rfl, fun _ => id, hplaced, rfl, hdata⟩
        refine ⟨_, _, rfl, hstay.of_keeps hpassed ?_ ?_, hkeeps.trans hpassed⟩
        · simpa [hfocused] using hfocus'
        · simpa [hfocused] using hlost
    · exact ⟨_, _, rfl, hstay, hkeeps⟩

theorem Focus.handleEvent {c : Bool} (h : Focus law law' Sizes axis b split) (event : UiEvent)
    (hc : c = true → b = true) :
    ∃ status split', split.handleEvent axis first second event c = .ok (status, split')
      ∧ Focus law law' Sizes axis b split' ∧ Keeps law law' split split'
      ∧ (c = false → status.passes = false) := by
  cases c with
  | false =>
    obtain ⟨status, split', hevent, hfocus, hkeeps, hpasses⟩ := h.handleEvent_unfocused event
    exact ⟨status, split', hevent, hfocus, hkeeps, fun _ => hpasses⟩
  | true =>
    obtain rfl := hc rfl
    rcases hfocused : split.secondFocused with _ | _
    · obtain ⟨status, split', hevent, hfocus, hkeeps⟩ := h.handleEvent_first hfocused event
      exact ⟨status, split', hevent, hfocus, hkeeps, nofun⟩
    · obtain ⟨status, split', hevent, hfocus, hkeeps⟩ := h.handleEvent_second hfocused event
      exact ⟨status, split', hevent, hfocus, hkeeps, nofun⟩

/-- The focus is offered to one element, and if that refuses it to the other. -/
theorem Focus.receiveFocus (h : Focus law law' Sizes axis false split) (position : ℕ × ℕ) :
    ∃ received split', split.receiveFocus axis first second position = .ok (received, split')
      ∧ Focus law law' Sizes axis received split' ∧ Keeps law law' split split'
      ∧ (law.Eager ∨ law'.Eager → received = true) := by
  have htotal := h.total_lt
  have hfirst : law.Focus false split.first := h.first
  have hsecond : law'.Focus false split.second := h.second
  rw [Split.receiveFocus, Ui.bind_ok (addU16_ok (by omega)), Ui.bind_ok (addU16_ok (by omega))]
  split_ifs
  · obtain ⟨received, s, hs, hfocus, hkeeps, heager⟩ := offerFirst_ok law law' position hfirst
    rw [Ui.bind_ok hs]
    cases received with
    | true =>
      refine ⟨true, _, rfl, h.of_keeps hkeeps ?_ ?_, hkeeps, fun _ => rfl⟩
      · simpa using hfocus
      · simpa using hsecond
    | false =>
      have hsecond' : law'.Focus false { split with
          first := s, secondFocused := split.secondFocused && !false }.second := hsecond
      obtain ⟨received, s', hs', hfocus', hkeeps', heager'⟩ :=
        offerSecond_ok law law' position hsecond'
      refine ⟨received, _, hs', h.of_keeps (hkeeps.trans hkeeps') ?_ ?_, hkeeps.trans hkeeps', ?_⟩
      · cases received <;> simpa using hfocus
      · cases received <;> simpa using hfocus'
      · rintro (hfirst | hsecond)
        · exact absurd (heager hfirst) Bool.false_ne_true
        · exact heager' hsecond
  · obtain ⟨received, s, hs, hfocus, hkeeps, heager⟩ := offerSecond_ok law law' position hsecond
    rw [Ui.bind_ok hs]
    cases received with
    | true =>
      refine ⟨true, _, rfl, h.of_keeps hkeeps ?_ ?_, hkeeps, fun _ => rfl⟩
      · simpa using hfirst
      · simpa using hfocus
    | false =>
      have hfirst' : law.Focus false { split with
          second := s, secondFocused := split.secondFocused || false }.first := hfirst
      obtain ⟨received, s', hs', hfocus', hkeeps', heager'⟩ :=
        offerFirst_ok law law' position hfirst'
      refine ⟨received, _, hs', h.of_keeps (hkeeps.trans hkeeps') ?_ ?_, hkeeps.trans hkeeps', ?_⟩
      · cases received <;> simpa using hfocus'
      · cases received <;> simpa using hfocus
      · rintro (hfirst | hsecond)
        · exact heager' hfirst
        · exact absurd (heager hsecond) Bool.false_ne_true

theorem Focus.focusLost (h : Focus law law' Sizes axis true split) :
    Focus law law' Sizes axis false (split.focusLost first second)
      ∧ Keeps law law' split (split.focusLost first second) := by
  unfold Split.focusLost
  split_ifs with hfocused
  · have hfirst : law.Focus false split.first := by simpa [hfocused] using h.first
    obtain ⟨hlost, hplaced, hdata⟩ := law'.focusLost (by simpa [hfocused] using h.second)
    have hkeeps : Keeps law law' split { split with second := second.focusLost split.second } :=
      ⟨rfl, rfl, rfl, fun _ => id, hplaced, rfl, hdata⟩
    exact ⟨h.of_keeps hkeeps hfirst hlost, hkeeps⟩
  · have hsecond : law'.Focus false split.second := by simpa [hfocused] using h.second
    obtain ⟨hlost, hplaced, hdata⟩ := law.focusLost (by simpa [hfocused] using h.first)
    have hkeeps : Keeps law law' split { split with first := first.focusLost split.first } :=
      ⟨rfl, rfl, rfl, hplaced, fun _ => id, hdata, rfl⟩
    exact ⟨h.of_keeps hkeeps hlost hsecond, hkeeps⟩

theorem Focus.marks_eq (h : Focus law law' Sizes axis b split) :
    law.marks split.first + law'.marks split.second = b.toNat := by
  rw [law.marks_eq h.first, law'.marks_eq h.second]
  cases b <;> cases split.secondFocused <;> rfl

theorem Placed.with_currentArea (h : Placed law law' axis area split) :
    { split with currentArea := area } = split := by
  rw [← h.currentArea]

end Split

/-- A split keeps to the rules if its elements do and its sizes stay among `Sizes`. -/
def Split.law {α β κ κ' : Type} (axis : Axis) {first : UIElement α} {second : UIElement β}
    (law : first.Law κ) (law' : second.Law κ') (Sizes : ℕ → ℕ → Prop) :
    (Split.element axis first second).Law (κ × κ') where
  data split := (law.data split.first, law'.data split.second)
  marks split := law.marks split.first + law'.marks split.second
  Focus := Split.Focus law law' Sizes axis
  Placed := Split.Placed law law' axis
  Fits := Split.Fits law law' Sizes axis
  Draws := Split.Draws law law' axis
  Eager := law.Eager ∨ law'.Eager
  marks_eq h := h.marks_eq
  resize h hfits := by
    obtain ⟨split', hresize, hfocus, hplaced, hdata, hdata'⟩ := h.resize hfits
    exact ⟨split', hresize, hfocus, hplaced, Prod.ext hdata hdata'⟩
  render_iff h hplaced := h.render_iff hplaced
  render h hplaced hrender := by
    obtain ⟨hfocus, hplaced', hdata, hdata', hdrawn⟩ := h.render hplaced hrender
    exact ⟨hfocus, hplaced', Prod.ext hdata hdata', hdrawn⟩
  handleEvent event hc h := by
    obtain ⟨status, split', hevent, hfocus, hkeeps, hpasses⟩ := h.handleEvent event hc
    exact ⟨status, split', hevent, hfocus, fun _ => hkeeps.inPlace,
      Prod.ext hkeeps.data hkeeps.data', hpasses⟩
  receiveFocus position h := by
    obtain ⟨received, split', hreceive, hfocus, hkeeps, heager⟩ := h.receiveFocus position
    exact ⟨received, split', hreceive, hfocus, fun _ => hkeeps.inPlace,
      Prod.ext hkeeps.data hkeeps.data', heager⟩
  focusLost h := by
    obtain ⟨hfocus, hkeeps⟩ := h.focusLost
    exact ⟨hfocus, fun _ => hkeeps.inPlace, Prod.ext hkeeps.data hkeeps.data'⟩

namespace HorizontalSplit

variable {α β κ κ' : Type} {maxWidth space : ℕ}

/-- The left width is one that the left element asked for. -/
def Sizes (maxWidth space : ℕ) (leftWidth spaceBetween : ℕ) : Prop :=
  leftWidth ≤ maxWidth ∧ spaceBetween = space

def law {left : UIElement α} {right : UIElement β} (law : left.Law κ) (law' : right.Law κ')
    (maxWidth space : ℕ) : (element left right).Law (κ × κ') :=
  { Split.law .horizontal law law' (Sizes maxWidth space) with
    render_iff := fun {b split area} h hplaced => by
      have hsame : (element left right).render area split
          = Split.render .horizontal left right area split := by
        show Split.render .horizontal left right area { split with currentArea := area } = _
        rw [hplaced.with_currentArea]
      rw [hsame]
      exact h.render_iff hplaced
    render := fun {b split area drawn split'} h hplaced hrender => by
      have hsame : (element left right).render area split
          = Split.render .horizontal left right area split := by
        show Split.render .horizontal left right area { split with currentArea := area } = _
        rw [hplaced.with_currentArea]
      rw [hsame] at hrender
      exact (Split.law .horizontal law law' (Sizes maxWidth space)).render h hplaced hrender }

def autosizeLaw {left : AutosizeUIElement α} {right : AutosizeUIElement β}
    (law : left.Law maxWidth κ) (law' : right.Law maxWidth κ') (space : ℕ) :
    (autosizeElement left right).Law maxWidth (κ × κ') :=
  { HorizontalSplit.law law.toLaw law'.toLaw maxWidth space with
    beginResize := fun {b split width} height hwidth h => by
      obtain ⟨hfirst, hdata⟩ := law.beginResize height hwidth h.first
      have hle := law.beginResize_le (s := split.first) width height
      rcases hleft : left.beginResize width height split.first with ⟨⟨leftWidth, leftHeight⟩, s⟩
      simp only [hleft] at hfirst hdata hle
      simp only [autosizeElement, hleft]
      split_ifs
      · exact ⟨⟨⟨hle.trans hwidth, h.sizes.2⟩, h.room, hfirst, h.second⟩, Prod.ext hdata rfl⟩
      · have hwidth' : width - leftWidth - split.spaceBetween ≤ maxWidth := by omega
        obtain ⟨hsecond, hdata'⟩ := law'.beginResize height hwidth' h.second
        exact ⟨⟨⟨hle.trans hwidth, h.sizes.2⟩, h.room, hfirst, hsecond⟩, Prod.ext hdata hdata'⟩
    beginResize_le := fun width height => min_le_left _ _ }

end HorizontalSplit

/-! ## Focus cells -/

namespace FocusCell

variable {σ κ : Type} {inner : UIElement σ} {law : inner.Law κ} {cell cell' : FocusCell σ}

variable (law) in
/-- What only changes as events change it. -/
structure Keeps (cell cell' : FocusCell σ) : Prop where
  currentArea : cell'.currentArea = cell.currentArea
  placed : ∀ area, law.Placed area cell.inner → law.Placed area cell'.inner
  data : law.data cell'.inner = law.data cell.inner

theorem takeBack_ok (h : law.Focus false cell.inner) (hfocused : cell.isInnerFocused = false)
    (event : UiEvent) :
    ∃ status cell', cell.takeBack inner event = .ok (status, cell')
      ∧ law.Focus cell'.isInnerFocused cell'.inner ∧ Keeps law cell cell' := by
  have hstay : ∃ status cell', (pure (.unhandled, cell) : Ui (HandleEventStatus × FocusCell σ))
      = .ok (status, cell') ∧ law.Focus cell'.isInnerFocused cell'.inner ∧ Keeps law cell cell' :=
    ⟨_, _, rfl, by rw [hfocused]; exact h, rfl, fun _ => id, rfl⟩
  unfold takeBack
  rcases event.pressed with _ | (_ | _ | _ | code)
  · exact hstay
  · exact hstay
  · exact hstay
  · exact hstay
  · dsimp only
    by_cases htakes : takesFocus code = true
    · rw [if_pos htakes]
      obtain ⟨received, s, hs, hfocus, hplaced, hdata, -⟩ :=
        law.receiveFocus (if code = .left then cell.currentArea.right else cell.currentArea.x, 0) h
      rw [Ui.bind_ok hs]
      exact ⟨_, _, rfl, hfocus, rfl, hplaced, hdata⟩
    · rw [if_neg htakes]
      exact hstay

/-- The inner element has the focus exactly while the cell says so. -/
theorem handleEvent_ok (heager : law.Eager) (h : law.Focus cell.isInnerFocused cell.inner)
    (event : UiEvent) :
    ∃ status cell', cell.handleEvent inner event true = .ok (status, cell')
      ∧ law.Focus cell'.isInnerFocused cell'.inner ∧ Keeps law cell cell' := by
  obtain ⟨status, s, hs, hfocus, hplaced, hdata, hpasses⟩ := law.handleEvent event id h
  have hkeeps : Keeps law cell { cell with inner := s } := ⟨rfl, hplaced, hdata⟩
  have hpassed (hpass : status.passes = true) :
      cell.isInnerFocused = true ∧ law.Focus false (inner.focusLost s)
        ∧ Keeps law cell { cell with inner := inner.focusLost s, isInnerFocused := false } := by
    rcases hinner : cell.isInnerFocused with _ | _
    · exact absurd ((hpasses hinner).symm.trans hpass) Bool.false_ne_true
    · obtain ⟨hlost, hplaced', hdata'⟩ := law.focusLost (hinner ▸ hfocus)
      exact ⟨rfl, hlost, rfl, fun area harea => hplaced' area (hplaced area harea),
        hdata'.trans hdata⟩
  rw [FocusCell.handleEvent, Bool.true_and, Ui.bind_ok hs]
  dsimp only
  rcases status with _ | _ | ⟨position, direction⟩
  · exact ⟨_, _, rfl, hfocus, hkeeps⟩
  · dsimp only
    split_ifs with hinner
    · exact ⟨_, _, rfl, hfocus, hkeeps⟩
    · rw [Bool.not_eq_true] at hinner
      have hrests : law.Focus false { cell with inner := s }.inner := hinner ▸ hfocus
      obtain ⟨status, cell', hcell', hfocus', hkeeps'⟩ := takeBack_ok hrests hinner event
      exact ⟨status, cell', hcell', hfocus', hkeeps'.currentArea,
        fun area harea => hkeeps'.placed area (hkeeps.placed area harea),
        hkeeps'.data.trans hkeeps.data⟩
  · obtain ⟨hinner, hlost, hkeeps'⟩ := hpassed rfl
    cases direction with
    | away => exact ⟨_, _, rfl, hlost, hkeeps'⟩
    | forward =>
      obtain ⟨received, s', hs', hfocus', hplaced', hdata', haccepts⟩ :=
        law.receiveFocus (0, 0) hlost
      dsimp only
      rw [Ui.bind_ok hs']
      refine ⟨_, _, rfl, ?_, rfl, fun area harea => hplaced' area (hkeeps'.placed area harea),
        hdata'.trans hkeeps'.data⟩
      rw [haccepts heager] at hfocus'
      dsimp only
      rw [hinner]
      exact hfocus'
    | _ => exact ⟨_, _, rfl, hfocus, hkeeps⟩

theorem focusLost_ok (h : law.Focus cell.isInnerFocused cell.inner) :
    (cell.focusLost inner).isInnerFocused = false ∧ law.Focus false (cell.focusLost inner).inner
      ∧ Keeps law cell (cell.focusLost inner) := by
  unfold focusLost
  split_ifs with hinner
  · obtain ⟨hlost, hplaced, hdata⟩ := law.focusLost (hinner ▸ h)
    exact ⟨rfl, hlost, rfl, hplaced, hdata⟩
  · rw [Bool.not_eq_true] at hinner
    exact ⟨hinner, hinner ▸ h, rfl, fun _ => id, rfl⟩

end FocusCell

end DustDevil
