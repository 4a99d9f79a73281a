import DustDevil.Client.MenuBar
import DustDevil.Proofs.PrettyPrint
import DustDevil.Proofs.UiElement

/-!
# The menu bar keeps to the rules

Whatever its background tasks make of its labels, the entries of the menu bar are one after the
other within its width, and exactly one of them is focused while it has the focus (`MenuBar.law`).
-/

namespace DustDevil

open Wire

theorem length_utf8_le (s : Str) : (utf8 s).length ≤ 4 * s.length := by
  induction s with
  | nil => exact le_rfl
  | cons c s ih =>
    have hc : (String.utf8EncodeChar c).length ≤ 4 :=
      String.length_utf8EncodeChar c ▸ c.utf8Size_le_four
    rw [utf8_cons, List.length_append, List.length_cons]
    omega

/-- Areas from left to right. -/
theorem Rect.pairwise_apart_of_isChain {drawn : List Rect}
    (h : drawn.IsChain fun area area' => area.right ≤ area'.x) : drawn.Pairwise Rect.Apart := by
  have htrans : Trans (fun area area' : Rect => area.right ≤ area'.x)
      (fun area area' : Rect => area.right ≤ area'.x)
      fun area area' : Rect => area.right ≤ area'.x :=
    ⟨fun {a b c} hab hbc => hab.trans ((Nat.le_add_right b.x b.width).trans hbc)⟩
  refine (List.isChain_iff_pairwise.1 h).imp fun {area area'} hle cell hcell hcell' => ?_
  exact absurd (hcell.2.1.trans_le (hle.trans hcell'.1)) (lt_irrefl _)

namespace MenuBar

variable {b : Bool} {bar : MenuBar} {area : Rect}

/-- The entries begin one after the other. -/
def Ordered (bar : MenuBar) : Prop :=
  bar.socks5AreaX ≤ bar.sandstormAreaX ∧ bar.sandstormAreaX ≤ bar.usersAreaX
    ∧ bar.usersAreaX ≤ bar.authAreaX ∧ bar.authAreaX ≤ bar.bufferAreaX
    ∧ bar.bufferAreaX ≤ bar.extraAreaX ∧ bar.extraAreaX ≤ bar.pingAreaX
    ∧ bar.pingAreaX ≤ bar.currentArea.width

structure Focus (b : Bool) (bar : MenuBar) : Prop where
  focused : bar.focusedElement ≠ .none ↔ b = true
  ordered : Ordered bar
  x_eq : bar.currentArea.x = 0
  bufferLabel : bar.bufferLabel.length ≤ 10
  pingLabel : bar.pingLabel.length ≤ 7

theorem focus_new : Focus false new where
  focused := iff_of_false (fun hne => hne rfl) Bool.false_ne_true
  ordered := ⟨le_rfl, le_rfl, le_rfl, le_rfl, le_rfl, le_rfl, le_rfl⟩
  x_eq := rfl
  bufferLabel := by decide
  pingLabel := by decide

/-! ## Areas -/

theorem nextAreaX_ok {x width : ℕ} {label : Str} (h : x + 4 * label.length + 3 < 2 ^ 16) :
    nextAreaX x label width = .ok (min (x + (utf8 label).length + 3) width) := by
  have hle := length_utf8_le label
  have hlen : lenU16 label = (utf8 label).length := Nat.mod_eq_of_lt (by omega)
  rw [nextAreaX, hlen, Ui.bind_ok (addU16_ok (by omega)), Ui.bind_ok (addU16_ok (by omega))]
  rfl

theorem Focus.doResize (h : Focus b bar) (hx : area.x = 0) :
    ∃ bar', bar.doResize area = .ok bar' ∧ Focus b bar' ∧ bar'.currentArea = area := by
  have hshutdown : shutdownLabel.length = 12 := by decide
  have hsocks5 : socks5Label.length = 10 := by decide
  have hsandstorm : sandstormLabel.length = 13 := by decide
  have husers : usersLabel.length = 9 := by decide
  have hauth : authLabel.length = 8 := by decide
  have hutf8 := length_utf8_le shutdownLabel
  have hutf8' := length_utf8_le socks5Label
  have hutf8'' := length_utf8_le sandstormLabel
  have hutf8''' := length_utf8_le usersLabel
  have hutf8'''' := length_utf8_le authLabel
  have hbuffer := length_utf8_le bar.bufferLabel
  have hbuffer' := h.bufferLabel
  have hping := h.pingLabel
  have hmod : bar.pingLabel.length % 2 ^ 16 = bar.pingLabel.length := Nat.mod_eq_of_lt (by omega)
  unfold MenuBar.doResize
  rw [Ui.bind_ok (nextAreaX_ok (by omega)), Ui.bind_ok (nextAreaX_ok (by omega)),
    Ui.bind_ok (nextAreaX_ok (by omega)), Ui.bind_ok (nextAreaX_ok (by omega)),
    Ui.bind_ok (nextAreaX_ok (by omega)), Ui.bind_ok (nextAreaX_ok (by omega)),
    Ui.bind_ok (subU16_ok (by omega)), Ui.bind_ok (addU16_ok (by omega)),
    Ui.bind_ok (subU16_ok (by omega))]
  refine ⟨_, rfl, ⟨h.focused, ?_, hx, h.bufferLabel, h.pingLabel⟩, rfl⟩
  simp only [Ordered]
  omega

theorem Focus.entryArea_ok (h : Focus b bar) {x next : ℕ} (hnext : x ≤ next)
    (hwidth : next ≤ bar.currentArea.width) :
    ∃ r, bar.entryArea x next = .ok r ∧ r.x = x ∧ r.right = next ∧ r.y = bar.currentArea.y
      ∧ r.height = bar.currentArea.height := by
  have hright := bar.currentArea.right_lt
  have hx := h.x_eq
  rw [entryArea, Ui.bind_ok (addU16_ok (by omega)), hx, Nat.zero_add]
  refine ⟨_, Rect.new_ok (by omega) bar.currentArea.bottom_lt, rfl, ?_, rfl, rfl⟩
  rw [Rect.right]
  dsimp only
  omega

theorem Focus.areas_ok (h : Focus b bar) :
    ∃ areas, bar.areas = .ok areas ∧ areas.Pairwise Rect.Apart
      ∧ ∀ r ∈ areas, r.Within bar.currentArea := by
  obtain ⟨hsocks5, hsandstorm, husers, hauth, hbuffer, hextra, hping⟩ := h.ordered
  have hx := h.x_eq
  have hright : bar.currentArea.right = bar.currentArea.width := by
    rw [Rect.right, hx, Nat.zero_add]
  have hextra' := hextra.trans hping
  have hbuffer' := hbuffer.trans hextra'
  have hauth' := hauth.trans hbuffer'
  have husers' := husers.trans hauth'
  have hsandstorm' := hsandstorm.trans husers'
  obtain ⟨r₁, hr₁, hx₁, hright₁, hy₁⟩ := h.entryArea_ok (Nat.zero_le _) (hsocks5.trans hsandstorm')
  obtain ⟨r₂, hr₂, hx₂, hright₂, hy₂⟩ := h.entryArea_ok hsocks5 hsandstorm'
  obtain ⟨r₃, hr₃, hx₃, hright₃, hy₃⟩ := h.entryArea_ok hsandstorm husers'
  obtain ⟨r₄, hr₄, hx₄, hright₄, hy₄⟩ := h.entryArea_ok husers hauth'
  obtain ⟨r₅, hr₅, hx₅, hright₅, hy₅⟩ := h.entryArea_ok hauth hbuffer'
  obtain ⟨r₆, hr₆, hx₆, hright₆, hy₆⟩ := h.entryArea_ok hbuffer hextra'
  obtain ⟨r₇, hr₇, hx₇, hright₇, hy₇⟩ := h.entryArea_ok hextra hping
  have hlast : bar.pingAreaX ≤ bar.currentArea.right := hright ▸ hping
  obtain ⟨r₈, hr₈, hx₈, hright₈, hy₈⟩ := h.entryArea_ok hlast hright.le
  have hin {r : Rect} (hle : r.right ≤ bar.currentArea.width)
      (hy : r.y = bar.currentArea.y ∧ r.height = bar.currentArea.height) :
      r.Within bar.currentArea := by
    rintro ⟨x, y⟩ ⟨hcell, hcell', hrow, hrow'⟩
    refine ⟨hx ▸ Nat.zero_le _, hright ▸ hcell'.trans_le hle, hy.1 ▸ hrow, ?_⟩
    rwa [Rect.bottom, ← hy.1, ← hy.2]
  refine ⟨[r₁, r₂, r₃, r₄, r₅, r₆, r₇, r₈], ?_, ?_, ?_⟩
  · rw [areas, Ui.bind_ok hr₁, Ui.bind_ok hr₂, Ui.bind_ok hr₃, Ui.bind_ok hr₄, Ui.bind_ok hr₅,
      Ui.bind_ok hr₆, Ui.bind_ok hr₇, Ui.bind_ok hr₈]
    rfl
  · refine Rect.pairwise_apart_of_isChain ?_
    simp [hright₁, hx₂, hright₂, hx₃, hright₃, hx₄, hright₄, hx₅, hright₅, hx₆, hright₆, hx₇,
      hright₇, hx₈]
  · simp only [List.forall_mem_cons]
    exact ⟨hin (hright₁ ▸ hsocks5.trans hsandstorm') hy₁, hin (hright₂ ▸ hsandstorm') hy₂,
      hin (hright₃ ▸ husers') hy₃, hin (hright₄ ▸ hauth') hy₄, hin (hright₅ ▸ hbuffer') hy₅,
      hin (hright₆ ▸ hextra') hy₆, hin (hright₇ ▸ hping) hy₇, hin (hright₈ ▸ hright.le) hy₈,
      List.forall_mem_nil _⟩

theorem Focus.render_ok (h : Focus b bar) (harea : bar.currentArea = area) :
    ∃ drawn bar', element.render area bar = .ok (drawn, bar') ∧ Focus b bar'
      ∧ bar'.currentArea = area ∧ drawn.Pairwise Rect.Apart ∧ ∀ r ∈ drawn, r.Within area := by
  have hresized : ∃ bar', bar.resizeIfModified area = .ok bar' ∧ Focus b bar'
      ∧ bar'.currentArea = area := by
    unfold resizeIfModified
    split_ifs
    · exact h.doResize (harea ▸ h.x_eq)
    · exact ⟨bar, rfl, h, harea⟩
  obtain ⟨bar', hresize, hfocus, rfl⟩ := hresized
  obtain ⟨areas, hareas, hapart, hwithin⟩ := hfocus.areas_ok
  refine ⟨areas, bar', ?_, hfocus, rfl, hapart, hwithin⟩
  rw [element]
  dsimp only
  rw [Ui.bind_ok hresize, Ui.bind_ok hareas]
  rfl

/-! ## Background tasks -/

theorem length_labelOf (label : Str) (key : Char) :
    (labelOf label key).length = label.length + 4 := by
  have hopen : " (".toList.length = 2 := by decide
  have hclose : ")".toList.length = 1 := by decide
  rw [labelOf, List.length_append, List.length_append, List.length_append, hopen, hclose]
  rfl

/-- The tasks change nothing but the labels, and what is told of them. -/
theorem Focus.update (h : Focus b bar) (u : Update) :
    Focus b (bar.update u) ∧ (bar.update u).currentArea = bar.currentArea := by
  cases u with
  | bufferLoading dots =>
    refine ⟨⟨h.focused, h.ordered, h.x_eq, ?_, h.pingLabel⟩, rfl⟩
    simp only [MenuBar.update, loadingLabel, length_labelOf, List.length_append,
      List.length_replicate, bufferSizeLoadingIndicatorSize]
    omega
  | bufferSize bufferSize =>
    refine ⟨⟨h.focused, h.ordered, h.x_eq, ?_, h.pingLabel⟩, rfl⟩
    have hlength := length_prettyByteDisplayer_le (n := bufferSize.toNat)
      (bufferSize.toNat_lt.trans (by decide))
    simp only [MenuBar.update, length_labelOf]
    omega
  | pingLoading full =>
    refine ⟨⟨h.focused, h.ordered, h.x_eq, h.bufferLabel, ?_⟩, rfl⟩
    simp only [MenuBar.update, List.length_set, List.length_replicate, pingLoadingIndicatorLength]
    decide
  | ping millis =>
    exact ⟨⟨h.focused, h.ordered, h.x_eq, h.bufferLabel, length_prettyMillisDisplay millis⟩, rfl⟩
  | _ => exact ⟨⟨h.focused, h.ordered, h.x_eq, h.bufferLabel, h.pingLabel⟩, rfl⟩

/-! ## Events -/

theorem middle_ok {x next : ℕ} (h : x ≤ next) : middle x next = .ok (x + (next - x) / 2) :=
  Ui.bind_ok (subU16_ok h) _

theorem Focus.getFocusPosition_ok (h : Focus b bar) :
    ∃ position, bar.getFocusPosition = .ok position := by
  obtain ⟨hsocks5, hsandstorm, husers, hauth, hbuffer, hextra, hping⟩ := h.ordered
  have hx : ∃ x, bar.focusX = .ok x ∧ x ≤ bar.currentArea.width := by
    unfold focusX
    cases bar.focusedElement
    · exact ⟨_, rfl, by omega⟩
    · exact ⟨_, rfl, by omega⟩
    · exact ⟨_, middle_ok hsocks5, by omega⟩
    · exact ⟨_, middle_ok hsandstorm, by omega⟩
    · exact ⟨_, middle_ok husers, by omega⟩
    · exact ⟨_, middle_ok hauth, by omega⟩
    · exact ⟨_, middle_ok hbuffer, by omega⟩
  obtain ⟨x, hfocus, hle⟩ := hx
  have hright := bar.currentArea.right_lt
  rw [getFocusPosition, Ui.bind_ok hfocus, Ui.bind_ok (addU16_ok (by omega))]
  exact ⟨_, rfl⟩

/-- What a call that changes at most the focused entry leaves. -/
def Keeps (bar bar' : MenuBar) : Prop :=
  bar' = { bar with
    focusedElement := bar'.focusedElement
    redrawNotified := bar'.redrawNotified
    sent := bar'.sent }

theorem Focus.of_keeps {bar' : MenuBar} {b' : Bool} (h : Focus b bar) (hkeeps : Keeps bar bar')
    (hfocused : bar'.focusedElement ≠ .none ↔ b' = true) :
    Focus b' bar' ∧ bar'.currentArea = bar.currentArea := by
  rw [hkeeps]
  exact ⟨⟨hfocused, h.ordered, h.x_eq, h.bufferLabel, h.pingLabel⟩, rfl⟩

theorem selected_keeps (element : FocusedElement) (bar : MenuBar) :
    Keeps bar (bar.selected element).2
      ∧ (bar.selected element).2.focusedElement = bar.focusedElement
      ∧ (bar.selected element).1.passes = false := by
  cases element with
  | buffer =>
    simp only [selected, bufferSelected]
    split_ifs <;> exact ⟨rfl, rfl, rfl⟩
  | _ => exact ⟨rfl, rfl, rfl⟩

/-- An event is handled, or passes the focus if it is `c` that it may, and no entry loses it. -/
def Handles (b c : Bool) (bar : MenuBar) (result : Ui (HandleEventStatus × MenuBar)) : Prop :=
  ∃ status bar', result = .ok (status, bar') ∧ Focus b bar' ∧ bar'.currentArea = bar.currentArea
    ∧ (c = false → status.passes = false)

theorem Focus.handles_unhandled (h : Focus b bar) (c : Bool) :
    Handles b c bar (pure (.unhandled, bar)) :=
  ⟨_, _, rfl, h, rfl, fun _ => rfl⟩

theorem Focus.handles_selected (h : Focus b bar) (c : Bool) (element : FocusedElement) :
    Handles b c bar (pure (bar.selected element)) := by
  obtain ⟨hkeeps, hfocused, hpasses⟩ := selected_keeps element bar
  obtain ⟨hfocus, harea⟩ := h.of_keeps hkeeps (by rw [hfocused]; exact h.focused)
  exact ⟨_, _, rfl, hfocus, harea, fun _ => hpasses⟩

theorem Focus.handles_pass (h : Focus true bar) (direction : PassFocusDirection) :
    Handles true true bar (do pure (.passFocus (← bar.getFocusPosition) direction, bar)) := by
  obtain ⟨position, hposition⟩ := h.getFocusPosition_ok
  rw [Ui.bind_ok hposition]
  exact ⟨_, _, rfl, h, rfl, nofun⟩

theorem Focus.handles_moveFocus (h : Focus true bar) {next : Option FocusedElement}
    (hnext : ∀ element, next = some element → element ≠ .none) (first : FocusedElement)
    (direction : PassFocusDirection) :
    Handles true true bar (bar.moveFocus next first direction) := by
  unfold moveFocus
  rw [if_neg (h.focused.2 rfl)]
  cases next with
  | none => exact h.handles_pass direction
  | some element =>
    have hkeeps : Keeps bar { bar with focusedElement := element, redrawNotified := true } := rfl
    have hfocused : element ≠ .none ↔ true = true := iff_of_true (hnext element rfl) rfl
    obtain ⟨hfocus, harea⟩ := h.of_keeps hkeeps hfocused
    exact ⟨_, _, rfl, hfocus, harea, nofun⟩

theorem nextLeft_ne_none : ∀ element element' : FocusedElement,
    element.nextLeft = some element' → element' ≠ .none := by
  rintro (_ | _ | _ | _ | _ | _ | _) element' ⟨rfl⟩ <;> decide

theorem nextRight_ne_none : ∀ element element' : FocusedElement,
    element.nextRight = some element' → element' ≠ .none := by
  rintro (_ | _ | _ | _ | _ | _ | _) element' ⟨rfl⟩ <;> decide

theorem Focus.handleEvent {c : Bool} (h : Focus b bar) (event : UiEvent)
    (hc : c = true → b = true) :
    Handles b c bar (bar.handleEvent event c) := by
  unfold MenuBar.handleEvent
  rcases event.pressed with _ | (_ | _ | _ | code)
  · exact h.handles_unhandled c
  · exact h.handles_selected c _
  · exact h.handles_unhandled c
  · exact h.handles_unhandled c
  · cases c with
    | false => exact h.handles_unhandled false
    | true =>
      obtain rfl := hc rfl
      cases code with
      | enter => exact h.handles_selected true _
      | left => exact h.handles_moveFocus (nextLeft_ne_none _) _ _
      | right => exact h.handles_moveFocus (nextRight_ne_none _) _ _
      | tab => exact h.handles_moveFocus (nextRight_ne_none _) _ _
      | down => exact h.handles_pass _
      | up => exact h.handles_pass _
      | esc => exact h.handles_pass _
      | _ => exact h.handles_unhandled true

theorem elementAt_ne_none (x : ℕ) (bar : MenuBar) : bar.elementAt x ≠ .none := by
  unfold elementAt
  split_ifs <;> decide

/-- A menu bar takes the focus whenever it is offered, and draws its entries next to each other. -/
def law : element.Law Unit where
  data _ := ()
  marks bar := if bar.focusedElement = .none then 0 else 1
  Focus := Focus
  Placed area bar := bar.currentArea = area
  Fits area := area.x = 0
  Draws _ _ := True
  Eager := True
  marks_eq {b bar} h := by
    cases b with
    | false => exact if_pos (not_not.1 fun hne => Bool.false_ne_true (h.focused.1 hne))
    | true => exact if_neg (h.focused.2 rfl)
  resize h hfits := by
    obtain ⟨bar', hresize, hfocus, harea⟩ := h.doResize hfits
    exact ⟨bar', hresize, hfocus, harea, rfl⟩
  render_iff h hplaced := by
    obtain ⟨drawn, bar', hrender, -⟩ := h.render_ok hplaced
    exact iff_of_true ⟨_, hrender⟩ trivial
  render h hplaced hrender := by
    obtain ⟨drawn, bar', hrender', hfocus, harea, hdrawn⟩ := h.render_ok hplaced
    obtain ⟨rfl, rfl⟩ := Prod.ext_iff.1 (Except.ok.inj (hrender'.symm.trans hrender))
    exact ⟨hfocus, harea, rfl, hdrawn⟩
  handleEvent event hc h := by
    obtain ⟨status, bar', hevent, hfocus, harea, hpasses⟩ := h.handleEvent event hc
    exact ⟨status, bar', hevent, hfocus, fun _ => harea.trans, rfl, hpasses⟩
  receiveFocus {bar} position h := by
    have hkeeps : Keeps bar { bar with
        focusedElement := bar.elementAt position.1, redrawNotified := true } := rfl
    have hfocused : bar.elementAt position.1 ≠ .none ↔ true = true :=
      iff_of_true (bar.elementAt_ne_none position.1) rfl
    obtain ⟨hfocus, harea⟩ := h.of_keeps hkeeps hfocused
    exact ⟨_, _, rfl, hfocus, fun _ => harea.trans, rfl, fun _ => rfl⟩
  focusLost {bar} h := by
    have hkeeps : Keeps bar { bar with focusedElement := .none, redrawNotified := true } := rfl
    have hfocused : FocusedElement.none ≠ .none ↔ false = true :=
      iff_of_false (fun hne => hne rfl) Bool.false_ne_true
    obtain ⟨hfocus, harea⟩ := h.of_keeps hkeeps hfocused
    exact ⟨hfocus, fun _ => harea.trans, rfl⟩

end MenuBar

end DustDevil
