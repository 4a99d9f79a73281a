import DustDevil.Client.UsageGraph
import DustDevil.Proofs.UiElement

/-!
# The plot stays inside of its area

The parts of a column are rounded one by one, but what is rounded up in one is taken from the other:
so no column is higher than the plot, and none with usage is empty. With no more records than there
are columns no cell outside of the plot is asked for (`renderGraphPlot_fits`).
-/

namespace DustDevil

open Wire

variable {ε : Type}

/-! ## Heights -/

section Heights

theorem scaled_le {bytes max : ℕ} (h : bytes ≤ max) (height : ℕ) : bytes * height / max ≤ height :=
  Nat.div_le_of_le_mul (Nat.mul_le_mul_right height h)

theorem toNat_mul_of_lt {a b : UInt64} (h : a.toNat * b.toNat < 2 ^ 64) :
    (a * b).toNat = a.toNat * b.toNat := by
  rw [UInt64.toNat_mul, Nat.mod_eq_of_lt h]

variable {measure : UsageMeasure} {max bytes : UInt64} {height : ℕ}

theorem toNat_ofNat_height (h : height < 2 ^ 16) : (UInt64.ofNat height).toNat = height :=
  UInt64.toNat_ofNat_of_lt' (h.trans (by decide))

/-- The height of a part, which is at least a half. -/
theorem toNat_halves (hheight : 1 ≤ height) (hlt : height < 2 ^ 16)
    (hfits : bytes.toNat * 2 * height < 2 ^ 64) :
    (Max.max (bytes * 2 * .ofNat height / max) 1).toNat
      = Max.max (bytes.toNat * (2 * height) / max.toNat) 1 := by
  have htwice : (bytes * 2).toNat = bytes.toNat * 2 :=
    toNat_mul_of_lt (lt_of_le_of_lt (Nat.le_mul_of_pos_right _ hheight) hfits)
  have hproduct : (bytes * 2 * .ofNat height).toNat = bytes.toNat * 2 * height := by
    rw [toNat_mul_of_lt (by rwa [htwice, toNat_ofNat_height hlt]), htwice, toNat_ofNat_height hlt]
  rw [UInt64.toNat_max, UInt64.toNat_div, hproduct, Nat.mul_assoc]
  rfl

/-- The height of the sent bytes where there are received ones, in whole cells. -/
theorem toNat_wholes (hheight : 1 ≤ height) (hlt : height < 2 ^ 16)
    (hfits : bytes.toNat * 2 * height < 2 ^ 64) (hmax : bytes.toNat ≤ max.toNat) :
    (Max.max (bytes * .ofNat height / max) 1 * 2).toNat
      = Max.max (bytes.toNat * height / max.toNat) 1 * 2 := by
  have hproduct : (bytes * .ofNat height).toNat = bytes.toNat * height := by
    rw [toNat_mul_of_lt, toNat_ofNat_height hlt]
    rw [toNat_ofNat_height hlt]
    exact lt_of_le_of_lt (Nat.mul_le_mul_right height (Nat.le_mul_of_pos_right _ (by decide))) hfits
  have hcells : (Max.max (bytes * .ofNat height / max) 1).toNat
      = Max.max (bytes.toNat * height / max.toNat) 1 := by
    rw [UInt64.toNat_max, UInt64.toNat_div, hproduct]
    rfl
  have hle := scaled_le hmax height
  rw [toNat_mul_of_lt, hcells]
  · rfl
  · rw [hcells]
    show Max.max _ 1 * 2 < 2 ^ 64
    omega

theorem toNat_sum (hheight : 1 ≤ height)
    (hfits : (measure.sent.toNat + measure.received.toNat) * 2 * height < 2 ^ 64) :
    measure.sum.toNat = measure.sent.toNat + measure.received.toNat := by
  rw [UsageMeasure.sum, UInt64.toNat_add, Nat.mod_eq_of_lt]
  refine lt_of_le_of_lt ?_ hfits
  rw [Nat.mul_assoc]
  exact Nat.le_mul_of_pos_right _ (Nat.mul_pos (by decide) hheight)

/-- The cells that a height in halves takes. -/
def cellsOf (height : UInt64) : ℕ := (height.toNat + 1) / 2

/-- The sent bytes have at least one whole cell: either both parts fill what is desired, or the
last of these cells goes to the received bytes. -/
theorem splitHeights_fits {desired send : UInt64} {cells : ℕ} (hsend : send.toNat = cells * 2)
    (hpos : 1 ≤ cells) (hcells : cells ≤ height) (hdesired : desired.toNat ≤ 2 * height) :
    ∃ send' receive, splitHeights (ε := ε) desired send = .ok (send', receive)
      ∧ cellsOf send' + cellsOf receive ≤ height ∧ 1 ≤ cellsOf send' + cellsOf receive := by
  unfold splitHeights
  by_cases hreceive : saturatingSubU64 desired send = 0
  · have htwo : 2 ≤ send := UInt64.le_iff_toNat_le.2 (hsend ▸ Nat.le_mul_of_pos_left 2 hpos)
    have hminus : (send - 2).toNat = send.toNat - 2 := UInt64.toNat_sub_of_le _ _ htwo
    refine ⟨send - 2, 1, ?_, ?_⟩
    · simp only [if_pos hreceive, checkedSubU64, if_pos htwo]
      rfl
    · simp only [cellsOf, hminus, hsend, UInt64.toNat_one]
      omega
  · have hle : send ≤ desired := by
      by_contra hle
      exact hreceive (if_neg hle)
    have hle' := UInt64.le_iff_toNat_le.1 hle
    have hminus : (saturatingSubU64 desired send).toNat = desired.toNat - send.toNat := by
      rw [saturatingSubU64, if_pos hle, UInt64.toNat_sub_of_le _ _ hle]
    refine ⟨send, saturatingSubU64 desired send, if_neg hreceive, ?_⟩
    simp only [cellsOf, hminus]
    omega

theorem plotHeights_fits (hheight : 1 ≤ height) (hlt : height < 2 ^ 16)
    (hfits : (measure.sent.toNat + measure.received.toNat) * 2 * height < 2 ^ 64)
    (hmax : measure.sent.toNat + measure.received.toNat ≤ max.toNat) :
    ∃ send receive, plotHeights (ε := ε) measure max (.ofNat height) = .ok (send, receive)
      ∧ cellsOf send + cellsOf receive ≤ height
      ∧ (measure.sent ≠ 0 ∨ measure.received ≠ 0 → 1 ≤ cellsOf send + cellsOf receive) := by
  have hpart {bytes : UInt64} (hle : bytes.toNat ≤ measure.sent.toNat + measure.received.toNat) :
      bytes.toNat * 2 * height < 2 ^ 64 :=
    lt_of_le_of_lt (Nat.mul_le_mul_right height (Nat.mul_le_mul_right 2 hle)) hfits
  have hhalves {bytes : UInt64}
      (hle : bytes.toNat ≤ measure.sent.toNat + measure.received.toNat) :
      1 ≤ (Max.max (bytes * 2 * .ofNat height / max) 1).toNat
        ∧ (Max.max (bytes * 2 * .ofNat height / max) 1).toNat ≤ 2 * height := by
    have hscaled := scaled_le (hle.trans hmax) (2 * height)
    rw [toNat_halves hheight hlt (hpart hle)]
    omega
  have hsent_le := Nat.le_add_right measure.sent.toNat measure.received.toNat
  unfold plotHeights
  by_cases hreceived : measure.received = 0
  · rw [if_pos hreceived]
    by_cases hsent : measure.sent = 0
    · rw [if_pos hsent]
      exact ⟨0, 0, rfl, Nat.zero_le _, fun h => absurd h (by simp [hsent, hreceived])⟩
    · rw [if_neg hsent]
      obtain ⟨hpos, hle⟩ := hhalves hsent_le
      refine ⟨_, 0, rfl, ?_⟩
      simp only [cellsOf, UInt64.toNat_zero]
      omega
  · rw [if_neg hreceived]
    by_cases hsent : measure.sent = 0
    · rw [if_pos hsent]
      obtain ⟨hpos, hle⟩ := hhalves (Nat.le_add_left measure.received.toNat measure.sent.toNat)
      refine ⟨0, _, rfl, ?_⟩
      simp only [cellsOf, UInt64.toNat_zero]
      omega
    · rw [if_neg hsent]
      have hsend := toNat_wholes hheight hlt (hpart hsent_le) (hsent_le.trans hmax)
      have hcells := scaled_le (hsent_le.trans hmax) height
      obtain ⟨send, receive, hsplit, hle, hpos⟩ := splitHeights_fits (ε := ε) hsend
        (le_max_right _ _) (max_le hcells hheight) (hhalves (toNat_sum hheight hfits).le).2
      exact ⟨send, receive, hsplit, hle, fun _ => hpos⟩

end Heights

/-! ## Columns -/

section Columns

theorem sub_ofNat_sub_ofNat (y : UInt16) (a b : ℕ) :
    y - .ofNat a - .ofNat b = y - .ofNat (a + b) := by
  rw [UInt16.ofNat_add]
  grind

theorem toNat_sub_ofNat {y : UInt16} {i : ℕ} (h : i ≤ y.toNat) :
    (y - .ofNat i).toNat = y.toNat - i := by
  have hi : (UInt16.ofNat i).toNat = i := UInt16.toNat_ofNat_of_lt' (h.trans_lt y.toNat_lt)
  rw [UInt16.toNat_sub_of_le _ _ (UInt16.le_iff_toNat_le.2 (hi.trans_le h)), hi]

theorem toNat_ofNat_sub_one {n : ℕ} (hpos : 1 ≤ n) (hlt : n < 2 ^ 16) :
    (UInt16.ofNat n - 1).toNat = n - 1 := by
  have hn : (UInt16.ofNat n).toNat = n := UInt16.toNat_ofNat_of_lt' hlt
  exact (toNat_sub_ofNat (i := 1) (hpos.trans_eq hn.symm)).trans (by rw [hn])

/-- One cell over the other, from a row upwards. -/
def Upwards (x y : UInt16) (cells : List PlotCell) : Prop :=
  ∀ i cell, cells[i]? = some cell → cell.x = x ∧ cell.y = y - .ofNat i

variable {x y : UInt16}

theorem Upwards.nil : Upwards x y [] := fun i cell h => by simp at h

theorem Upwards.singleton (x y : UInt16) (symbol : Char) (color : Color) :
    Upwards x y [⟨x, y, symbol, color⟩] := by
  intro i cell h
  cases i with
  | zero =>
    obtain rfl := Option.some.inj h
    exact ⟨rfl, (UInt16.sub_zero y).symm⟩
  | succ i => simp at h

theorem Upwards.append {low high : List PlotCell} (hlow : Upwards x y low)
    (hhigh : Upwards x (y - .ofNat low.length) high) : Upwards x y (low ++ high) := by
  intro i cell h
  rw [List.getElem?_append] at h
  split_ifs at h with hi
  · exact hlow i cell h
  · obtain ⟨hx, hy⟩ := hhigh _ cell h
    refine ⟨hx, hy.trans ?_⟩
    rw [sub_ofNat_sub_ofNat, Nat.add_sub_cancel' (not_lt.1 hi)]

variable {buffer area : Rect}

theorem getMut_ok (h : buffer.Has (x.toNat, y.toNat)) : getMut (ε := ε) buffer x y = .ok () := by
  obtain ⟨hleft, hright, htop, hbottom⟩ := h
  exact if_pos ⟨⟨hleft, hright⟩, htop, hbottom⟩

/-- A bar that is drawn. -/
theorem plotBar_spec {color : Color} {height : ℕ} {y : UInt16} {cells : List PlotCell} {y' : UInt16}
    (h : plotBar (ε := ε) buffer x color height y = .ok (cells, y')) :
    cells.length = (height + 1) / 2 ∧ y' = y - .ofNat ((height + 1) / 2) ∧ Upwards x y cells := by
  induction height using Nat.twoStepInduction generalizing y cells y' with
  | zero =>
    obtain ⟨rfl, rfl⟩ := Prod.mk.inj (Except.ok.inj h)
    exact ⟨rfl, (UInt16.sub_zero y).symm, Upwards.nil⟩
  | one =>
    rw [plotBar] at h
    obtain ⟨-, -, h⟩ := bind_eq_ok h
    obtain ⟨rfl, rfl⟩ := Prod.mk.inj (Except.ok.inj h)
    exact ⟨rfl, rfl, Upwards.singleton x y _ color⟩
  | more height ih _ =>
    rw [plotBar] at h
    obtain ⟨-, -, h⟩ := bind_eq_ok h
    obtain ⟨⟨rest, y''⟩, hrest, h⟩ := bind_eq_ok h
    obtain ⟨rfl, rfl⟩ := Prod.mk.inj (Except.ok.inj h)
    obtain ⟨hlength, hy, hcells⟩ := ih hrest
    have hhalf : (height + 2 + 1) / 2 = 1 + (height + 1) / 2 := by omega
    refine ⟨?_, ?_, (Upwards.singleton x y _ color).append hcells⟩
    · rw [List.length_cons, hlength, hhalf, Nat.add_comm]
    · rw [hy, hhalf]
      exact sub_ofNat_sub_ofNat y 1 _

/-- A bar is drawn if the buffer has the cells that it takes. -/
theorem plotBar_fits (color : Color) (height : ℕ) {y : UInt16}
    (h : ∀ i < (height + 1) / 2, i ≤ y.toNat ∧ buffer.Has (x.toNat, y.toNat - i)) :
    ∃ cells, plotBar (ε := ε) buffer x color height y
      = .ok (cells, y - .ofNat ((height + 1) / 2)) := by
  suffices hr : ∃ r, plotBar (ε := ε) buffer x color height y = .ok r by
    obtain ⟨⟨cells, y'⟩, hr⟩ := hr
    exact ⟨cells, by rw [hr, (plotBar_spec hr).2.1]⟩
  induction height using Nat.twoStepInduction generalizing y with
  | zero => exact ⟨_, rfl⟩
  | one =>
    rw [plotBar, getMut_ok (h 0 (by decide)).2]
    exact ⟨_, rfl⟩
  | more height ih _ =>
    obtain ⟨r, hr⟩ : ∃ r, plotBar (ε := ε) buffer x color height (y - 1) = .ok r := by
      refine ih fun i hi => ?_
      obtain ⟨hle, hhas⟩ := h (i + 1) (by omega)
      have hy : (y - 1).toNat = y.toNat - 1 := toNat_sub_ofNat (i := 1) (by omega)
      rw [hy, Nat.sub_sub, Nat.add_comm 1]
      exact ⟨by omega, hhas⟩
    rw [plotBar, getMut_ok (h 0 (by omega)).2, hr]
    exact ⟨_, rfl⟩

variable {measure : UsageMeasure} {max : UInt64} {send receive : UInt64}

/-- A column that is drawn, and where it is. -/
theorem plotColumn_spec {column : List PlotCell}
    (hheights : plotHeights (ε := ε) measure max (.ofNat area.height) = .ok (send, receive))
    (h : plotColumn (ε := ε) measure max area buffer x = .ok column) :
    column.length = cellsOf send + cellsOf receive
      ∧ Upwards x (UInt16.ofNat (area.y + area.height) - 1) column := by
  rw [plotColumn, hheights] at h
  obtain ⟨heights, hheights', h⟩ := bind_eq_ok h
  obtain rfl := Except.ok.inj hheights'
  obtain ⟨⟨low, y⟩, hsend, h⟩ := bind_eq_ok h
  obtain ⟨⟨high, y'⟩, hreceive, h⟩ := bind_eq_ok h
  obtain rfl := Except.ok.inj h
  obtain ⟨hlow, rfl, hlower⟩ := plotBar_spec hsend
  obtain ⟨hhigh, -, hupper⟩ := plotBar_spec hreceive
  refine ⟨?_, hlower.append ?_⟩
  · rw [List.length_append, hlow, hhigh]
    rfl
  · rw [hlow]
    exact hupper

/-- A column is drawn if it is one of the area's, and no higher. -/
theorem plotColumn_fits
    (hheights : plotHeights (ε := ε) measure max (.ofNat area.height) = .ok (send, receive))
    (hle : cellsOf send + cellsOf receive ≤ area.height) (hheight : 1 ≤ area.height)
    (hwithin : area.Within buffer) (hx : area.x ≤ x.toNat ∧ x.toNat < area.right) :
    ∃ column, plotColumn (ε := ε) measure max area buffer x = .ok column := by
  set y := UInt16.ofNat (area.y + area.height) - 1 with hy
  have hbottom : y.toNat = area.y + area.height - 1 :=
    toNat_ofNat_sub_one (by omega) area.bottom_lt
  have hcell (i : ℕ) (hi : i < area.height) :
      i ≤ y.toNat ∧ buffer.Has (x.toNat, y.toNat - i) := by
    have hrow : area.y ≤ y.toNat - i ∧ y.toNat - i < area.bottom := by
      rw [Rect.bottom]
      omega
    exact ⟨by omega, hwithin _ ⟨hx.1, hx.2, hrow⟩⟩
  obtain ⟨low, hlow⟩ := plotBar_fits (ε := ε) (x := x) (y := y) sendColor
    send.toNat fun i hi => hcell i (hi.trans_le ((Nat.le_add_right _ _).trans hle))
  obtain ⟨high, hhigh⟩ := plotBar_fits (ε := ε) (x := x) (y := y - .ofNat (cellsOf send))
    receiveColor receive.toNat fun i hi => by
      have hi' : cellsOf send + i < area.height := (Nat.add_lt_add_left hi _).trans_le hle
      obtain ⟨hle', hhas⟩ := hcell _ hi'
      rw [toNat_sub_ofNat (by omega), Nat.sub_sub]
      exact ⟨by omega, hhas⟩
  refine ⟨low ++ high, ?_⟩
  rw [plotColumn, hheights]
  simp only [bind, Except.bind, ← hy, hlow]
  rw [cellsOf] at hhigh
  rw [hhigh]
  rfl

/-- The columns that are drawn are those of the measures, from right to left. -/
theorem plotColumns_spec {measures : List UsageMeasure} {columns : List (List PlotCell)}
    (h : plotColumns (ε := ε) max area buffer measures x = .ok columns) {k : ℕ}
    (hk : measures[k]? = some measure) :
    plotColumn (ε := ε) measure max area buffer (x - .ofNat k) = .ok (columns.getD k []) := by
  induction measures generalizing x columns k with
  | nil => simp at hk
  | cons first measures ih =>
    obtain ⟨column, hcolumn, h⟩ := bind_eq_ok h
    obtain ⟨rest, hrest, h⟩ := bind_eq_ok h
    obtain rfl := Except.ok.inj h
    cases k with
    | zero =>
      obtain rfl := Option.some.inj hk
      rw [show x - .ofNat 0 = x from UInt16.sub_zero x, hcolumn]
      rfl
    | succ k =>
      rw [Nat.add_comm k 1, ← sub_ofNat_sub_ofNat, Nat.add_comm 1 k, List.getD_cons_succ]
      exact ih hrest (by simpa using hk)

theorem plotColumns_fits {measures : List UsageMeasure}
    (h : ∀ k measure, measures[k]? = some measure →
      ∃ column, plotColumn (ε := ε) measure max area buffer (x - .ofNat k) = .ok column) :
    ∃ columns, plotColumns (ε := ε) max area buffer measures x = .ok columns := by
  induction measures generalizing x with
  | nil => exact ⟨[], rfl⟩
  | cons first measures ih =>
    obtain ⟨column, hcolumn⟩ := h 0 first rfl
    obtain ⟨columns, hcolumns⟩ := ih (x := x - 1) fun k measure hk => by
      obtain ⟨column, hcolumn⟩ := h (k + 1) measure (by simpa using hk)
      rw [Nat.add_comm k 1, ← sub_ofNat_sub_ofNat] at hcolumn
      exact ⟨column, hcolumn⟩
    rw [show x - .ofNat 0 = x from UInt16.sub_zero x] at hcolumn
    refine ⟨column :: columns, ?_⟩
    rw [plotColumns, hcolumn, hcolumns]
    rfl

end Columns

/-! ## The plot -/

section Plot

theorem le_prettyRoundMaxBytesValue (max : UInt64) : max ≤ prettyRoundMaxBytesValue max := by
  unfold prettyRoundMaxBytesValue
  split_ifs with hzero hfits
  · exact hzero ▸ UInt64.le_refl _
  · rw [UInt64.le_iff_toNat_le, UInt64.toNat_ofNat_of_lt' hfits]
    calc max.toNat ≤ (Max.max max 64).toNat := by
          rw [UInt64.toNat_max]
          exact le_max_left _ _
      _ ≤ 2 ^ Nat.clog 2 (Max.max max 64).toNat := Nat.le_pow_clog (by decide) _
  · exact UInt64.le_refl max

instance lawfulOrderMaxU64 : Std.LawfulOrderMax UInt64 :=
  .of_max_le_iff (fun a b c => by simp only [UInt64.le_iff_toNat_le, UInt64.toNat_max, Nat.max_le])
    fun a b => by
      simp only [← UInt64.toNat_inj, UInt64.toNat_max]
      omega

theorem sum_le_plotMax {history : List UsageMeasure} {recordCount : ℕ} {measure : UsageMeasure}
    (h : measure ∈ history.reverse.take recordCount) :
    measure.sum ≤ plotMax history recordCount := by
  have hmem := List.mem_map_of_mem (f := UsageMeasure.sum) h
  refine UInt64.le_trans ?_ (le_prettyRoundMaxBytesValue _)
  cases hmax : ((history.reverse.take recordCount).map UsageMeasure.sum).max? with
  | none =>
    rw [List.max?_eq_none_iff] at hmax
    simp [hmax] at hmem
  | some total => exact (List.max?_eq_some_iff.1 hmax).2 _ hmem

/-- With the `max` that `render` has the heights of each record shown are found without a panic, in
no more rows than the plot has and in at least one if there is usage, and where the plot is drawn
its columns have these heights. It is drawn if the buffer has its area and there is a column for
each record, from the right on, with its cells one over the other from the lowest row on. -/
theorem renderGraphPlot_fits (history : List UsageMeasure) (recordCount : ℕ) (area buffer : Rect)
    (hheight : 1 ≤ area.height)
    (hfits : ∀ measure ∈ history.reverse.take recordCount,
      (measure.sent.toNat + measure.received.toNat) * 2 * area.height < 2 ^ 64) :
    let shown := history.reverse.take recordCount
    let max := plotMax history recordCount
    let plot : Except (Stop ε) (List (List PlotCell)) :=
      renderGraphPlot history recordCount max area buffer
    (∀ measure ∈ shown, ∃ send receive,
        plotHeights (ε := ε) measure max (.ofNat area.height) = .ok (send, receive)
          ∧ cellsOf send + cellsOf receive ≤ area.height
          ∧ (measure.sent ≠ 0 ∨ measure.received ≠ 0 → 1 ≤ cellsOf send + cellsOf receive))
      ∧ (∀ columns, plot = .ok columns → ∀ k measure, shown[k]? = some measure →
        (columns.getD k []).length ≤ area.height
          ∧ (measure.sent ≠ 0 ∨ measure.received ≠ 0 → columns.getD k [] ≠ []))
      ∧ (area.Within buffer → min recordCount history.length ≤ area.width →
        ∃ columns, plot = .ok columns ∧ ∀ k measure, shown[k]? = some measure →
          ∀ i cell, (columns.getD k [])[i]? = some cell →
            cell.x.toNat = area.x + area.width - 1 - k
              ∧ cell.y.toNat = area.y + area.height - 1 - i) := by
  intro shown max plot
  have hlt : area.height < 2 ^ 16 := (Nat.le_add_left _ _).trans_lt area.bottom_lt
  have hsum (measure) (hmem : measure ∈ shown) :
      measure.sent.toNat + measure.received.toNat ≤ max.toNat := by
    rw [← toNat_sum hheight (hfits measure hmem)]
    exact UInt64.le_iff_toNat_le.1 (sum_le_plotMax hmem)
  have hheights (measure) (hmem : measure ∈ shown) :=
    plotHeights_fits (ε := ε) hheight hlt (hfits measure hmem) (hsum measure hmem)
  refine ⟨hheights, ?_⟩
  by_cases hmax : max = 0
  · have hplot : plot = .ok [] := if_pos hmax
    rw [hplot]
    refine ⟨fun columns hcolumns k measure hk => ?_, fun _ _ => ⟨[], rfl, by simp⟩⟩
    obtain rfl := Except.ok.inj hcolumns
    refine ⟨Nat.zero_le _, fun husage => ?_⟩
    have hzero := hsum measure (List.mem_of_getElem? hk)
    rw [hmax, UInt64.toNat_zero, Nat.le_zero, Nat.add_eq_zero_iff] at hzero
    obtain ⟨hsent, hreceived⟩ := hzero
    exact absurd husage (by simp [← UInt64.toNat_inj, hsent, hreceived])
  have hplot : plot = plotColumns max area buffer shown (UInt16.ofNat area.right - 1) :=
    if_neg hmax
  rw [hplot]
  refine ⟨fun columns hcolumns k measure hk => ?_, fun hwithin hcount => ?_⟩
  · obtain ⟨send, receive, hsend, hle, hpos⟩ := hheights measure (List.mem_of_getElem? hk)
    obtain ⟨hlength, -⟩ := plotColumn_spec hsend (plotColumns_spec hcolumns hk)
    refine ⟨hlength.trans_le hle, fun husage => ?_⟩
    rw [← List.length_pos_iff, hlength]
    exact hpos husage
  · have hx (k) (measure) (hk : shown[k]? = some measure) :
        (UInt16.ofNat area.right - 1 - .ofNat k).toNat = area.x + area.width - 1 - k
          ∧ k < area.width := by
      have hlength : k < min recordCount history.length := by
        simpa [shown] using (List.getElem?_eq_some_iff.1 hk).1
      have hright := toNat_ofNat_sub_one (n := area.x + area.width) (by omega) area.right_lt
      rw [Rect.right, toNat_sub_ofNat (by omega), hright]
      exact ⟨rfl, hlength.trans_le hcount⟩
    obtain ⟨columns, hcolumns⟩ :
        ∃ columns, plotColumns (ε := ε) max area buffer shown (UInt16.ofNat area.right - 1)
          = .ok columns := by
      refine plotColumns_fits fun k measure hk => ?_
      obtain ⟨send, receive, hsend, hle, -⟩ := hheights measure (List.mem_of_getElem? hk)
      obtain ⟨hcolumn, hlt⟩ := hx k measure hk
      refine plotColumn_fits hsend hle hheight hwithin ?_
      rw [hcolumn, Rect.right]
      omega
    refine ⟨columns, hcolumns, fun k measure hk i cell hcell => ?_⟩
    obtain ⟨send, receive, hsend, hle, -⟩ := hheights measure (List.mem_of_getElem? hk)
    obtain ⟨hlength, hupwards⟩ := plotColumn_spec hsend (plotColumns_spec hcolumns hk)
    obtain ⟨hcolumn, hrow⟩ := hupwards i cell hcell
    have hi : i < area.height :=
      (List.getElem?_eq_some_iff.1 hcell).1.trans_le (hlength.trans_le hle)
    have hbottom := toNat_ofNat_sub_one (n := area.y + area.height) (by omega) area.bottom_lt
    exact ⟨by rw [hcolumn, (hx k measure hk).1],
      by rw [hrow, toNat_sub_ofNat (by omega), hbottom]⟩

/-- A plot of three columns and four rows. -/
def smallPlot : Rect := ⟨10, 2, 3, 4, by decide, by decide⟩

def smallScreen : Rect := ⟨0, 0, 20, 8, by decide, by decide⟩

theorem smallPlot_within : smallPlot.Within smallScreen := by
  intro cell h
  simp only [Rect.Has, Rect.right, Rect.bottom, smallPlot, smallScreen] at h ⊢
  omega

/-- Three records, the oldest one of which is not shown. -/
theorem renderGraphPlot_fits_two :
    let history : List UsageMeasure := [⟨5, 5⟩, ⟨0, 70⟩, ⟨3, 100⟩]
    ∃ columns, (renderGraphPlot history 2 (plotMax history 2) smallPlot smallScreen :
        Except (Stop Empty) (List (List PlotCell))) = .ok columns
      ∧ ((columns.getD 0 []).length ≤ 4 ∧ columns.getD 0 [] ≠ [])
      ∧ ((columns.getD 1 []).length ≤ 4 ∧ columns.getD 1 [] ≠ [])
      ∧ (∀ cell, (columns.getD 0 [])[1]? = some cell → cell.x.toNat = 12 ∧ cell.y.toNat = 4)
      ∧ ∀ cell, (columns.getD 1 [])[0]? = some cell → cell.x.toNat = 11 ∧ cell.y.toNat = 5 := by
  intro history
  obtain ⟨-, hcolumns, hplot⟩ := renderGraphPlot_fits (ε := Empty) history 2 smallPlot smallScreen
    (by decide) (by decide)
  obtain ⟨columns, hplot, hcells⟩ := hplot smallPlot_within (by decide)
  have hlatest := hcolumns columns hplot 0 ⟨3, 100⟩ rfl
  have hsecond := hcolumns columns hplot 1 ⟨0, 70⟩ rfl
  exact ⟨columns, hplot, ⟨hlatest.1, hlatest.2 (by decide)⟩, ⟨hsecond.1, hsecond.2 (by decide)⟩,
    hcells 0 ⟨3, 100⟩ rfl 1, hcells 1 ⟨0, 70⟩ rfl 0⟩

end Plot

end DustDevil
