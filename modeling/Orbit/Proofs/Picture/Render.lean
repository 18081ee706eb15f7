import Orbit.Picture.Basic
import Orbit.Proofs.EscapeTime

/-!
# Pictures are rendered pixel by pixel

The loops over rows and pixels share one register file, and still every escape time of a picture is that of its own
pixel. There is a picture if nothing is wrong with the viewport and its escape times have room in an array.

* `pixelAt step view cap y x` : the escape time of a pixel alone;
* `renderPixel_snd`, `renderRow_toList`, `renderRows_toList` : what a pixel, a row and several rows add to a picture;
* `grid_eq_map_range` : rows of equal length, one after the other, by quotient and remainder of the place;
* `Viewport.HasRoom view` : an array has room for all escape times;
* `render_of_check`, `render_of_not_hasRoom`, `exists_render` : the three ends of a rendering;
* `Picture.Complete p` : there are pixels, and an escape time for each. Rendering gives such pictures
  (`complete_of_render`), and they are cut into as many rows as they are high, each as long as they are wide.
-/

namespace Orbit

/-! ## Places in 64 bits -/

-- the largest size and the last pixel just fit
theorem place_lt (width x y : UInt32) : y.toNat * width.toNat + x.toNat < UInt64.size := by
  have hproduct : y.toNat * width.toNat ≤ (UInt32.size - 1) * (UInt32.size - 1) :=
    Nat.mul_le_mul (Nat.le_sub_one_of_lt y.toNat_lt_size) (Nat.le_sub_one_of_lt width.toNat_lt_size)
  have hx : x.toNat < UInt32.size := x.toNat_lt_size
  simp only [UInt32.size, UInt64.size] at *
  omega

theorem toNat_mul_toUInt64 (x y : UInt32) : (x.toUInt64 * y.toUInt64).toNat = x.toNat * y.toNat := by
  rw [UInt64.toNat_mul, UInt32.toNat_toUInt64, UInt32.toNat_toUInt64]
  exact Nat.mod_eq_of_lt (place_lt y 0 x)

theorem Viewport.toNat_pixelCount {α : Type} (v : Viewport α) : v.pixelCount.toNat = v.width.toNat * v.height.toNat :=
  toNat_mul_toUInt64 v.width v.height

/-- An array, which has less than 2⁶³ bytes, has room for an escape time of four bytes for each pixel. -/
def Viewport.HasRoom {α : Type} (v : Viewport α) : Prop := 4 * (v.width.toNat * v.height.toNat) ≤ 0x7fffffffffffffff

instance {α : Type} (v : Viewport α) : Decidable v.HasRoom := inferInstanceAs (Decidable (_ ≤ _))

theorem Viewport.arrayLimit_lt_countBytes_iff {α : Type} {v : Viewport α} : arrayLimit < v.countBytes ↔ ¬v.HasRoom := by
  unfold countBytes arrayLimit HasRoom
  rw [v.toNat_pixelCount, Nat.not_le]

theorem Picture.toNat_place (p : Picture) (x y : UInt32) :
    (p.place x y).toNat = y.toNat * p.width.toNat + x.toNat := by
  rw [place, UInt64.toNat_add, toNat_mul_toUInt64, UInt32.toNat_toUInt64]
  exact Nat.mod_eq_of_lt (place_lt p.width x y)

/-! ## The loops -/

section Loops

variable {α : Type} [Scalar α] (step : Registers α → Registers α) (view : Viewport α) (cap : UInt32)

/-- The escape time of the pixel in row `y` and column `x`, computed alone. -/
def pixelAt (y x : Nat) : UInt32 := escapeTime step (view.sample (UInt32.ofNat x) (UInt32.ofNat y)) cap

/-- A pixel adds its own escape time, in whatever registers the pixel before it left. -/
theorem renderPixel_snd (y : Nat) (state : Registers α × Array UInt32) (x : Nat) :
    (renderPixel step view cap y state x).2 = state.2.push (pixelAt step view cap y x) := rfl

theorem renderPixels_toList (y : Nat) (xs : List Nat) (state : Registers α × Array UInt32) :
    (xs.foldl (renderPixel step view cap y) state).2.toList =
      state.2.toList ++ xs.map (pixelAt step view cap y) := by
  induction xs generalizing state with
  | nil => exact (List.append_nil _).symm
  | cons x xs ih =>
    rw [List.foldl_cons, ih, renderPixel_snd, Array.toList_push, List.append_assoc, List.map_cons,
      List.singleton_append]

theorem renderRow_toList (state : Registers α × Array UInt32) (y : Nat) :
    (renderRow step view cap state y).2.toList =
      state.2.toList ++ (List.range view.width.toNat).map (pixelAt step view cap y) :=
  renderPixels_toList step view cap y _ state

theorem renderRows_toList (ys : List Nat) (state : Registers α × Array UInt32) :
    (ys.foldl (renderRow step view cap) state).2.toList =
      state.2.toList ++ ys.flatMap fun y => (List.range view.width.toNat).map (pixelAt step view cap y) := by
  induction ys generalizing state with
  | nil => exact (List.append_nil _).symm
  | cons y ys ih => rw [List.foldl_cons, ih, renderRow_toList, List.append_assoc, List.flatMap_cons]

end Loops

/-! ## Rows of equal length -/

theorem row_of_place {width x : Nat} (h : x < width) (y : Nat) : (y * width + x) / width = y := by
  rw [Nat.add_comm, Nat.add_mul_div_right _ _ (by omega), Nat.div_eq_of_lt h, Nat.zero_add]

theorem column_of_place {width x : Nat} (h : x < width) (y : Nat) : (y * width + x) % width = x := by
  rw [Nat.add_comm, Nat.add_mul_mod_self_right, Nat.mod_eq_of_lt h]

/-- Rows of `width` values one after the other: the value at a place is in the row and column that the quotient and the
remainder by the width give. -/
theorem grid_eq_map_range {β : Type} (f : Nat → Nat → β) (width height : Nat) :
    ((List.range height).flatMap fun y => (List.range width).map (f y)) =
      (List.range (height * width)).map fun i => f (i / width) (i % width) := by
  induction height with
  | zero => rw [Nat.zero_mul]; rfl
  | succ height ih =>
    rw [List.range_succ, List.flatMap_append, ih, List.flatMap_singleton, Nat.succ_mul, List.range_add,
      List.map_append, List.map_map]
    congr 1
    refine List.map_congr_left fun x hx => ?_
    have hx : x < width := List.mem_range.1 hx
    rw [Function.comp_apply, row_of_place hx, column_of_place hx]

/-- Pieces of equal length, cut from the front, are what is in front. -/
theorem flatten_extract {β : Type} (a : Array β) (length count : Nat) :
    ((List.range count).map fun y => (a.extract (y * length) ((y + 1) * length)).toList).flatten =
      a.toList.take (count * length) := by
  induction count with
  | zero => simp
  | succ count ih =>
    rw [List.range_succ, List.map_append, List.flatten_append, ih, List.map_singleton, List.flatten_singleton,
      Array.toList_extract, List.extract_eq_take_drop, Nat.succ_mul, Nat.add_sub_cancel_left, List.take_add]

namespace Picture

theorem rowLength_eq_max (p : Picture) : p.rowLength = max p.width.toNat 1 := by
  show (if p.width ≤ 1 then 1 else p.width).toNat = max p.width.toNat 1
  split
  · have h : p.width.toNat ≤ 1 := ‹p.width ≤ 1›
    exact (Nat.max_eq_right h).symm
  · have h : ¬p.width.toNat ≤ 1 := ‹¬p.width ≤ 1›
    exact (Nat.max_eq_left (by omega)).symm

/-- Cutting into rows loses nothing, whatever the number of escape times is. -/
theorem flatten_rows (p : Picture) : p.rows.flatten = p.counts.toList := by
  have hpos : 0 < p.rowLength := by
    rw [rowLength_eq_max]
    omega
  -- the rows are enough: a quotient that is rounded up, times the divisor
  have henough : p.counts.size ≤ (p.counts.size + p.rowLength - 1) / p.rowLength * p.rowLength := by
    have hdiv := Nat.div_add_mod' (p.counts.size + p.rowLength - 1) p.rowLength
    have hmod := Nat.mod_lt (p.counts.size + p.rowLength - 1) hpos
    omega
  have hflatten := flatten_extract p.counts p.rowLength ((p.counts.size + p.rowLength - 1) / p.rowLength)
  rw [List.take_of_length_le henough] at hflatten
  exact hflatten

/-- There are pixels, and an escape time for each. -/
structure Complete (p : Picture) : Prop where
  width_ne_zero : p.width ≠ 0
  height_ne_zero : p.height ≠ 0
  size_counts : p.counts.size = p.width.toNat * p.height.toNat

namespace Complete

variable {p : Picture}

theorem width_pos (h : p.Complete) : 0 < p.width.toNat :=
  Nat.pos_of_ne_zero fun hzero => h.width_ne_zero (UInt32.toNat_inj.1 hzero)

theorem rowLength_eq (h : p.Complete) : p.rowLength = p.width.toNat := by
  rw [rowLength_eq_max]
  exact Nat.max_eq_left h.width_pos

theorem rows_eq (h : p.Complete) : p.rows = (List.range p.height.toNat).map p.row := by
  have hcount : (p.counts.size + p.rowLength - 1) / p.rowLength = p.height.toNat := by
    have hw := h.width_pos
    rw [h.size_counts, h.rowLength_eq, Nat.add_sub_assoc hw, Nat.mul_add_div hw, Nat.div_eq_of_lt (by omega),
      Nat.add_zero]
  rw [rows, hcount]

theorem length_row (h : p.Complete) {y : Nat} (hy : y < p.height.toNat) : (p.row y).length = p.width.toNat := by
  have hend : (y + 1) * p.width.toNat ≤ p.counts.size := by
    rw [h.size_counts, Nat.mul_comm p.width.toNat]
    exact Nat.mul_le_mul_right _ hy
  rw [row, h.rowLength_eq, Array.length_toList, Array.size_extract, Nat.min_eq_left hend, Nat.succ_mul,
    Nat.add_sub_cancel_left]

theorem length_rows (h : p.Complete) : p.rows.length = p.height.toNat := by
  rw [h.rows_eq, List.length_map, List.length_range]

theorem length_of_mem_rows (h : p.Complete) {row : List UInt32} (hrow : row ∈ p.rows) :
    row.length = p.width.toNat := by
  rw [h.rows_eq] at hrow
  obtain ⟨y, hy, rfl⟩ := List.mem_map.1 hrow
  exact h.length_row (List.mem_range.1 hy)

end Complete

end Picture

/-! ## Whole pictures -/

section Whole

variable {α : Type} [Scalar α] (step : Registers α → Registers α) (view : Viewport α) (cap : UInt32)

theorem ne_zero_of_check {view : Viewport α} (h : view.check = none) : view.width ≠ 0 ∧ view.height ≠ 0 := by
  by_contra hzero
  rw [Viewport.check, if_pos (by tauto)] at h
  cases h

theorem render_of_check {fault : ViewportFault α} (h : view.check = some fault) :
    render step view cap = .error (.viewport fault) := by
  simp only [render, h]

theorem render_of_not_hasRoom (hcheck : view.check = none) (hroom : ¬view.HasRoom) :
    render step view cap = .error .overflow := by
  simp only [render, hcheck]
  rw [if_pos (Viewport.arrayLimit_lt_countBytes_iff.2 hroom)]

/-- A viewport with nothing wrong and with room gives the escape times of its pixels in the order of their places. -/
theorem exists_render (hcheck : view.check = none) (hroom : view.HasRoom) :
    ∃ p : Picture, render step view cap = .ok p ∧ p.Complete ∧ p.width = view.width ∧ p.height = view.height ∧
      p.cap = cap ∧ p.counts.toList = (List.range (view.height.toNat * view.width.toNat)).map fun i =>
        pixelAt step view cap (i / view.width.toNat) (i % view.width.toNat) := by
  obtain ⟨hwidth, hheight⟩ := ne_zero_of_check hcheck
  have hfits : ¬arrayLimit < view.countBytes := fun h => Viewport.arrayLimit_lt_countBytes_iff.1 h hroom
  have hcounts := renderRows_toList step view cap (List.range view.height.toNat) (Registers.cleared, #[])
  rw [grid_eq_map_range] at hcounts
  refine ⟨⟨view.width, view.height, cap, _⟩, ?_, ⟨hwidth, hheight, ?_⟩, rfl, rfl, rfl, hcounts⟩
  · simp only [render, hcheck]
    rw [if_neg hfits]
  · have hlength := congrArg List.length hcounts
    rw [Array.length_toList, List.length_append, List.length_map, List.length_range] at hlength
    rw [hlength, Nat.mul_comm]
    exact Nat.zero_add _

theorem get?_of_counts {p : Picture} (hw : p.width = view.width) (hh : p.height = view.height)
    (hcounts : p.counts.toList = (List.range (view.height.toNat * view.width.toNat)).map fun i =>
      pixelAt step view cap (i / view.width.toNat) (i % view.width.toNat)) (x y : UInt32) :
    p.get? x y = if x < view.width ∧ y < view.height then some (escapeTime step (view.sample x y) cap) else none := by
  by_cases hin : x < view.width ∧ y < view.height
  · have hx : x.toNat < view.width.toNat := hin.1
    have hy : y.toNat < view.height.toNat := hin.2
    have hplace : y.toNat * view.width.toNat + x.toNat < view.height.toNat * view.width.toNat := by
      have hrow := Nat.mul_le_mul_right view.width.toNat (Nat.succ_le_of_lt hy)
      rw [Nat.succ_mul] at hrow
      omega
    have hinside : ¬(view.width ≤ x ∨ view.height ≤ y) := by
      rw [UInt32.le_iff_toNat_le, UInt32.le_iff_toNat_le]
      omega
    rw [if_pos hin, Picture.get?, hw, hh, if_neg hinside, p.toNat_place, hw, ← Array.getElem?_toList, hcounts,
      List.getElem?_map, List.getElem?_range hplace, Option.map_some, row_of_place hx, column_of_place hx, pixelAt,
      UInt32.ofNat_toNat, UInt32.ofNat_toNat]
  · have houtside : view.width ≤ x ∨ view.height ≤ y := by
      rw [UInt32.lt_iff_toNat_lt, UInt32.lt_iff_toNat_lt] at hin
      rw [UInt32.le_iff_toNat_le, UInt32.le_iff_toNat_le]
      omega
    rw [if_neg hin, Picture.get?, hw, hh, if_pos houtside]

theorem complete_of_render {step : Registers α → Registers α} {view : Viewport α} {cap : UInt32} {p : Picture}
    (h : render step view cap = .ok p) : p.Complete := by
  cases hcheck : view.check with
  | some fault =>
    rw [render_of_check step view cap hcheck] at h
    cases h
  | none =>
    by_cases hroom : view.HasRoom
    · obtain ⟨q, hq, hcomplete, -⟩ := exists_render step view cap hcheck hroom
      cases hq.symm.trans h
      exact hcomplete
    · rw [render_of_not_hasRoom step view cap hcheck hroom] at h
      cases h

end Whole

end Orbit
