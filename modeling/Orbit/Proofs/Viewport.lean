import Orbit.Proofs.Binary64.Arithmetic
import Orbit.Proofs.Picture.Render

/-!
# Where the sample points are

A sample point is computed from the bounds with four roundings. Each of them is monotone, so the points of a row and
of a column are in order, and all of them are inside the rectangle when the last one is. It need not be: the
difference of the bounds can overflow, and between bounds that are close together the last point is rounded up to the
upper bound.

* `offset_le` : what the first three roundings add, at most;
* `within_part_iff` : the points between two bounds are inside exactly when the last one is below the upper bound;
* `contains_sample_iff` : the same for rectangles, and bounds for which it is so.
-/

namespace Orbit.Binary64

open Float.Model

/-! ## Multiples of the smallest number -/

/-- Whole multiples of the smallest positive number. -/
def OnGrid (q : ℚ) : Prop := ∃ n : ℤ, q = n * 2 ^ (-1074 : ℤ)

theorem onGrid_nearest (q : ℚ) : OnGrid (nearest q) := by
  have hle := neg_le_gridExponent q
  refine ⟨roundEven (q / 2 ^ gridExponent q) * 2 ^ (gridExponent q + 1074).toNat, ?_⟩
  have hpow : (2 : ℚ) ^ gridExponent q = 2 ^ (gridExponent q + 1074).toNat * 2 ^ (-1074 : ℤ) := by
    rw [← zpow_natCast, ← two_zpow_add]
    congr 1
    omega
  rw [nearest, hpow, Int.cast_mul, Int.cast_pow, Int.cast_ofNat, mul_assoc]

theorem onGrid_value (x : Float) : OnGrid (value x) := nearest_value x ▸ onGrid_nearest (value x)

theorem OnGrid.sub {q r : ℚ} : OnGrid q → OnGrid r → OnGrid (q - r)
  | ⟨m, hm⟩, ⟨n, hn⟩ => ⟨m - n, by rw [hm, hn, Int.cast_sub, sub_mul]⟩

theorem OnGrid.mul_natCast {q : ℚ} : OnGrid q → ∀ k : ℕ, OnGrid (q * k)
  | ⟨m, hm⟩, k => ⟨m * k, by rw [hm, Int.cast_mul, Int.cast_natCast, mul_right_comm]⟩

theorem nearest_le_of_gridExponent_ne {q : ℚ} (hq : 0 ≤ q) (h : gridExponent q ≠ -1074) :
    nearest q ≤ q * (1 + 2⁻¹ ^ 53) := by
  have herror := abs_sub_nearest_le_mul h
  have habs := neg_abs_le (q - nearest q)
  rw [abs_of_nonneg hq] at herror
  norm_num at herror ⊢
  linarith

/-- On the grid the error is relative to the number, however small that is. -/
theorem OnGrid.nearest_le {q : ℚ} (h : OnGrid q) (hq : 0 ≤ q) : nearest q ≤ q * (1 + 2⁻¹ ^ 53) := by
  by_cases hgrid : gridExponent q = -1074
  · obtain ⟨n, rfl⟩ := h
    rw [nearest_of_grid hgrid.le]
    exact le_mul_of_one_le_right hq (by norm_num)
  · exact nearest_le_of_gridExponent_ne hq hgrid

theorem nearest_le_add {q : ℚ} (hq : 0 ≤ q) : nearest q ≤ q * (1 + 2⁻¹ ^ 53) + 2 ^ (-1075 : ℤ) := by
  by_cases hgrid : gridExponent q = -1074
  · have herror := abs_sub_nearest_le q
    have habs := neg_abs_le (q - nearest q)
    have hscale : q ≤ q * (1 + 2⁻¹ ^ 53) := le_mul_of_one_le_right hq (by norm_num)
    rw [hgrid, show (-1074 : ℤ) = 1 + -1075 by norm_num, two_zpow_add, zpow_one] at herror
    linarith
  · exact (nearest_le_of_gridExponent_ne hq hgrid).trans (le_add_of_nonneg_right (two_zpow_pos _).le)

/-! ## Steps across an interval -/

/-- What is added to the lower bound of an interval of width `d` for step `i` of `n`. -/
def offset (d : ℚ) (i n : ℕ) : ℚ := nearest (nearest (nearest d * i) / n)

section Offset
variable {d : ℚ} (hd : 0 < d)
include hd

theorem offset_nonneg (i n : ℕ) : 0 ≤ offset d i n :=
  nearest_nonneg (div_nonneg (nearest_nonneg (mul_nonneg (nearest_nonneg hd.le) i.cast_nonneg)) n.cast_nonneg)

theorem offset_mono {i j : ℕ} (hij : i ≤ j) (n : ℕ) : offset d i n ≤ offset d j n := by
  have hcast : (i : ℚ) ≤ j := by exact_mod_cast hij
  have hproduct := nearest_mono (mul_le_mul_of_nonneg_left hcast (nearest_nonneg hd.le))
  exact nearest_mono (div_le_div_of_nonneg_right hproduct n.cast_nonneg)

variable (hgrid : OnGrid d) {i n : ℕ} (hin : i < n) (hn : n < 2 ^ 32)
include hgrid hin hn

theorem product_le : nearest (nearest d * i) ≤ d * (i + 2⁻¹ ^ 19) := by
  have hi : (i : ℚ) < 2 ^ 32 := by exact_mod_cast hin.trans hn
  have hwidth := hgrid.nearest_le hd.le
  have hnonneg := mul_nonneg (nearest_nonneg hd.le) (i.cast_nonneg (α := ℚ))
  calc nearest (nearest d * i) ≤ nearest d * i * (1 + 2⁻¹ ^ 53) := ((onGrid_nearest d).mul_natCast i).nearest_le hnonneg
    _ ≤ d * (1 + 2⁻¹ ^ 53) * i * (1 + 2⁻¹ ^ 53) := by gcongr
    _ = d * (i + i * (2⁻¹ ^ 52 + 2⁻¹ ^ 106)) := by ring
    _ ≤ d * (i + 2⁻¹ ^ 19) := by gcongr; linarith

theorem offset_le_add : offset d i n ≤ d / n * (i + 2⁻¹ ^ 18) + 2 ^ (-1075 : ℤ) := by
  have hi : (i : ℚ) < 2 ^ 32 := by exact_mod_cast hin.trans hn
  have hproduct := product_le hd hgrid hin hn
  have hnonneg := nearest_nonneg (mul_nonneg (nearest_nonneg hd.le) (i.cast_nonneg (α := ℚ)))
  calc offset d i n ≤ nearest (nearest d * i) / n * (1 + 2⁻¹ ^ 53) + 2 ^ (-1075 : ℤ) :=
        nearest_le_add (div_nonneg hnonneg n.cast_nonneg)
    _ ≤ d * (i + 2⁻¹ ^ 19) / n * (1 + 2⁻¹ ^ 53) + 2 ^ (-1075 : ℤ) := by gcongr
    _ = d / n * (i + (2⁻¹ ^ 19 + i * 2⁻¹ ^ 53 + 2⁻¹ ^ 72)) + 2 ^ (-1075 : ℤ) := by ring
    _ ≤ d / n * (i + 2⁻¹ ^ 18) + 2 ^ (-1075 : ℤ) := by gcongr; linarith

/-- A step that is not the last one stays inside the interval. -/
theorem offset_le : offset d i n ≤ d := by
  have hnpos : (0 : ℚ) < n := by exact_mod_cast (Nat.zero_le i).trans_lt hin
  have hin' : (i : ℚ) + 1 ≤ n := by exact_mod_cast hin
  by_cases hsmall : gridExponent d = -1074
  · -- no rounding of the width, and the quotient is at most the width
    have hexact : nearest d = d := by
      obtain ⟨m, rfl⟩ := hgrid
      exact nearest_of_grid hsmall.le
    have hquotient : nearest (nearest d * i) / n ≤ d := by
      rw [div_le_iff₀ hnpos]
      exact (product_le hd hgrid hin hn).trans (mul_le_mul_of_nonneg_left (by linarith) hd.le)
    calc offset d i n ≤ nearest d := nearest_mono hquotient
      _ = d := hexact
  · -- a step is much wider than the smallest number
    have hwide : (2 : ℚ) ^ (-1053 : ℤ) * 2 ^ 32 ≤ d := by
      have hlow := zpow_gridExponent_le hd.ne' hsmall
      have hgrid := neg_le_gridExponent d
      rw [abs_of_pos hd] at hlow
      exact le_trans (by rw [← zpow_natCast, ← two_zpow_add]; exact two_zpow_le (by omega)) hlow
    have hstep : (2 : ℚ) ^ (-1053 : ℤ) ≤ d / n := by
      rw [le_div_iff₀ hnpos]
      have hn' : (n : ℚ) ≤ 2 ^ 32 := by exact_mod_cast hn.le
      exact (mul_le_mul_of_nonneg_left hn' (two_zpow_pos _).le).trans hwide
    have htiny : (2 : ℚ) ^ (-1075 : ℤ) ≤ d / n * 2⁻¹ := by
      calc (2 : ℚ) ^ (-1075 : ℤ) ≤ 2 ^ (-1053 : ℤ) * 2 ^ (-1 : ℤ) := by
            rw [← two_zpow_add]; exact two_zpow_le (by norm_num)
        _ ≤ d / n * 2⁻¹ := by rw [zpow_neg_one]; gcongr
    calc offset d i n ≤ d / n * (i + 2⁻¹ ^ 18) + d / n * 2⁻¹ := (offset_le_add hd hgrid hin hn).trans (by gcongr)
      _ = d / n * (i + 2⁻¹ ^ 18 + 2⁻¹) := by ring
      _ ≤ d / n * n := mul_le_mul_of_nonneg_left (by linarith) (div_nonneg hd.le hnpos.le)
      _ = d := div_mul_cancel₀ d hnpos.ne'

end Offset

/-- Where a step is wide compared with the distance of the numbers around it, no step is rounded up to the upper
bound. -/
theorem nearest_add_offset_lt {lo hi : ℚ} (hlt : lo < hi) (hgrid : OnGrid (hi - lo)) {i n : ℕ} (hin : i < n)
    (hn : n < 2 ^ 32) (hstep : 2 ^ (-1073 : ℤ) ≤ (hi - lo) / n) (hwide : max |lo| |hi| ≤ 2 ^ 52 * ((hi - lo) / n)) :
    nearest (lo + offset (hi - lo) i n) < hi := by
  have hd : 0 < hi - lo := sub_pos.2 hlt
  have hnpos : (0 : ℚ) < n := by exact_mod_cast (Nat.zero_le i).trans_lt hin
  set w := (hi - lo) / n with hw
  have hwpos : 0 < w := div_pos hd hnpos
  have htotal : w * n = hi - lo := div_mul_cancel₀ _ hnpos.ne'
  set s := lo + offset (hi - lo) i n with hs
  have hlow : lo ≤ s := le_add_of_nonneg_right (offset_nonneg hd i n)
  have hhigh : s ≤ hi := by linarith [offset_le hd hgrid hin hn]
  have hgap : w < 2 * (hi - s) := by
    have hsize := offset_le_add hd hgrid hin hn
    have hin' : (i : ℚ) + 1 ≤ n := by exact_mod_cast hin
    have hlast : w * (i + 2⁻¹ ^ 18) ≤ w * (n - 1 + 2⁻¹ ^ 18) := mul_le_mul_of_nonneg_left (by linarith) hwpos.le
    have htiny : (2 : ℚ) ^ (-1075 : ℤ) * 4 = 2 ^ (-1073 : ℤ) := by
      rw [show (4 : ℚ) = 2 ^ (2 : ℤ) by norm_num, ← two_zpow_add]
      norm_num
    linarith
  by_contra hle
  have herror : 2 * |s - nearest s| ≤ w := by
    by_cases hsmall : gridExponent s = -1074
    · calc 2 * |s - nearest s| ≤ 2 ^ (-1074 : ℤ) := hsmall ▸ abs_sub_nearest_le s
        _ ≤ 2 ^ (-1073 : ℤ) := two_zpow_le (by norm_num)
        _ ≤ w := hstep
    · have hrelative := abs_sub_nearest_le_mul hsmall
      have hsize := (abs_le_max_abs_abs hlow hhigh).trans hwide
      linarith
  have habs := neg_abs_le (s - nearest s)
  linarith

/-! ## Results that leave the range -/

/-- Positive infinity, and what is no number: neither is below a finite number. -/
def IsLost (x : Float) : Prop := x.toModel.unpack = .infinity .positive ∨ x.toModel.unpack = .notANumber

theorem Rounded.value_eq {q : ℚ} {x : Float} (h : Rounded q x) (hx : x.isFinite = true) : value x = nearest q := by
  cases h with
  | finite _ hvalue => exact hvalue
  | above _ hinf | below _ hinf =>
    exact absurd ((congrArg UnpackedFloat.isFinite hinf).symm.trans hx) Bool.false_ne_true

theorem Rounded.isLost {q : ℚ} {x : Float} (h : Rounded q x) (hq : 0 ≤ q) (hx : ¬x.isFinite = true) : IsLost x := by
  cases h with
  | finite hfinite _ => exact absurd hfinite hx
  | above _ hinf => exact Or.inl hinf
  | below hle _ =>
    have hlarge : (-2 ^ 1024 : ℚ) < 0 := neg_lt_zero.2 (by positivity)
    exact absurd (hle.trans_lt hlarge) (nearest_nonneg hq).not_gt

theorem unpack_word (n : UInt32) : (∃ s, n = 0 ∧ n.toFloat.toModel.unpack = .zero s) ∨
    ∃ m e hm, n.toFloat.toModel.unpack = .finite .positive m e hm := by
  obtain ⟨hfinite, hvalue⟩ := isFinite_ofWord n
  unfold value at hvalue
  rcases isFinite_iff.1 hfinite with ⟨s, hu⟩ | ⟨s, m, e, hm, hu⟩
  · rw [hu] at hvalue
    have hzero : (0 : ℚ) = n.toNat := hvalue
    exact Or.inl ⟨s, UInt32.toNat_inj.1 (by exact_mod_cast hzero.symm), hu⟩
  · cases s with
    | positive => exact Or.inr ⟨m, e, hm, hu⟩
    | negative =>
      rw [hu] at hvalue
      have hpos := placed_value_pos e hm
      have hnonneg : (0 : ℚ) ≤ n.toNat := Nat.cast_nonneg _
      have hneg : -((m : ℚ) * 2 ^ e) = n.toNat := hvalue
      linarith

theorem isLost_pack {u : UnpackedFloat} (h : u = .infinity .positive ∨ u = .notANumber) :
    IsLost (.ofModel (pack u)) := by
  rcases h with rfl | rfl
  · exact Or.inl (unpack_packComponents .positive _ _)
  · exact Or.inr (unpack_packComponents .positive _ _)

section Lost
variable {x : Float} (h : IsLost x)
include h

theorem IsLost.not_lt {y : Float} (hy : y.isFinite = true) : ¬x < y := by
  rw [float_lt_iff]
  rcases isFinite_iff.1 hy with ⟨t, hu⟩ | ⟨t, m, e, hm, hu⟩ <;> rcases h with hx | hx <;> rw [hx, hu] <;>
    exact Bool.false_ne_true

theorem IsLost.mul_word (i : UInt32) : IsLost (x * i.toFloat) := by
  apply isLost_pack
  rcases unpack_word i with ⟨t, -, hu⟩ | ⟨m, e, hm, hu⟩ <;> rcases h with hx | hx <;> rw [hx, hu]
  · exact Or.inr rfl
  · exact Or.inr rfl
  · exact Or.inl rfl
  · exact Or.inr rfl

theorem IsLost.div_word {n : UInt32} (hn : n ≠ 0) : IsLost (x / n.toFloat) := by
  apply isLost_pack
  rcases unpack_word n with ⟨t, hzero, -⟩ | ⟨m, e, hm, hu⟩
  · exact absurd hzero hn
  · rcases h with hx | hx <;> rw [hx, hu]
    · exact Or.inl rfl
    · exact Or.inr rfl

theorem IsLost.finite_add {y : Float} (hy : y.isFinite = true) : IsLost (y + x) := by
  apply isLost_pack
  rcases isFinite_iff.1 hy with ⟨t, hu⟩ | ⟨t, m, e, hm, hu⟩ <;> rcases h with hx | hx <;> rw [hx, hu]
  · exact Or.inl rfl
  · exact Or.inr rfl
  · exact Or.inl rfl
  · exact Or.inr rfl

end Lost

end Orbit.Binary64

namespace Orbit.Viewport

open Binary64

/-! ## Points between two bounds -/

/-- Bounds and a number of steps that pass the check of a viewport. -/
structure IsRange (low high : Float) (n : UInt32) : Prop where
  low_finite : low.isFinite = true
  high_finite : high.isFinite = true
  lt : low < high
  ne_zero : n ≠ 0

def Within (low high x : Float) : Prop := x.isFinite = true ∧ low ≤ x ∧ x < high

/-- Neither the difference of the bounds nor its product with the last index is infinite. -/
def StaysFinite (low high : Float) (n : UInt32) : Prop :=
  (high - low).isFinite = true ∧ ((high - low) * (n - 1).toFloat).isFinite = true

/-- A step is at least as wide as the numbers of the size of the bounds are apart. -/
def IsCoarse (low high : Float) (n : UInt32) : Prop :=
  2 ^ (-1073 : ℤ) ≤ (value high - value low) / n.toNat ∧
    max |value low| |value high| ≤ 2 ^ 52 * ((value high - value low) / n.toNat)

section Range
variable {low high : Float} {n : UInt32} (hrange : IsRange low high n)
include hrange

theorem IsRange.value_lt : value low < value high :=
  (float_lt_iff_value hrange.low_finite hrange.high_finite).1 hrange.lt

theorem IsRange.toNat_pos : 0 < n.toNat :=
  Nat.pos_of_ne_zero fun hzero => hrange.ne_zero (UInt32.toNat_inj.1 hzero)

theorem IsRange.toNat_pred : (n - 1).toNat = n.toNat - 1 := by
  have hle : (1 : UInt32) ≤ n := UInt32.le_iff_toNat_le.2 hrange.toNat_pos
  exact UInt32.toNat_sub_of_le n 1 hle

/-- The difference of the bounds and its product with an index, each rounded. -/
theorem product_rounded (hd : (high - low).isFinite = true) (i : UInt32) :
    Rounded (nearest (value high - value low) * i.toNat) ((high - low) * i.toFloat) := by
  obtain ⟨hword, hvalue⟩ := isFinite_ofWord i
  have hproduct := rounded_mul hd hword
  rwa [(rounded_sub hrange.high_finite hrange.low_finite).value_eq hd, hvalue] at hproduct

theorem part_rounded {i : UInt32} (hd : (high - low).isFinite = true)
    (hi : ((high - low) * i.toFloat).isFinite = true) :
    Rounded (value low + offset (value high - value low) i.toNat n.toNat) (part low high i n) := by
  set product := (high - low) * i.toFloat with hproduct
  obtain ⟨hword, hvalue⟩ := isFinite_ofWord n
  have hn : (1 : ℚ) ≤ n.toNat := by exact_mod_cast hrange.toNat_pos
  have hquotient := rounded_div hi hword (by rw [hvalue]; linarith)
  rw [hvalue] at hquotient
  -- a quotient by a whole number is not larger than the dividend
  have hsmall : |nearest (value product / n.toNat)| < 2 ^ 1024 := by
    calc |nearest (value product / n.toNat)| = nearest (|value product| / n.toNat) := by
          rw [abs_nearest, abs_div, Nat.abs_cast]
      _ ≤ nearest |value product| := nearest_mono (div_le_self (abs_nonneg _) hn)
      _ = |value product| := by rw [← abs_nearest, nearest_value]
      _ < 2 ^ 1024 := abs_value_lt product
  obtain ⟨hfinite, hquotient⟩ := hquotient.of_abs_lt hsmall
  have hsum := rounded_add hrange.low_finite hfinite
  rwa [hquotient, (product_rounded hrange hd i).value_eq hi] at hsum

theorem part_isLost {i : UInt32} (h : ¬((high - low).isFinite = true ∧ ((high - low) * i.toFloat).isFinite = true)) :
    IsLost (part low high i n) := by
  have hwidth : 0 ≤ value high - value low := sub_nonneg.2 hrange.value_lt.le
  have hproduct : IsLost ((high - low) * i.toFloat) := by
    by_cases hd : (high - low).isFinite = true
    · have hnonneg := mul_nonneg (nearest_nonneg hwidth) (i.toNat.cast_nonneg (α := ℚ))
      exact (product_rounded hrange hd i).isLost hnonneg fun hi => h ⟨hd, hi⟩
    · exact ((rounded_sub hrange.high_finite hrange.low_finite).isLost hwidth hd).mul_word i
  exact (hproduct.div_word hrange.ne_zero).finite_add hrange.low_finite

theorem product_isFinite (hstays : StaysFinite low high n) {i : UInt32} (hi : i < n) :
    ((high - low) * i.toFloat).isFinite = true := by
  obtain ⟨hd, hlast⟩ := hstays
  have hwidth : 0 ≤ nearest (value high - value low) := nearest_nonneg (sub_nonneg.2 hrange.value_lt.le)
  have hle : (i.toNat : ℚ) ≤ (n - 1).toNat := by
    rw [hrange.toNat_pred]
    exact_mod_cast Nat.le_sub_one_of_lt (UInt32.lt_iff_toNat_lt.1 hi)
  have hsmall : |nearest (nearest (value high - value low) * i.toNat)| < 2 ^ 1024 := by
    rw [abs_of_nonneg (nearest_nonneg (mul_nonneg hwidth (Nat.cast_nonneg _)))]
    calc nearest (nearest (value high - value low) * i.toNat)
        ≤ nearest (nearest (value high - value low) * (n - 1).toNat) :=
          nearest_mono (mul_le_mul_of_nonneg_left hle hwidth)
      _ = value ((high - low) * (n - 1).toFloat) := ((product_rounded hrange hd (n - 1)).value_eq hlast).symm
      _ < 2 ^ 1024 := (abs_lt.1 (abs_value_lt _)).2
  exact ((product_rounded hrange hd i).of_abs_lt hsmall).1

/-- A point between two bounds is rounded to a number from the lower to the upper one. -/
theorem part_between (hstays : StaysFinite low high n) {i : UInt32} (hi : i < n) :
    (part low high i n).isFinite = true ∧
      value (part low high i n) = nearest (value low + offset (value high - value low) i.toNat n.toNat) ∧
      value low ≤ value (part low high i n) ∧ value (part low high i n) ≤ value high := by
  have hwidth : 0 < value high - value low := sub_pos.2 hrange.value_lt
  have hgrid := (onGrid_value high).sub (onGrid_value low)
  set sum := value low + offset (value high - value low) i.toNat n.toNat with hsum
  have hlow : value low ≤ nearest sum := by
    rw [← nearest_value low]
    exact nearest_mono (le_add_of_nonneg_right (offset_nonneg hwidth _ _))
  have hhigh : nearest sum ≤ value high := by
    rw [← nearest_value high]
    refine nearest_mono ?_
    linarith [offset_le hwidth hgrid (UInt32.lt_iff_toNat_lt.1 hi) n.toNat_lt]
  have hsmall : |nearest sum| < 2 ^ 1024 :=
    (abs_le_max_abs_abs hlow hhigh).trans_lt (max_lt (abs_value_lt low) (abs_value_lt high))
  obtain ⟨hfinite, hvalue⟩ := (part_rounded hrange hstays.1 (product_isFinite hrange hstays hi)).of_abs_lt hsmall
  exact ⟨hfinite, hvalue, hvalue ▸ hlow, hvalue ▸ hhigh⟩

theorem part_le (hstays : StaysFinite low high n) {i : UInt32} (hi : i < n) :
    (part low high i n).isFinite = true ∧ low ≤ part low high i n ∧ part low high i n ≤ high := by
  obtain ⟨hfinite, -, hlow, hhigh⟩ := part_between hrange hstays hi
  exact ⟨hfinite, (float_le_iff_value hrange.low_finite hfinite).2 hlow,
    (float_le_iff_value hfinite hrange.high_finite).2 hhigh⟩

theorem within_part_of_isCoarse (hstays : StaysFinite low high n) (hcoarse : IsCoarse low high n) {i : UInt32}
    (hi : i < n) :
    Within low high (part low high i n) := by
  obtain ⟨hfinite, hvalue, hlow, -⟩ := part_between hrange hstays hi
  have hgrid := (onGrid_value high).sub (onGrid_value low)
  refine ⟨hfinite, (float_le_iff_value hrange.low_finite hfinite).2 hlow,
    (float_lt_iff_value hfinite hrange.high_finite).2 ?_⟩
  rw [hvalue]
  exact nearest_add_offset_lt hrange.value_lt hgrid (UInt32.lt_iff_toNat_lt.1 hi) n.toNat_lt hcoarse.1 hcoarse.2

/-- **All points are inside when the last one is.** -/
theorem within_part_iff : (∀ i, i < n → Within low high (part low high i n)) ↔ part low high (n - 1) n < high := by
  have hpred : n - 1 < n := by
    rw [UInt32.lt_iff_toNat_lt, hrange.toNat_pred]
    exact Nat.sub_one_lt_of_lt hrange.toNat_pos
  refine ⟨fun h => (h (n - 1) hpred).2.2, fun hlast i hi => ?_⟩
  have hstays : StaysFinite low high n := by
    by_contra hlost
    exact (part_isLost hrange hlost).not_lt hrange.high_finite hlast
  obtain ⟨hfinite, hvalue, hlow, -⟩ := part_between hrange hstays hi
  obtain ⟨hfinite', hvalue', -, -⟩ := part_between hrange hstays hpred
  have hle : i.toNat ≤ (n - 1).toNat := by
    rw [hrange.toNat_pred]
    exact Nat.le_sub_one_of_lt (UInt32.lt_iff_toNat_lt.1 hi)
  have hmono : value (part low high i n) ≤ value (part low high (n - 1) n) := by
    rw [hvalue, hvalue']
    exact nearest_mono (add_le_add_right (offset_mono (sub_pos.2 hrange.value_lt) hle n.toNat) _)
  rw [float_lt_iff_value hfinite' hrange.high_finite] at hlast
  exact ⟨hfinite, (float_le_iff_value hrange.low_finite hfinite).2 hlow,
    (float_lt_iff_value hfinite hrange.high_finite).2 (hmono.trans_lt hlast)⟩

end Range

/-! ## Rectangles -/

def Contains (v : Viewport Float) (c : Complex Float) : Prop :=
  Within v.reMin v.reMax c.re ∧ Within v.imMin v.imMax c.im

theorem isRange_of_check {v : Viewport Float} (h : v.check = none) :
    IsRange v.reMin v.reMax v.width ∧ IsRange v.imMin v.imMax v.height := by
  obtain ⟨hwidth, hheight⟩ := ne_zero_of_check h
  unfold check at h
  split_ifs at h with hpixels hfinite hless
  simp only [List.any_cons, List.any_nil, Bool.or_false, Bool.or_eq_true, Bool.not_eq_true', not_or,
    Bool.not_eq_false] at hfinite hless
  obtain ⟨hreMin, hreMax, himMin, himMax⟩ := hfinite
  exact ⟨⟨hreMin, hreMax, of_decide_eq_true hless.1, hwidth⟩, ⟨himMin, himMax, of_decide_eq_true hless.2, hheight⟩⟩

/-- **Sample points and the rectangle of a viewport.** They are all in the half-open rectangle exactly when the one of
the last pixel is. Without overflow they are in the closed rectangle, and in the half-open one if the pixels are
coarse. -/
theorem contains_sample_iff {v : Viewport Float} (h : v.check = none) :
    ((∀ x y, x < v.width → y < v.height → v.Contains (v.sample x y)) ↔
      (v.sample (v.width - 1) (v.height - 1)).re < v.reMax ∧ (v.sample (v.width - 1) (v.height - 1)).im < v.imMax) ∧
    (StaysFinite v.reMin v.reMax v.width → StaysFinite v.imMin v.imMax v.height →
      (∀ x y, x < v.width → y < v.height →
        ((v.sample x y).re.isFinite = true ∧ v.reMin ≤ (v.sample x y).re ∧ (v.sample x y).re ≤ v.reMax) ∧
        ((v.sample x y).im.isFinite = true ∧ v.imMin ≤ (v.sample x y).im ∧ (v.sample x y).im ≤ v.imMax)) ∧
      (IsCoarse v.reMin v.reMax v.width → IsCoarse v.imMin v.imMax v.height →
        ∀ x y, x < v.width → y < v.height → v.Contains (v.sample x y))) := by
  obtain ⟨hre, him⟩ := isRange_of_check h
  have hwidth : 0 < v.width := UInt32.lt_iff_toNat_lt.2 hre.toNat_pos
  have hheight : 0 < v.height := UInt32.lt_iff_toNat_lt.2 him.toNat_pos
  refine ⟨?_, fun hfinre hfinim => ⟨fun x y hx hy => ⟨part_le hre hfinre hx, part_le him hfinim hy⟩,
    fun hcoarsere hcoarseim x y hx hy =>
      ⟨within_part_of_isCoarse hre hfinre hcoarsere hx, within_part_of_isCoarse him hfinim hcoarseim hy⟩⟩⟩
  rw [show (v.sample (v.width - 1) (v.height - 1)).re = part v.reMin v.reMax (v.width - 1) v.width from rfl,
    show (v.sample (v.width - 1) (v.height - 1)).im = part v.imMin v.imMax (v.height - 1) v.height from rfl,
    ← within_part_iff hre, ← within_part_iff him]
  exact ⟨fun hall => ⟨fun x hx => (hall x 0 hx hheight).1, fun y hy => (hall 0 y hwidth hy).2⟩,
    fun ⟨hx, hy⟩ x y hxlt hylt => ⟨hx x hxlt, hy y hylt⟩⟩

theorem contains_sample_standard : standard.check = none ∧
    (StaysFinite standard.reMin standard.reMax standard.width ∧
      StaysFinite standard.imMin standard.imMax standard.height) ∧
    (IsCoarse standard.reMin standard.reMax standard.width ∧ IsCoarse standard.imMin standard.imMax standard.height) ∧
    ∀ x y, x < standard.width → y < standard.height → standard.Contains (standard.sample x y) := by
  have hcheck : standard.check = none := by decide +kernel
  have hfinre : StaysFinite standard.reMin standard.reMax standard.width := ⟨by decide +kernel, by decide +kernel⟩
  have hfinim : StaysFinite standard.imMin standard.imMax standard.height := ⟨by decide +kernel, by decide +kernel⟩
  have hcoarsere : IsCoarse standard.reMin standard.reMax standard.width := ⟨by decide +kernel, by decide +kernel⟩
  have hcoarseim : IsCoarse standard.imMin standard.imMax standard.height := ⟨by decide +kernel, by decide +kernel⟩
  exact ⟨hcheck, ⟨hfinre, hfinim⟩, ⟨hcoarsere, hcoarseim⟩,
    ((contains_sample_iff hcheck).2 hfinre hfinim).2 hcoarsere hcoarseim⟩

/-- Bounds that are neighbours, and bounds whose difference overflows. -/
def narrowAndTall : Viewport Float :=
  ⟨4, 1, .ofBits 0x3ff0000000000001, .ofBits 0x3ff0000000000002, .ofBits 0xffee42d130773b76, .ofBits 0x7fee42d130773b76⟩

/-- The last point of the row is the upper bound, and its imaginary part is no number. -/
theorem not_contains_sample_narrowAndTall :
    narrowAndTall.check = none ∧ 3 < narrowAndTall.width ∧ 0 < narrowAndTall.height ∧
    (narrowAndTall.sample 3 0).re.toBits = narrowAndTall.reMax.toBits ∧ (narrowAndTall.sample 3 0).im.isNaN = true ∧
    ¬narrowAndTall.Contains (narrowAndTall.sample 3 0) := by
  refine ⟨by decide +kernel, by decide, by decide, by decide +kernel, by decide +kernel, fun h => ?_⟩
  exact absurd h.1.2.2 (by decide +kernel)

end Orbit.Viewport
