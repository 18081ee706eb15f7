import Mathlib.Data.Int.Log
import Mathlib.Data.Rat.Floor
import Mathlib.Tactic.FieldSimp
import Mathlib.Tactic.Linarith
import Mathlib.Tactic.Positivity
import Mathlib.Tactic.Ring

/-!
# Rounding to nearest

Rounding of rationals to the numbers with 53 binary places and exponents from -1074 on, with ties to even. There is no
largest number here: what is too large for a word is told apart where results are packed.

* `roundEven x` : the whole number nearest to `x`; `roundEven_eq_iff` says which one that is;
* `gridExponent q` : the exponent of the last place that a number of the size of `q` keeps;
* `nearest q` : the rounded number. It is odd (`nearest_neg`) and monotone (`nearest_mono`), and keeps what has few
  places (`nearest_of_places`);
* `nearest_eq_of_between` : what lies half way to the neighbours of a number, at most, is rounded to it.
-/

namespace Orbit.Binary64

/-! ## Whole numbers -/

/-- The whole number nearest to a rational; of two it is the even one. -/
def roundEven (x : ℚ) : ℤ :=
  if 2 * Int.fract x < 1 then ⌊x⌋ else if 1 < 2 * Int.fract x then ⌊x⌋ + 1 else ⌊x⌋ + ⌊x⌋ % 2

theorem roundEven_spec (x : ℚ) :
    2 * |x - roundEven x| ≤ 1 ∧ (2 * |x - roundEven x| = 1 → roundEven x % 2 = 0) := by
  have hfract : x = ⌊x⌋ + Int.fract x := (Int.floor_add_fract x).symm
  have hnonneg := Int.fract_nonneg x
  have hlt := Int.fract_lt_one x
  unfold roundEven
  split_ifs with hbelow habove
  · have habs : |x - ⌊x⌋| = Int.fract x := by rw [Int.self_sub_floor, abs_of_nonneg hnonneg]
    rw [habs]
    exact ⟨hbelow.le, fun h => absurd h hbelow.ne⟩
  · have habs : |x - ((⌊x⌋ + 1 : ℤ) : ℚ)| = 1 - Int.fract x := by
      rw [abs_of_nonpos (by push_cast; linarith)]
      push_cast
      linarith
    rw [habs]
    exact ⟨by linarith, fun h => by linarith⟩
  · -- half way: the floor if it is even, else the next one
    have hhalf : Int.fract x = 1 / 2 := by linarith
    rcases Int.emod_two_eq_zero_or_one ⌊x⌋ with heven | hodd
    · rw [heven, add_zero, Int.self_sub_floor, hhalf]
      exact ⟨by norm_num, fun _ => heven⟩
    · have habs : |x - ((⌊x⌋ + 1 : ℤ) : ℚ)| = 1 / 2 := by
        rw [abs_of_nonpos (by push_cast; linarith)]
        push_cast
        linarith
      rw [hodd, habs]
      exact ⟨by norm_num, fun _ => by omega⟩

theorem roundEven_eq_iff {x : ℚ} {n : ℤ} :
    roundEven x = n ↔ 2 * |x - n| ≤ 1 ∧ (2 * |x - n| = 1 → n % 2 = 0) := by
  constructor
  · rintro rfl
    exact roundEven_spec x
  · rintro ⟨hle, htie⟩
    obtain ⟨hle', htie'⟩ := roundEven_spec x
    have hx := abs_le.1 (show |x - n| ≤ 1 / 2 by linarith)
    have hx' := abs_le.1 (show |x - roundEven x| ≤ 1 / 2 by linarith)
    -- two candidates are at most one apart, and if they are, both are ties
    rcases lt_trichotomy (roundEven x) n with hlt | heq | hgt
    · have hstep : (roundEven x : ℚ) + 1 ≤ n := by exact_mod_cast hlt
      have hn : n % 2 = 0 := htie (by rw [abs_of_nonpos (by linarith)]; linarith)
      have hr : roundEven x % 2 = 0 := htie' (by rw [abs_of_nonneg (by linarith)]; linarith)
      have hsucc : (roundEven x : ℚ) + 1 = n := by linarith
      have hsucc' : roundEven x + 1 = n := by exact_mod_cast hsucc
      omega
    · exact heq
    · have hstep : (n : ℚ) + 1 ≤ roundEven x := by exact_mod_cast hgt
      have hn : n % 2 = 0 := htie (by rw [abs_of_nonneg (by linarith)]; linarith)
      have hr : roundEven x % 2 = 0 := htie' (by rw [abs_of_nonpos (by linarith)]; linarith)
      have hsucc : (n : ℚ) + 1 = roundEven x := by linarith
      have hsucc' : n + 1 = roundEven x := by exact_mod_cast hsucc
      omega

theorem roundEven_intCast (n : ℤ) : roundEven n = n :=
  roundEven_eq_iff.2 ⟨by simp, fun h => by simp at h⟩

theorem roundEven_neg (x : ℚ) : roundEven (-x) = -roundEven x := by
  obtain ⟨hle, htie⟩ := roundEven_spec x
  have habs : |-x - ((-roundEven x : ℤ) : ℚ)| = |x - roundEven x| := by
    rw [← abs_neg]
    congr 1
    push_cast
    ring
  rw [roundEven_eq_iff, habs]
  exact ⟨hle, fun h => by have := htie h; omega⟩

theorem roundEven_mono {x y : ℚ} (h : x ≤ y) : roundEven x ≤ roundEven y := by
  by_contra hlt
  rw [not_le] at hlt
  obtain ⟨hx, htiex⟩ := roundEven_spec x
  obtain ⟨hy, htiey⟩ := roundEven_spec y
  have hx' := abs_le.1 (show |x - roundEven x| ≤ 1 / 2 by linarith)
  have hy' := abs_le.1 (show |y - roundEven y| ≤ 1 / 2 by linarith)
  have hstep : (roundEven y : ℚ) + 1 ≤ roundEven x := by exact_mod_cast hlt
  -- then both are half way between the same two numbers
  have hevenx := htiex (by rw [abs_of_nonpos (by linarith)]; linarith)
  have heveny := htiey (by rw [abs_of_nonneg (by linarith)]; linarith)
  have hsucc : (roundEven y : ℚ) + 1 = roundEven x := by linarith
  have hsucc' : roundEven y + 1 = roundEven x := by exact_mod_cast hsucc
  omega

theorem roundEven_two_pow (k : ℕ) : roundEven (2 ^ k) = 2 ^ k := by
  have hfixed := roundEven_intCast (2 ^ k)
  push_cast at hfixed
  exact hfixed

theorem roundEven_le_two_pow {x : ℚ} {k : ℕ} (h : x ≤ 2 ^ k) : (roundEven x : ℚ) ≤ 2 ^ k := by
  have hround := Int.cast_le (R := ℚ).2 (roundEven_mono h)
  rw [roundEven_two_pow] at hround
  push_cast at hround
  exact hround

theorem two_pow_le_roundEven {x : ℚ} {k : ℕ} (h : 2 ^ k ≤ x) : 2 ^ k ≤ (roundEven x : ℚ) := by
  have hround := Int.cast_le (R := ℚ).2 (roundEven_mono h)
  rw [roundEven_two_pow] at hround
  push_cast at hround
  exact hround

/-! ## Places -/

theorem two_zpow_pos (e : ℤ) : (0 : ℚ) < 2 ^ e := zpow_pos (by norm_num) e

theorem two_zpow_le {e f : ℤ} (h : e ≤ f) : (2 : ℚ) ^ e ≤ 2 ^ f := zpow_le_zpow_right₀ (by norm_num) h

theorem two_zpow_add (e f : ℤ) : (2 : ℚ) ^ (e + f) = 2 ^ e * 2 ^ f := zpow_add₀ (by norm_num) e f

/-- The exponent of the last place that is kept of a number of the size of `q`. -/
def gridExponent (q : ℚ) : ℤ := max (Int.log 2 |q| - 52) (-1074)

theorem gridExponent_neg (q : ℚ) : gridExponent (-q) = gridExponent q := by rw [gridExponent, abs_neg, gridExponent]

theorem neg_le_gridExponent (q : ℚ) : -1074 ≤ gridExponent q := le_max_right _ _

theorem gridExponent_mono {q r : ℚ} (hq : 0 < q) (h : q ≤ r) : gridExponent q ≤ gridExponent r := by
  unfold gridExponent
  rw [abs_of_pos hq, abs_of_pos (hq.trans_le h)]
  have hlog := Int.log_mono_right (b := 2) hq h
  omega

theorem abs_lt_zpow_gridExponent (q : ℚ) : |q| < 2 ^ (53 + gridExponent q) := by
  have hlog : |q| < 2 ^ (Int.log 2 |q| + 1) := Int.lt_zpow_succ_log_self (b := 2) (by norm_num) |q|
  refine hlog.trans_le (two_zpow_le ?_)
  unfold gridExponent
  omega

theorem zpow_gridExponent_le {q : ℚ} (hq : q ≠ 0) (h : gridExponent q ≠ -1074) : 2 ^ (52 + gridExponent q) ≤ |q| := by
  have hlog : (2 : ℚ) ^ Int.log 2 |q| ≤ |q| := Int.zpow_log_le_self (b := 2) (by norm_num) (abs_pos.2 hq)
  refine (two_zpow_le ?_).trans hlog
  unfold gridExponent at h ⊢
  omega

/-- A number below a power of two keeps more places. -/
theorem gridExponent_le {q : ℚ} {e : ℤ} (hq : q ≠ 0) (hlt : |q| < 2 ^ (53 + e)) (he : -1074 ≤ e) :
    gridExponent q ≤ e := by
  have hlog : Int.log 2 |q| < 53 + e := (Int.lt_zpow_iff_log_lt (b := 2) (by norm_num) (abs_pos.2 hq)).1 hlt
  unfold gridExponent
  omega

theorem le_gridExponent {q : ℚ} {e : ℤ} (hle : 2 ^ (52 + e) ≤ |q|) : e ≤ gridExponent q := by
  have hpos : 0 < |q| := (two_zpow_pos _).trans_le hle
  have hlog : 52 + e ≤ Int.log 2 |q| := (Int.zpow_le_iff_le_log (b := 2) (by norm_num) hpos).1 hle
  unfold gridExponent
  omega

/-! ## Numbers with 53 places -/

/-- The number with 53 places that is nearest to a rational. -/
def nearest (q : ℚ) : ℚ := roundEven (q / 2 ^ gridExponent q) * 2 ^ gridExponent q

theorem nearest_neg (q : ℚ) : nearest (-q) = -nearest q := by
  unfold nearest
  rw [gridExponent_neg, neg_div, roundEven_neg]
  push_cast
  ring

theorem nearest_zero : nearest 0 = 0 := by
  have hround : roundEven (0 / 2 ^ gridExponent 0) = 0 := by
    rw [zero_div]
    exact_mod_cast roundEven_intCast 0
  rw [nearest, hround, Int.cast_zero, zero_mul]

/-- A whole number of last places, or of places before them, is kept. -/
theorem nearest_of_grid {n e : ℤ} (h : gridExponent (n * 2 ^ e) ≤ e) : nearest (n * 2 ^ e) = n * 2 ^ e := by
  set g := gridExponent (n * 2 ^ e) with hg
  have hpow : (2 : ℚ) ^ e = ((2 ^ (e - g).toNat : ℤ) : ℚ) * 2 ^ g := by
    push_cast
    rw [← zpow_natCast, ← two_zpow_add]
    congr 1
    omega
  have hwhole : n * 2 ^ e / (2 : ℚ) ^ g = ((n * 2 ^ (e - g).toNat : ℤ) : ℚ) := by
    rw [hpow, ← mul_assoc, mul_div_assoc, div_self (two_zpow_pos g).ne', mul_one, Int.cast_mul]
  rw [nearest, ← hg, hwhole, roundEven_intCast, Int.cast_mul, mul_assoc, ← hpow]

/-- **A whole number below `2^53` times a power of two is kept.** -/
theorem nearest_of_places {n e : ℤ} (hn : |n| < 2 ^ 53) (he : -1074 ≤ e) : nearest (n * 2 ^ e) = n * 2 ^ e := by
  rcases eq_or_ne n 0 with rfl | hne
  · rw [Int.cast_zero, zero_mul, nearest_zero]
  · apply nearest_of_grid
    have hpos := two_zpow_pos e
    have habs : |(n : ℚ) * 2 ^ e| < 2 ^ (53 + e) := by
      rw [abs_mul, abs_of_pos hpos, two_zpow_add]
      exact mul_lt_mul_of_pos_right (by exact_mod_cast hn) hpos
    exact gridExponent_le (mul_ne_zero (by exact_mod_cast hne) hpos.ne') habs he

theorem nearest_nonneg {q : ℚ} (h : 0 ≤ q) : 0 ≤ nearest q := by
  have hround : roundEven 0 ≤ roundEven (q / 2 ^ gridExponent q) :=
    roundEven_mono (div_nonneg h (two_zpow_pos _).le)
  have hzero : roundEven 0 = 0 := by exact_mod_cast roundEven_intCast 0
  rw [hzero] at hround
  exact mul_nonneg (by exact_mod_cast hround) (two_zpow_pos _).le

theorem nearest_le_zpow (q : ℚ) (h : 0 ≤ q) : nearest q ≤ 2 ^ (53 + gridExponent q) := by
  have hpos := two_zpow_pos (gridExponent q)
  have hlt := abs_lt_zpow_gridExponent q
  rw [abs_of_nonneg h, two_zpow_add, ← div_lt_iff₀ hpos, zpow_ofNat] at hlt
  rw [nearest, two_zpow_add, zpow_ofNat]
  exact mul_le_mul_of_nonneg_right (roundEven_le_two_pow hlt.le) hpos.le

theorem zpow_le_nearest {q : ℚ} (h : 2 ^ (52 + gridExponent q) ≤ q) : 2 ^ (52 + gridExponent q) ≤ nearest q := by
  have hpos := two_zpow_pos (gridExponent q)
  rw [two_zpow_add, zpow_ofNat] at h ⊢
  rw [nearest]
  exact mul_le_mul_of_nonneg_right (two_pow_le_roundEven ((le_div_iff₀ hpos).2 h)) hpos.le

theorem nearest_mono_of_pos {q r : ℚ} (hq : 0 < q) (h : q ≤ r) : nearest q ≤ nearest r := by
  have hr : 0 < r := hq.trans_le h
  rcases (gridExponent_mono hq h).eq_or_lt with heq | hlt
  · rw [nearest, nearest, ← heq]
    have hpos := two_zpow_pos (gridExponent q)
    have hround := roundEven_mono (div_le_div_of_nonneg_right h hpos.le)
    exact mul_le_mul_of_nonneg_right (by exact_mod_cast hround) hpos.le
  · -- a power of two stands between them
    have hbound := neg_le_gridExponent q
    have hlow := zpow_gridExponent_le hr.ne' (by omega)
    rw [abs_of_pos hr] at hlow
    calc nearest q ≤ 2 ^ (53 + gridExponent q) := nearest_le_zpow q hq.le
      _ ≤ 2 ^ (52 + gridExponent r) := two_zpow_le (by omega)
      _ ≤ nearest r := zpow_le_nearest hlow

/-- **Rounding keeps the order.** -/
theorem nearest_mono {q r : ℚ} (h : q ≤ r) : nearest q ≤ nearest r := by
  rcases lt_trichotomy q 0 with hq | rfl | hq
  · rcases le_or_gt 0 r with hr | hr
    · have hneg := nearest_nonneg (neg_nonneg.2 hq.le)
      rw [nearest_neg] at hneg
      exact (neg_nonneg.1 hneg).trans (nearest_nonneg hr)
    · have hneg := nearest_mono_of_pos (neg_pos.2 hr) (neg_le_neg h)
      rw [nearest_neg, nearest_neg] at hneg
      exact neg_le_neg_iff.1 hneg
  · rw [nearest_zero]
    exact nearest_nonneg h
  · exact nearest_mono_of_pos hq h

theorem abs_nearest (q : ℚ) : |nearest q| = nearest |q| := by
  rcases le_total 0 q with hq | hq
  · rw [abs_of_nonneg hq, abs_of_nonneg (nearest_nonneg hq)]
  · have hneg := nearest_nonneg (neg_nonneg.2 hq)
    rw [abs_of_nonpos hq, ← abs_neg, ← nearest_neg, abs_of_nonneg hneg]

/-- A rounded number is at most half a last place away. -/
theorem abs_sub_nearest_le (q : ℚ) : 2 * |q - nearest q| ≤ 2 ^ gridExponent q := by
  have hpos := two_zpow_pos (gridExponent q)
  have hspec := (roundEven_spec (q / 2 ^ gridExponent q)).1
  have hscale : q - nearest q = (q / 2 ^ gridExponent q - roundEven (q / 2 ^ gridExponent q)) * 2 ^ gridExponent q := by
    rw [sub_mul, div_mul_cancel₀ q hpos.ne', nearest]
  rw [hscale, abs_mul, abs_of_pos hpos, ← mul_assoc]
  exact mul_le_of_le_one_left hpos.le hspec

/-- The relative error, for what is not below the least normal number. -/
theorem abs_sub_nearest_le_mul {q : ℚ} (h : gridExponent q ≠ -1074) : 2 ^ 53 * |q - nearest q| ≤ |q| := by
  rcases eq_or_ne q 0 with rfl | hq
  · simp [nearest_zero]
  · have hlow := zpow_gridExponent_le hq h
    have hhalf := abs_sub_nearest_le q
    rw [two_zpow_add] at hlow
    norm_num at hlow ⊢
    linarith

/-! ## Neighbourhoods -/

theorem gridExponent_eq {q : ℚ} {e : ℤ} (hq : 0 < q) (hlt : q < 2 ^ (53 + e)) (hle : -1074 ≤ e)
    (hnormal : e = -1074 ∨ 2 ^ (52 + e) ≤ q) : gridExponent q = e := by
  rw [← abs_of_pos hq] at hlt hnormal
  have hupper := gridExponent_le hq.ne' hlt hle
  have hlower := neg_le_gridExponent q
  rcases hnormal with hmin | hnormal
  · omega
  · have := le_gridExponent hnormal
    omega

theorem nearest_eq_of_round {q : ℚ} {n e : ℤ} (hgrid : gridExponent q = e) (hround : roundEven (q / 2 ^ e) = n) :
    nearest q = n * 2 ^ e := by
  rw [nearest, hgrid, hround]

/-- Just below a binade the places are half as wide as in it. -/
theorem nearest_eq_of_below {q : ℚ} {e : ℤ} (he : -1074 < e) (hlow : 2 ^ 52 - 1 / 4 ≤ q / 2 ^ e)
    (hhigh : q / 2 ^ e < 2 ^ 52) :
    nearest q = 2 ^ 52 * 2 ^ e := by
  have hscale := two_zpow_pos e
  have hscale' := two_zpow_pos (e - 1)
  have hhalf : (2 : ℚ) ^ e = 2 * 2 ^ (e - 1) := by
    rw [← zpow_one_add₀ (by norm_num : (2 : ℚ) ≠ 0)]
    congr 1
    ring
  have hdouble : q / 2 ^ (e - 1) = 2 * (q / 2 ^ e) := by
    rw [hhalf]
    field_simp
  have hpos : 0 < q := by
    rw [← div_mul_cancel₀ q hscale.ne']
    exact mul_pos (by linarith) hscale
  have hgrid : gridExponent q = e - 1 := by
    refine gridExponent_eq hpos ?_ (by omega) (Or.inr ?_)
    · rw [show 53 + (e - 1) = 52 + e by ring, two_zpow_add, zpow_ofNat]
      exact (div_lt_iff₀ hscale).1 hhigh
    · rw [two_zpow_add, zpow_ofNat, ← le_div_iff₀ hscale', hdouble]
      linarith
  have hround : roundEven (q / 2 ^ (e - 1)) = 2 ^ 53 := by
    have hnonpos : 2 * (q / 2 ^ e) - ((2 ^ 53 : ℤ) : ℚ) ≤ 0 := by
      push_cast
      linarith
    rw [hdouble, roundEven_eq_iff, abs_of_nonpos hnonpos]
    refine ⟨?_, fun _ => by norm_num⟩
    push_cast
    linarith
  rw [nearest_eq_of_round hgrid hround, hhalf]
  push_cast
  ring

/-- **What lies half way to the neighbours of a number, at most, is rounded to it.** At the bottom of a binade the
neighbour below is half as far away, and the ends belong to even numbers. -/
theorem nearest_eq_of_between {q : ℚ} {n : ℕ} {e : ℤ} (hpos : 0 < n) (hn : n < 2 ^ 53) (he : -1074 ≤ e)
    (hnormal : e = -1074 ∨ 2 ^ 52 ≤ n) (hhalf : 2 * |q / 2 ^ e - n| ≤ 1) (htie : 2 * |q / 2 ^ e - n| = 1 → n % 2 = 0)
    (hnarrow : n = 2 ^ 52 → e ≠ -1074 → n - 1 / 4 ≤ q / 2 ^ e) : nearest q = n * 2 ^ e := by
  have hscale := two_zpow_pos e
  have habs := abs_le.1 (show |q / 2 ^ e - n| ≤ 1 / 2 by linarith)
  have hone : (1 : ℚ) ≤ n := by exact_mod_cast hpos
  have hqpos : 0 < q := by
    rw [← div_mul_cancel₀ q hscale.ne']
    exact mul_pos (by linarith) hscale
  have hbelow : (n : ℚ) + 1 ≤ 2 ^ 53 := by exact_mod_cast hn
  have hlt : q < 2 ^ (53 + e) := by
    rw [two_zpow_add, zpow_ofNat, ← div_lt_iff₀ hscale]
    linarith
  by_cases hgrid : e = -1074 ∨ 2 ^ (52 + e) ≤ q
  · refine nearest_eq_of_round (n := n) (gridExponent_eq hqpos hlt he hgrid) (roundEven_eq_iff.2 ⟨hhalf, fun h => ?_⟩)
    have := htie h
    omega
  · rw [not_or, not_le, two_zpow_add, zpow_ofNat, ← div_lt_iff₀ hscale] at hgrid
    obtain ⟨hmin, hsmall⟩ := hgrid
    have hcast : (2 : ℚ) ^ 52 ≤ n := by exact_mod_cast hnormal.resolve_left hmin
    have heq : n = 2 ^ 52 := by
      have hlt' : (n : ℚ) < 2 ^ 52 + 1 := by linarith
      exact le_antisymm (Nat.lt_succ_iff.1 (by exact_mod_cast hlt')) (hnormal.resolve_left hmin)
    have hquarter := hnarrow heq hmin
    rw [heq, Nat.cast_pow, Nat.cast_ofNat] at hquarter ⊢
    exact nearest_eq_of_below (by omega) hquarter hsmall

end Orbit.Binary64
