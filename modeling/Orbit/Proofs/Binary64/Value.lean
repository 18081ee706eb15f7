import Mathlib.Data.Nat.Log
import Orbit.Proofs.Binary64.Nearest
import Orbit.Proofs.Sign

/-!
# Binary64 numbers as rationals

* `value x` : the rational that a finite number stands for;
* `IsCanonical` : mantissas and exponents as words have them. Finite words are canonical (`isCanonical_unpack`), and
  what is canonical and not too large is packed without loss (`unpack_pack_of_isPlaced`);
* `float_lt_iff_value`, `float_le_iff_value` : finite numbers are compared as rationals.
-/

namespace Orbit.Binary64

open Float.Model UnpackedFloat

/-! ## Values -/

def signed : Sign → ℚ → ℚ
  | .positive, q => q
  | .negative, q => -q

/-- The rational that an unpacked number stands for, and zero for what stands for none. -/
def unpackedValue : UnpackedFloat → ℚ
  | .finite s m e _ => signed s (m * 2 ^ e)
  | _ => 0

/-- The rational that a finite number stands for. -/
def value (x : Float) : ℚ := unpackedValue x.toModel.unpack

theorem unpackedValue_finite (s : Sign) {m : ℕ} (e : ℤ) (hm : 0 < m) :
    unpackedValue (.finite s m e hm) = signed s (m * 2 ^ e) := rfl

theorem signed_zero (s : Sign) : signed s 0 = 0 := by cases s <;> simp [signed]

theorem abs_signed (s : Sign) (q : ℚ) : |signed s q| = |q| := by
  cases s with
  | positive => rfl
  | negative => exact abs_neg q

theorem nearest_signed (s : Sign) (q : ℚ) : nearest (signed s q) = signed s (nearest q) := by
  cases s with
  | positive => rfl
  | negative => exact nearest_neg q

theorem signed_mul_signed (s t : Sign) (q r : ℚ) : signed s q * signed t r = signed (s * t) (q * r) := by
  cases s <;> cases t
  · exact neg_mul_neg q r
  · exact neg_mul q r
  · exact mul_neg q r
  · rfl

theorem signed_div_signed (s t : Sign) (q r : ℚ) : signed s q / signed t r = signed (s / t) (q / r) := by
  cases s <;> cases t
  · exact neg_div_neg_eq q r
  · exact neg_div r q
  · exact div_neg q
  · rfl

theorem cast_apply (s : Sign) (m : ℕ) : ((s.apply m : ℤ) : ℚ) = signed s m := by
  cases s <;> simp [Sign.apply, signed]

theorem signed_mul (s : Sign) (q r : ℚ) : signed s q * r = signed s (q * r) := by
  cases s with
  | positive => rfl
  | negative => exact neg_mul q r

/-! ## Shapes -/

/-- A mantissa of at most 53 bits with an exponent from -1074 on, and of exactly 53 bits if the exponent is not the
least. -/
structure IsPlaced (m : ℕ) (e : ℤ) : Prop where
  lt : m < 2 ^ 53
  le : -1074 ≤ e
  normal : e = -1074 ∨ 2 ^ 52 ≤ m

def IsCanonical : UnpackedFloat → Prop
  | .finite _ m e _ => IsPlaced m e
  | _ => True

theorem isFinite_iff {u : UnpackedFloat} :
    u.isFinite = true ↔ (∃ s, u = .zero s) ∨ ∃ s m e hm, u = .finite s m e hm := by
  cases u with
  | notANumber => exact iff_of_false Bool.false_ne_true (by rintro (⟨_, h⟩ | ⟨_, _, _, _, h⟩) <;> cases h)
  | infinity s => exact iff_of_false Bool.false_ne_true (by rintro (⟨_, h⟩ | ⟨_, _, _, _, h⟩) <;> cases h)
  | zero s => exact iff_of_true rfl (Or.inl ⟨s, rfl⟩)
  | finite s m e hm => exact iff_of_true rfl (Or.inr ⟨s, m, e, hm, rfl⟩)

theorem isPlaced_of_ofFields {s t : Sign} {f : BitVec 11} {g : BitVec 52} {m : ℕ} {e : ℤ} {hm : 0 < m}
    (h : ofFields s f g = .finite t m e hm) : IsPlaced m e ∧ e ≤ 971 := by
  have hg := g.isLt
  by_cases hmax : f = -1#11
  · rw [ofFields, if_pos hmax] at h
    by_cases hzero : g = 0#52
    · rw [if_pos hzero] at h
      cases h
    · rw [if_neg hzero] at h
      cases h
  · rw [ofFields, if_neg hmax] at h
    by_cases hmin : f = 0#11
    · rw [if_pos hmin] at h
      by_cases hzero : g = 0#52
      · rw [dif_pos hzero] at h
        cases h
      · rw [dif_neg hzero] at h
        cases h
        subst hmin
        exact ⟨⟨by omega, by decide, Or.inl rfl⟩, by decide⟩
    · rw [if_neg hmin] at h
      cases h
      have hf := f.isLt
      have hpos : f.toNat ≠ 0 := fun h => hmin (BitVec.eq_of_toNat_eq h)
      have hlt : f.toNat ≠ 2047 := fun h => hmax (BitVec.eq_of_toNat_eq h)
      have himplicit := toNat_implicit g
      exact ⟨⟨by omega, by omega, Or.inr (by omega)⟩, by omega⟩

theorem isPlaced_unpack {x : Float.Model} {s : Sign} {m : ℕ} {e : ℤ} {hm : 0 < m} (h : x.unpack = .finite s m e hm) :
    IsPlaced m e ∧ e ≤ 971 := by
  rw [Float.Model.unpack, unpack_eq_ofFields] at h
  exact isPlaced_of_ofFields h

theorem isCanonical_unpack (x : Float.Model) : IsCanonical x.unpack := by
  cases hu : x.unpack with
  | finite s m e hm => exact (isPlaced_unpack hu).1
  | _ => trivial

theorem finite_congr {s : Sign} {m n : ℕ} {e f : ℤ} {hm : 0 < m} {hn : 0 < n} (h : m = n) (h' : e = f) :
    UnpackedFloat.finite s m e hm = .finite s n f hn := by
  subst h h'
  rfl

theorem exists_ofFields (s : Sign) {m : ℕ} {e : ℤ} (hm : 0 < m) (h : IsPlaced m e) (he : e ≤ 971) :
    ∃ f g, ofFields s f g = .finite s m e hm := by
  have hlt := h.lt
  have hle := h.le
  by_cases hnormal : 2 ^ 52 ≤ m
  · refine ⟨BitVec.ofNat 11 (e + 1075).toNat, BitVec.ofNat 52 (m - 2 ^ 52), ?_⟩
    have hf : (BitVec.ofNat 11 (e + 1075).toNat).toNat = (e + 1075).toNat := by
      rw [BitVec.toNat_ofNat, Nat.mod_eq_of_lt (by omega)]
    have hg : (1#1 ++ BitVec.ofNat 52 (m - 2 ^ 52)).toNat = m := by
      rw [toNat_implicit, BitVec.toNat_ofNat, Nat.mod_eq_of_lt (by omega)]
      omega
    have hmax : BitVec.ofNat 11 (e + 1075).toNat ≠ -1#11 := by
      intro hmax
      have hnat := congrArg BitVec.toNat hmax
      rw [hf, show (-1#11).toNat = 2047 from rfl] at hnat
      omega
    have hmin : BitVec.ofNat 11 (e + 1075).toNat ≠ 0#11 := by
      intro hmin
      have hnat := congrArg BitVec.toNat hmin
      rw [hf, show (0#11).toNat = 0 from rfl] at hnat
      omega
    rw [ofFields, if_neg hmax, if_neg hmin]
    exact finite_congr hg (by omega)
  · obtain rfl : e = -1074 := h.normal.resolve_right hnormal
    have hg : (BitVec.ofNat 52 m).toNat = m := by rw [BitVec.toNat_ofNat, Nat.mod_eq_of_lt (by omega)]
    have hzero : BitVec.ofNat 52 m ≠ 0#52 := by
      intro hzero
      have hnat := congrArg BitVec.toNat hzero
      rw [hg, show (0#52).toNat = 0 from rfl] at hnat
      omega
    refine ⟨0#11, BitVec.ofNat 52 m, ?_⟩
    rw [ofFields, if_neg (by decide), if_pos rfl, dif_neg hzero]
    exact finite_congr hg rfl

/-- **What is canonical and not too large is packed without loss.** -/
theorem unpack_pack_of_isPlaced (s : Sign) {m : ℕ} {e : ℤ} (hm : 0 < m) (h : IsPlaced m e) (he : e ≤ 971) :
    (Float.Model.pack (.finite s m e hm)).unpack = .finite s m e hm := by
  obtain ⟨f, g, hfields⟩ := exists_ofFields s hm h he
  show UnpackedFloat.unpack .binary64 (UnpackedFloat.pack .binary64 (.finite s m e hm)) = _
  rw [← hfields, pack_ofFields (by rw [hfields]; exact UnpackedFloat.noConfusion), unpack_packComponents]

theorem unpack_pack_of_large (s : Sign) {m : ℕ} {e : ℤ} (hm : 0 < m) (he : 971 < e) :
    (Float.Model.pack (.finite s m e hm)).unpack = .infinity s := by
  have hpack : UnpackedFloat.pack .binary64 (.finite s m e hm) = packedInfinity .binary64 s :=
    if_pos (show 2048 ≤ (e + 1023 + 52).toNat + 1 by omega)
  show UnpackedFloat.unpack .binary64 (UnpackedFloat.pack .binary64 (.finite s m e hm)) = _
  rw [hpack]
  exact unpack_packComponents s _ _

/-! ## Sizes -/

theorem placed_value_lt {m : ℕ} {e : ℤ} (h : IsPlaced m e) (he : e ≤ 971) : (m : ℚ) * 2 ^ e < 2 ^ 1024 := by
  have hm : (m : ℚ) < 2 ^ 53 := by exact_mod_cast h.lt
  calc (m : ℚ) * 2 ^ e < 2 ^ 53 * 2 ^ e := mul_lt_mul_of_pos_right hm (two_zpow_pos e)
    _ ≤ 2 ^ 53 * 2 ^ (971 : ℤ) := mul_le_mul_of_nonneg_left (two_zpow_le he) (by positivity)
    _ = 2 ^ 1024 := by rw [zpow_ofNat, ← pow_add]

theorem le_placed_value {m : ℕ} {e : ℤ} (h : IsPlaced m e) (he : 971 < e) : 2 ^ 1024 ≤ (m : ℚ) * 2 ^ e := by
  have hm : (2 : ℚ) ^ 52 ≤ m := by exact_mod_cast h.normal.resolve_left (by omega)
  calc (2 : ℚ) ^ 1024 = 2 ^ 52 * 2 ^ (972 : ℤ) := by rw [zpow_ofNat, ← pow_add]
    _ ≤ (m : ℚ) * 2 ^ (972 : ℤ) := mul_le_mul_of_nonneg_right hm (two_zpow_pos _).le
    _ ≤ m * 2 ^ e := mul_le_mul_of_nonneg_left (two_zpow_le (by omega)) (Nat.cast_nonneg m)

theorem abs_value_lt (x : Float) : |value x| < 2 ^ 1024 := by
  unfold value
  cases hu : x.toModel.unpack with
  | finite t m e hm =>
    obtain ⟨hplaced, he⟩ := isPlaced_unpack hu
    rw [unpackedValue_finite, abs_signed, abs_of_nonneg (mul_nonneg (Nat.cast_nonneg m) (two_zpow_pos e).le)]
    exact placed_value_lt hplaced he
  | _ =>
    show |(0 : ℚ)| < 2 ^ 1024
    rw [abs_zero]
    positivity

/-! ## Order -/

/-- A larger exponent makes a larger number, whatever the mantissas are. -/
theorem placed_lt_of_exponent_lt {m n : ℕ} {e f : ℤ} (hm : IsPlaced m e) (hn : IsPlaced n f) (h : e < f) :
    (m : ℚ) * 2 ^ e < n * 2 ^ f := by
  have hle := hm.le
  have hmlt : (m : ℚ) < 2 ^ 53 := by exact_mod_cast hm.lt
  have hnle : (2 : ℚ) ^ 52 ≤ n := by exact_mod_cast hn.normal.resolve_left (by omega)
  calc (m : ℚ) * 2 ^ e < 2 ^ 53 * 2 ^ e := mul_lt_mul_of_pos_right hmlt (two_zpow_pos e)
    _ = 2 ^ 52 * 2 ^ (e + 1) := by rw [two_zpow_add]; ring
    _ ≤ 2 ^ 52 * 2 ^ f := mul_le_mul_of_nonneg_left (two_zpow_le (by omega)) (by positivity)
    _ ≤ n * 2 ^ f := mul_le_mul_of_nonneg_right hnle (two_zpow_pos f).le

theorem compare_placed {m n : ℕ} {e f : ℤ} (hm : IsPlaced m e) (hn : IsPlaced n f) :
    (compare e f).then (compare m n) = compare ((m : ℚ) * 2 ^ e) (n * 2 ^ f) := by
  rcases lt_trichotomy e f with hlt | rfl | hgt
  · rw [compare_lt_iff_lt.2 hlt, compare_lt_iff_lt.2 (placed_lt_of_exponent_lt hm hn hlt)]
    rfl
  · have hscale := two_zpow_pos e
    rw [compare_eq_iff_eq.2 rfl]
    rcases lt_trichotomy m n with hlt | rfl | hgt
    · have hcast : (m : ℚ) < n := by exact_mod_cast hlt
      rw [compare_lt_iff_lt.2 hlt, compare_lt_iff_lt.2 (mul_lt_mul_of_pos_right hcast hscale)]
      rfl
    · rw [compare_eq_iff_eq.2 rfl, compare_eq_iff_eq.2 rfl]
      rfl
    · have hcast : (n : ℚ) < m := by exact_mod_cast hgt
      rw [compare_gt_iff_gt.2 hgt, compare_gt_iff_gt.2 (mul_lt_mul_of_pos_right hcast hscale)]
      rfl
  · rw [compare_gt_iff_gt.2 hgt, compare_gt_iff_gt.2 (placed_lt_of_exponent_lt hn hm hgt)]
    rfl

theorem compare_neg_neg (q r : ℚ) : compare (-q) (-r) = (compare q r).swap := by
  rcases lt_trichotomy q r with hlt | rfl | hgt
  · rw [compare_lt_iff_lt.2 hlt, compare_gt_iff_gt.2 (neg_lt_neg hlt)]
    rfl
  · rw [compare_eq_iff_eq.2 rfl, compare_eq_iff_eq.2 rfl]
    rfl
  · rw [compare_gt_iff_gt.2 hgt, compare_lt_iff_lt.2 (neg_lt_neg hgt)]
    rfl

theorem placed_value_pos {m : ℕ} (e : ℤ) (hm : 0 < m) : (0 : ℚ) < m * 2 ^ e :=
  mul_pos (by exact_mod_cast hm) (two_zpow_pos e)

theorem compare_unpacked {u v : UnpackedFloat} (hu : u.isFinite = true) (hv : v.isFinite = true) (hu' : IsCanonical u)
    (hv' : IsCanonical v) : u.compare v = some (compare (unpackedValue u) (unpackedValue v)) := by
  rcases isFinite_iff.1 hu with ⟨s, rfl⟩ | ⟨s, m, e, hm, rfl⟩
  · rcases isFinite_iff.1 hv with ⟨t, rfl⟩ | ⟨t, n, f, hn, rfl⟩
    · exact congrArg some (compare_eq_iff_eq.2 rfl).symm
    · have hpos := placed_value_pos f hn
      cases t with
      | positive => exact congrArg some (compare_lt_iff_lt.2 hpos).symm
      | negative => exact congrArg some (compare_gt_iff_gt.2 (neg_neg_of_pos hpos)).symm
  · have hpos := placed_value_pos e hm
    rcases isFinite_iff.1 hv with ⟨t, rfl⟩ | ⟨t, n, f, hn, rfl⟩
    · cases s with
      | positive => exact congrArg some (compare_gt_iff_gt.2 hpos).symm
      | negative => exact congrArg some (compare_lt_iff_lt.2 (neg_neg_of_pos hpos)).symm
    · have hpos' := placed_value_pos f hn
      cases s with
      | positive =>
        cases t with
        | positive => exact congrArg some (compare_placed hu' hv')
        | negative => exact congrArg some (compare_gt_iff_gt.2 ((neg_neg_of_pos hpos').trans hpos)).symm
      | negative =>
        cases t with
        | positive => exact congrArg some (compare_lt_iff_lt.2 ((neg_neg_of_pos hpos).trans hpos')).symm
        | negative =>
          show some ((compare e f).then (compare m n)).swap = some (compare (-(_ : ℚ)) (-_))
          rw [compare_placed hu' hv', compare_neg_neg]

theorem compare_float {x y : Float} (hx : x.isFinite = true) (hy : y.isFinite = true) :
    x.toModel.unpack.compare y.toModel.unpack = some (compare (value x) (value y)) :=
  compare_unpacked hx hy (isCanonical_unpack _) (isCanonical_unpack _)

/-- **Finite numbers are compared as rationals.** -/
theorem float_lt_iff_value {x y : Float} (hx : x.isFinite = true) (hy : y.isFinite = true) :
    x < y ↔ value x < value y := by
  rw [float_lt_iff, UnpackedFloat.lt, compare_float hx hy, ← compare_lt_iff_lt]
  cases compare (value x) (value y) <;> decide

theorem float_le_iff_value {x y : Float} (hx : x.isFinite = true) (hy : y.isFinite = true) :
    x ≤ y ↔ value x ≤ value y := by
  have hle : x ≤ y ↔ x.toModel.unpack.le y.toModel.unpack = true := decide_eq_true_iff
  rw [hle, UnpackedFloat.le, compare_float hx hy, ← compare_le_iff_le]
  cases compare (value x) (value y) <;> decide

end Orbit.Binary64
