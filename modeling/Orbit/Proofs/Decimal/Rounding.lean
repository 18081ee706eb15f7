import Mathlib.Algebra.Order.Field.Power
import Orbit.Decimal.Reading
import Orbit.Proofs.Binary64.Arithmetic

/-!
# Decimals are rounded to nearest

The number that is read for `digits · 10^power` is the rounded one, whether it is found from an exact power of ten, from
whole numbers of any size, or by counting digits only.

* `Numeral.rounded_ofScientific` : the two ways of scaling by a power of ten;
* `Numeral.rounded_round` : all decimals.
-/

namespace Orbit.Binary64

open Float.Model

/-! ## Scaling by a power of ten -/

theorem isFinite_ofNat {m : ℕ} (hm : m < 2 ^ 53) :
    m.toUInt64.toFloat.isFinite = true ∧ value m.toUInt64.toFloat = m := by
  have hword : m.toUInt64.toNat = m := Nat.mod_eq_of_lt (hm.trans (by norm_num))
  have hwhole := isFinite_whole hm
  rw [← hword] at hwhole
  exact ⟨hwhole.1, hwhole.2.trans (congrArg Nat.cast hword)⟩

theorem powersOfTen_spec : ∀ e : Fin 23, (Float.exactlyRepresentablePowersOfTen[e]).isFinite = true ∧
    value Float.exactlyRepresentablePowersOfTen[e] = 10 ^ e.val := by
  decide +kernel

theorem ten_zpow_natAbs {e : ℤ} : (10 : ℚ) ^ e = if e < 0 then ((10 : ℚ) ^ e.natAbs)⁻¹ else 10 ^ e.natAbs := by
  split_ifs with hneg
  · rw [← zpow_natCast, ← zpow_neg]
    congr 1
    omega
  · rw [← zpow_natCast]
    congr 1
    omega

theorem rounded_ofScientific_fast {m : ℕ} (hm : m < 2 ^ 53) {e : ℤ} (he : e.natAbs ≤ 22) :
    Rounded (m * 10 ^ e) (Float.ofScientific m (decide (e < 0)) e.natAbs) := by
  obtain ⟨hfinite, hvalue⟩ := isFinite_ofNat hm
  obtain ⟨hten, hpower⟩ := powersOfTen_spec ⟨e.natAbs, by omega⟩
  unfold Float.ofScientific
  rw [dif_pos ⟨hm, he⟩, ten_zpow_natAbs]
  by_cases hneg : e < 0
  · have hquotient := rounded_div hfinite hten (by rw [hpower]; positivity)
    rw [hvalue, hpower, div_eq_mul_inv] at hquotient
    rw [if_pos hneg]
    simp only [hneg, decide_true, if_true]
    exact hquotient
  · have hproduct := rounded_mul hfinite hten
    rw [hvalue, hpower] at hproduct
    rw [if_neg hneg]
    simp only [hneg, decide_false, Bool.false_eq_true, if_false]
    exact hproduct

/-- Scaling whole numbers of any size. -/
theorem rounds_ofScientific {m : ℕ} (hm : 0 < m) {e : ℤ} (hle : e ≤ 2048) (hge : -(2048 + m.log2) ≤ e) :
    Rounds (m * 10 ^ e) (UnpackedFloat.ofScientific .binary64 m e) := by
  have hbits : (2 ^ Format.binary64.exponentBits : ℤ) = 2048 := rfl
  unfold UnpackedFloat.ofScientific
  rw [dif_neg hm.ne', hbits, if_neg (by omega), if_neg (by omega)]
  have hpower (k : ℕ) : 0 < 10 ^ k := Nat.pow_pos (by decide)
  by_cases hneg : 0 ≤ e
  · rw [if_pos hneg]
    have hshift : 0 < m <<< 53 := by rw [Nat.shiftLeft_eq]; positivity
    have hlog := le_log2_mul hshift (hpower e.toNat) (Or.inl (by rw [Nat.shiftLeft_eq]; omega))
    have hproduct := rounds_mul_finite .positive .positive (-53) 0 hshift (hpower e.toNat) (by omega)
    have hvalue : ((m <<< 53 : ℕ) : ℚ) * 2 ^ (-53 : ℤ) * ((10 ^ e.toNat : ℕ) * 2 ^ (0 : ℤ)) = m * 10 ^ e := by
      rw [Nat.shiftLeft_eq, ten_zpow_natAbs, if_neg (by omega), show e.natAbs = e.toNat by omega]
      rw [Nat.cast_mul, Nat.cast_pow, Nat.cast_pow, Nat.cast_ofNat, Nat.cast_ofNat, zpow_zero, mul_one,
        mul_assoc (m : ℚ), show (2 : ℚ) ^ 53 * 2 ^ (-53 : ℤ) = 1 by norm_num, mul_one]
    rw [← hvalue]
    exact hproduct
  · rw [if_neg hneg]
    have hquotient := rounds_div_finite .positive .positive 0 0 hm (hpower (-e).toNat)
    have hvalue : (m : ℚ) * 2 ^ (0 : ℤ) / ((10 ^ (-e).toNat : ℕ) * 2 ^ (0 : ℤ)) = m * 10 ^ e := by
      rw [ten_zpow_natAbs, if_pos (by omega), show e.natAbs = (-e).toNat by omega, zpow_zero, mul_one, mul_one,
        div_eq_mul_inv, Nat.cast_pow, Nat.cast_ofNat]
    rw [← hvalue]
    exact hquotient

theorem rounded_ofScientific {m : ℕ} (hm : 0 < m) {e : ℤ} (hle : e ≤ 2048) (hge : -(2048 + m.log2) ≤ e) :
    Rounded (m * 10 ^ e) (Float.ofScientific m (decide (e < 0)) e.natAbs) := by
  by_cases hfast : m < 2 ^ 53 ∧ e.natAbs ≤ 22
  · exact rounded_ofScientific_fast hfast.1 hfast.2
  · have hsign : (if decide (e < 0) = true then Int.negOfNat e.natAbs else Int.ofNat e.natAbs) = e := by
      simp only [decide_eq_true_eq, Int.negOfNat_eq, Int.ofNat_eq_natCast]
      omega
    unfold Float.ofScientific
    rw [dif_neg hfast]
    dsimp only
    rw [hsign]
    exact (rounds_ofScientific hm hle hge).pack

/-! ## Far from the range -/

theorem nearest_eq_zero {q : ℚ} (hq : 0 < q) (h : q ≤ 2 ^ (-1075 : ℤ)) : nearest q = 0 := by
  have hgrid : gridExponent q = -1074 :=
    gridExponent_eq hq (h.trans_lt (zpow_lt_zpow_right₀ (by norm_num) (by norm_num))) le_rfl (Or.inl rfl)
  have hhalf : q / 2 ^ (-1074 : ℤ) ≤ 1 / 2 := by
    rw [div_le_iff₀ (two_zpow_pos _)]
    calc q ≤ 2 ^ (-1075 : ℤ) := h
      _ = 2 ^ (-1 : ℤ) * 2 ^ (-1074 : ℤ) := by rw [← two_zpow_add]; norm_num
      _ = 1 / 2 * 2 ^ (-1074 : ℤ) := by rw [zpow_neg_one, one_div]
  have hround : roundEven (q / 2 ^ (-1074 : ℤ)) = 0 := by
    rw [roundEven_eq_iff, Int.cast_zero, sub_zero, abs_of_pos (div_pos hq (two_zpow_pos _))]
    exact ⟨by linarith, fun _ => rfl⟩
  rw [nearest_eq_of_round hgrid hround, Int.cast_zero, zero_mul]

theorem le_nearest_of_le {q : ℚ} (h : 2 ^ (1024 : ℤ) ≤ q) : 2 ^ 1024 ≤ nearest q := by
  have hfixed := nearest_of_places (n := 1) (e := 1024) (by norm_num) (by norm_num)
  rw [Int.cast_one, one_mul] at hfixed
  calc (2 : ℚ) ^ 1024 = nearest (2 ^ (1024 : ℤ)) := by rw [hfixed, zpow_ofNat]
    _ ≤ nearest q := nearest_mono h

theorem two_zpow_three_mul_le {e : ℤ} (he : 0 ≤ e) : (2 : ℚ) ^ (3 * e) ≤ 10 ^ e := by
  calc (2 : ℚ) ^ (3 * e) = 8 ^ e := by rw [zpow_mul]; norm_num
    _ ≤ 10 ^ e := zpow_le_zpow_left₀ he (by norm_num) (by norm_num)

end Orbit.Binary64

namespace Orbit.Numeral

open Binary64

/-! ## Reading -/

theorem length_toDigits_spec {n : ℕ} (hn : 0 < n) :
    n < 10 ^ (Nat.toDigits 10 n).length ∧ 10 ^ ((Nat.toDigits 10 n).length - 1) ≤ n ∧
      (Nat.toDigits 10 n).length ≤ n.log2 + 1 := by
  have hpos : 0 < (Nat.toDigits 10 n).length := Nat.length_toDigits_pos
  refine ⟨(Nat.length_toDigits_le_iff (by decide) hpos).1 le_rfl, ?_, ?_⟩
  · by_contra hlt
    rw [not_le] at hlt
    rcases Nat.eq_zero_or_pos ((Nat.toDigits 10 n).length - 1) with hzero | hmore
    · rw [hzero] at hlt
      omega
    · have hle := (Nat.length_toDigits_le_iff (by decide) hmore).2 hlt
      omega
  · rw [Nat.length_toDigits_le_iff (by decide) (Nat.succ_pos _)]
    exact Nat.lt_log2_self.trans_le (Nat.pow_le_pow_left (by decide) _)

/-- **What is read is the rounded number.** -/
theorem rounded_round {digits : ℕ} (h : 0 < digits) (power : ℤ) :
    Rounded (digits * 10 ^ power) (round digits power) := by
  obtain ⟨hlt, hle, hlog⟩ := length_toDigits_spec h
  have hlength : 0 < (Nat.toDigits 10 digits).length := Nat.length_toDigits_pos
  set length := (Nat.toDigits 10 digits).length with hlen
  have hten : (0 : ℚ) < 10 ^ power := zpow_pos (by norm_num) power
  unfold round
  rw [← hlen]
  dsimp only
  split_ifs with hsmall hlarge
  · -- less than half of the smallest positive number
    have hsmall : power + length < -400 := hsmall.resolve_left h.ne'
    have hzero : (digits : ℚ) * 10 ^ power ≤ 2 ^ (-1075 : ℤ) := by
      have hdigits : (digits : ℚ) ≤ 10 ^ length := by exact_mod_cast hlt.le
      have hbound := two_zpow_three_mul_le (e := -(power + length)) (by omega)
      calc (digits : ℚ) * 10 ^ power ≤ 10 ^ length * 10 ^ power := mul_le_mul_of_nonneg_right hdigits hten.le
        _ = (10 ^ (-(power + length)))⁻¹ := by rw [← zpow_natCast, ← zpow_add₀ (by norm_num), ← zpow_neg]; congr 1; ring
        _ ≤ (2 ^ (3 * -(power + length)))⁻¹ := inv_anti₀ (two_zpow_pos _) hbound
        _ = 2 ^ (3 * (power + length)) := by rw [← zpow_neg]; congr 1; ring
        _ ≤ 2 ^ (-1075 : ℤ) := two_zpow_le (by omega)
    have hpos : (0 : ℚ) < digits * 10 ^ power := mul_pos (by exact_mod_cast h) hten
    refine .finite (by decide +kernel) ?_
    rw [nearest_eq_zero hpos hzero]
    decide +kernel
  · -- at least twice the largest number
    have hlarge : (2 : ℚ) ^ (1024 : ℤ) ≤ digits * 10 ^ power := by
      have hdigits : (10 : ℚ) ^ (length - 1) ≤ digits := by exact_mod_cast hle
      calc (2 : ℚ) ^ (1024 : ℤ) ≤ 2 ^ (3 * (length - 1 + power) : ℤ) := two_zpow_le (by omega)
        _ ≤ 10 ^ (length - 1 + power : ℤ) := two_zpow_three_mul_le (by omega)
        _ = 10 ^ (length - 1) * 10 ^ power := by
          rw [zpow_add₀ (by norm_num), ← zpow_natCast, Nat.cast_sub hlength, Nat.cast_one]
        _ ≤ digits * 10 ^ power := mul_le_mul_of_nonneg_right hdigits hten.le
    exact .above (le_nearest_of_le hlarge) (unpack_packComponents .positive _ _)
  · exact rounded_ofScientific h (by omega) (by omega)

end Orbit.Numeral
