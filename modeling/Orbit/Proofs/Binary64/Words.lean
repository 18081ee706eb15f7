import Orbit.Proofs.Binary64.Value

/-!
# Words and their fields

* `eq_of_unpack_eq` : a word is known by what it unpacks to, if that is a number;
* `unpack_eq_of_value` : positive finite numbers with the same value unpack to the same;
* `toNat_mantissa`, `toNat_exponent`, `sign_eq` : the fields of a word by division.
-/

namespace Orbit.Binary64

open Float.Model UnpackedFloat

/-! ## Words from fields -/

theorem toBitVec_ofBitVec (v : BitVec 1) : (Sign.ofBitVec v).toBitVec = v := by
  rcases BitVec.eq_zero_or_eq_one v with rfl | rfl <;> rfl

section Fields
variable (b : BitVec 64)

theorem packComponents_fields : packComponents .binary64 (Sign.ofBitVec (@unpackSign .binary64 b))
    (@unpackExponent .binary64 b) (@unpackMantissa .binary64 b) = b := by
  rw [packComponents, toBitVec_ofBitVec]
  unfold unpackSign
  apply BitVec.eq_of_getLsbD_eq
  intro i (hi : i < 64)
  simp only [BitVec.getLsbD_append, unpackMantissa, unpackExponent, BitVec.getLsbD_cast, BitVec.getLsbD_extractLsb]
  by_cases hmantissa : i < 52
  · rw [if_pos hmantissa, Nat.zero_add, decide_eq_true (by omega), Bool.true_and]
  · rw [if_neg hmantissa]
    by_cases hexponent : i - 52 < 11
    · rw [if_pos hexponent, decide_eq_true (by omega), Bool.true_and]
      congr 1
      omega
    · rw [if_neg hexponent, decide_eq_true (by omega), Bool.true_and]
      congr 1
      omega

theorem toNat_mantissa : (@unpackMantissa .binary64 b).toNat = b.toNat % 2 ^ 52 := by
  simp [unpackMantissa, BitVec.extractLsb_toNat]

theorem toNat_exponent : (@unpackExponent .binary64 b).toNat = b.toNat / 2 ^ 52 % 2 ^ 11 := by
  simp [unpackExponent, BitVec.extractLsb_toNat, Nat.shiftRight_eq_div_pow]

theorem sign_eq : Sign.ofBitVec (@unpackSign .binary64 b) = if 2 ^ 63 ≤ b.toNat then .negative else .positive := by
  have hlt := b.isLt
  have hbit : (@unpackSign .binary64 b).toNat = b.toNat / 2 ^ 63 % 2 := by
    unfold unpackSign
    simp [BitVec.extractLsb_toNat, Nat.shiftRight_eq_div_pow]
  rcases BitVec.eq_zero_or_eq_one (@unpackSign .binary64 b) with hzero | hone
  · rw [hzero] at hbit ⊢
    rw [if_neg (by simp at hbit; omega)]
    rfl
  · rw [hone] at hbit ⊢
    rw [if_pos (by simp at hbit; omega)]
    rfl

end Fields

theorem eq_of_toBits_eq {x y : Float} (h : x.toBits = y.toBits) : x = y := by
  obtain ⟨⟨v, hv⟩⟩ := x
  obtain ⟨⟨w, hw⟩⟩ := y
  obtain rfl : v = w := h
  rfl

theorem pack_unpack {x : Float.Model} (h : x.unpack ≠ .notANumber) :
    UnpackedFloat.pack .binary64 x.unpack = x.toBits.toBitVec := by
  rw [Float.Model.unpack, unpack_eq_ofFields] at h ⊢
  rw [pack_ofFields h, packComponents_fields]

theorem eq_of_unpack_eq {x y : Float} (h : x.toModel.unpack = y.toModel.unpack) (hx : x.toModel.unpack ≠ .notANumber) :
    x = y := by
  have hbits : x.toModel.toBits.toBitVec = y.toModel.toBits.toBitVec := by
    rw [← pack_unpack hx, h, pack_unpack (h ▸ hx)]
  exact eq_of_toBits_eq (UInt64.toBitVec_inj.1 hbits)

/-! ## Words from values -/

theorem placed_inj {m n : ℕ} {e f : ℤ} (hm : IsPlaced m e) (hn : IsPlaced n f) (h : (m : ℚ) * 2 ^ e = n * 2 ^ f) :
    e = f ∧ m = n := by
  have hcompare := compare_placed hm hn
  rw [compare_eq_iff_eq.2 h, Ordering.then_eq_eq, compare_eq_iff_eq, compare_eq_iff_eq] at hcompare
  exact hcompare

theorem unpack_eq_of_value {y : Float} (hy : y.isFinite = true) {m : ℕ} {e : ℤ} (hm : 0 < m) (hplaced : IsPlaced m e)
    (hvalue : value y = m * 2 ^ e) : y.toModel.unpack = .finite .positive m e hm := by
  have hcanonical := isCanonical_unpack y.toModel
  have hpos := placed_value_pos e hm
  unfold value at hvalue
  rcases isFinite_iff.1 hy with ⟨s, hu⟩ | ⟨s, n, f, hn, hu⟩
  · rw [hu] at hvalue
    exact absurd hvalue.symm hpos.ne'
  · rw [hu] at hvalue hcanonical ⊢
    cases s with
    | positive =>
      obtain ⟨rfl, rfl⟩ := placed_inj hcanonical hplaced hvalue
      rfl
    | negative =>
      have hneg : -((n : ℚ) * 2 ^ f) = m * 2 ^ e := hvalue
      have hpos' := placed_value_pos f hn
      linarith

end Orbit.Binary64
