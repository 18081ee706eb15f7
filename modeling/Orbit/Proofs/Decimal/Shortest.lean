import Mathlib.Algebra.Order.Field.Power
import Orbit.Decimal.Shortest
import Orbit.Proofs.Binary64.Value

/-!
# Shortest decimals round back

Seventeen digits are enough for a decimal that rounds to a given binary64 number, so one is found, and every decimal
that is found rounds to the number.

* `Binary.IsNumber x` : the shape of a positive finite number;
* `Binary.Holds x r` : `r` is in the interval of `x`; such numbers are rounded to `x` (`Holds.nearest_eq`);
* `Binary.holds_of_nearest?`, `Binary.isSome_nearest?` : a decimal that is found is in the interval, and one is found
  where the power of ten is smaller than the interval;
* `Binary.shortest_spec` : the shortest decimal is positive and rounds to the number.
-/

namespace Orbit

/-! ## Counting digits -/

theorem pow_digitCount_le (n : ℕ) (hn : 0 < n) : 10 ^ digitCount n ≤ 10 * n := by
  induction n using digitCount.induct with
  | case1 n hsmall =>
    rw [digitCount, if_pos hsmall]
    obtain ⟨k, hk⟩ := Nat.exists_eq_succ_of_ne_zero (Nat.length_toDigits_pos (b := 10) (n := n)).ne'
    rw [hk, Nat.pow_succ']
    rcases Nat.eq_zero_or_pos k with rfl | hkpos
    · omega
    · have hle := Nat.length_toDigits_le_iff (n := n) (b := 10) (by decide) hkpos
      omega
  | case2 n hlarge ih =>
    rw [digitCount, if_neg hlarge, Nat.pow_add]
    have hdiv := ih (Nat.div_pos (by omega) (by decide))
    omega

namespace Decimal

def value (d : Decimal) : ℚ := d.digits * 10 ^ d.exponent

theorem strip_spec (d : Decimal) : d.strip.value = d.value ∧ (0 < d.digits → 0 < d.strip.digits) := by
  induction d using strip.induct with
  | case1 d h ih =>
    rw [strip, dif_pos h]
    obtain ⟨hvalue, hpos⟩ := ih
    refine ⟨?_, fun _ => hpos (by dsimp only; omega)⟩
    have hdigits : (d.digits : ℚ) = (d.digits / 10 : ℕ) * 10 := by
      exact_mod_cast (Nat.div_mul_cancel (Nat.dvd_of_mod_eq_zero h.1)).symm
    rw [hvalue, value, value, hdigits, zpow_add_one₀ (by norm_num)]
    ring
  | case2 d h =>
    rw [strip, dif_neg h]
    exact ⟨rfl, id⟩

end Decimal

namespace Binary

/-! ## The interval of a number -/

def value (x : Binary) : ℚ := x.mantissa * 2 ^ x.exponent

/-- The shape of a positive finite binary64 number: it is narrow at the lower end of a range of exponents, except the
first. -/
structure IsNumber (x : Binary) : Prop where
  pos : 0 < x.mantissa
  placed : Binary64.IsPlaced x.mantissa x.exponent
  narrow_iff : x.narrow = true ↔ x.mantissa = 2 ^ 52 ∧ x.exponent ≠ -1074

/-- How many quarters of a place the interval of a number reaches down. -/
def reach (x : Binary) : ℕ := if x.narrow then 1 else 2

/-- The numbers between the points half way to the neighbours of `x`, and the points themselves if the mantissa is
even. -/
structure Holds (x : Binary) (r : ℚ) : Prop where
  lower : (4 * x.mantissa - x.reach) * 2 ^ (x.exponent - 2) < r ∨
    x.mantissa % 2 = 0 ∧ (4 * x.mantissa - x.reach) * 2 ^ (x.exponent - 2) = r
  upper : r < (4 * x.mantissa + 2) * 2 ^ (x.exponent - 2) ∨
    x.mantissa % 2 = 0 ∧ r = (4 * x.mantissa + 2) * 2 ^ (x.exponent - 2)

theorem four_quarters (e : ℤ) : (2 : ℚ) ^ e = 4 * 2 ^ (e - 2) := by
  rw [show (4 : ℚ) = 2 ^ (2 : ℤ) by norm_num, ← Binary64.two_zpow_add]
  congr 1
  ring

/-- Everything in the interval is rounded to the number. -/
theorem Holds.nearest_eq {x : Binary} (hx : x.IsNumber) {r : ℚ} (h : x.Holds r) : Binary64.nearest r = x.value := by
  have hunit := Binary64.two_zpow_pos (x.exponent - 2)
  have hscale : r / 2 ^ x.exponent = r / 2 ^ (x.exponent - 2) / 4 := by
    rw [four_quarters, mul_comm, div_div]
  have hlower := h.lower
  have hupper := h.upper
  rw [← lt_div_iff₀ hunit, ← eq_div_iff hunit.ne'] at hlower
  rw [← div_lt_iff₀ hunit, ← div_eq_iff hunit.ne'] at hupper
  generalize r / 2 ^ (x.exponent - 2) = t at hscale hlower hupper
  have hreach : (x.reach : ℚ) ≤ 2 := by
    unfold reach
    split_ifs <;> norm_num
  have hlow : 4 * x.mantissa - x.reach ≤ t := by
    rcases hlower with hlt | ⟨-, heq⟩
    · exact hlt.le
    · exact heq.le
  have hhigh : t ≤ 4 * x.mantissa + 2 := by
    rcases hupper with hlt | ⟨-, heq⟩
    · exact hlt.le
    · exact heq.le
  refine Binary64.nearest_eq_of_between hx.pos hx.placed.lt hx.placed.le hx.placed.normal ?_ ?_ ?_ <;> rw [hscale]
  · have habs : |t / 4 - x.mantissa| ≤ 1 / 2 := abs_le.2 ⟨by linarith, by linarith⟩
    linarith
  · -- at an end of the interval, which is inside because the mantissa is even
    intro htie
    rcases abs_cases (t / 4 - x.mantissa) with ⟨habs, -⟩ | ⟨habs, -⟩
    · rcases hupper with hlt | ⟨heven, -⟩
      · linarith
      · exact heven
    · rcases hlower with hlt | ⟨heven, -⟩
      · linarith
      · exact heven
  · intro hmantissa hexponent
    have hnarrow : x.reach = 1 := if_pos (hx.narrow_iff.2 ⟨hmantissa, hexponent⟩)
    rw [hnarrow, Nat.cast_one] at hlow
    linarith

/-! ## Multiples of a power of ten -/

section Grid
variable (x : Binary) (k : ℤ)

theorem quarter_pos : 0 < (x.quarter k).1 ∧ 0 < (x.quarter k).2 :=
  ⟨Nat.mul_pos (Nat.pow_pos (by decide)) (Nat.pow_pos (by decide)),
    Nat.mul_pos (Nat.pow_pos (by decide)) (Nat.pow_pos (by decide))⟩

theorem quarter_mul : ((x.quarter k).1 : ℚ) * 10 ^ k = (x.quarter k).2 * 2 ^ (x.exponent - 2) := by
  have hpow (b : ℚ) (hb : b ≠ 0) (e : ℤ) : b ^ e * b ^ (-e).toNat = b ^ e.toNat := by
    rw [← zpow_natCast, ← zpow_natCast, ← zpow_add₀ hb]
    congr 1
    omega
  have htwo := hpow 2 (by norm_num) (x.exponent - 2)
  have hten := hpow 10 (by norm_num) k
  rw [neg_sub] at htwo
  simp only [quarter, Nat.pow_eq, Nat.cast_mul, Nat.cast_pow, Nat.cast_ofNat]
  calc (2 : ℚ) ^ (x.exponent - 2).toNat * 10 ^ (-k).toNat * 10 ^ k
      = 2 ^ (x.exponent - 2).toNat * (10 ^ k * 10 ^ (-k).toNat) := by ring
    _ = 2 ^ (x.exponent - 2) * 2 ^ (2 - x.exponent).toNat * 10 ^ k.toNat := by rw [hten, htwo]
    _ = 2 ^ (2 - x.exponent).toNat * 10 ^ k.toNat * 2 ^ (x.exponent - 2) := by ring

/-- Quarters of a place and multiples of a power of ten are whole multiples of one number. -/
theorem exists_scale : ∃ c : ℚ, 0 < c ∧ (∀ a : ℕ, (a : ℚ) * 2 ^ (x.exponent - 2) = (a * (x.quarter k).1 : ℕ) * c) ∧
    ∀ b : ℕ, (b : ℚ) * 10 ^ k = (b * (x.quarter k).2 : ℕ) * c := by
  have hden : (0 : ℚ) < (x.quarter k).2 := by exact_mod_cast (x.quarter_pos k).2
  have hmul := x.quarter_mul k
  refine ⟨10 ^ k / (x.quarter k).2, div_pos (zpow_pos (by norm_num) k) hden, fun a => ?_, fun b => ?_⟩
  · rw [Nat.cast_mul, mul_assoc, ← mul_div_assoc, hmul, mul_div_cancel_left₀ _ hden.ne']
  · rw [Nat.cast_mul, mul_assoc, mul_div_cancel₀ _ hden.ne']

/-- The last multiple of `10^k` that is not above `x`, divided by it. -/
def below : ℕ := 4 * x.mantissa * (x.quarter k).1 / (x.quarter k).2

def FitsBelow : Prop :=
  (4 * x.mantissa - x.reach) * (x.quarter k).1 < x.below k * (x.quarter k).2 ∨
    x.mantissa % 2 = 0 ∧ (4 * x.mantissa - x.reach) * (x.quarter k).1 = x.below k * (x.quarter k).2

def FitsAbove : Prop :=
  (x.below k + 1) * (x.quarter k).2 < (4 * x.mantissa + 2) * (x.quarter k).1 ∨
    x.mantissa % 2 = 0 ∧ (x.below k + 1) * (x.quarter k).2 = (4 * x.mantissa + 2) * (x.quarter k).1

theorem nearest?_cases :
    (∃ n, x.nearest? k = some n ∧ (n = x.below k ∧ x.FitsBelow k ∨ n = x.below k + 1 ∧ x.FitsAbove k)) ∨
    x.nearest? k = none ∧ ¬x.FitsBelow k ∧ ¬x.FitsAbove k := by
  set belowFits : Bool := decide ((4 * x.mantissa - x.reach) * (x.quarter k).1 < x.below k * (x.quarter k).2) ||
    (x.mantissa % 2 == 0 && (4 * x.mantissa - x.reach) * (x.quarter k).1 == x.below k * (x.quarter k).2) with hbelowFits
  set aboveFits : Bool := decide ((x.below k + 1) * (x.quarter k).2 < (4 * x.mantissa + 2) * (x.quarter k).1) ||
    (x.mantissa % 2 == 0 && (x.below k + 1) * (x.quarter k).2 == (4 * x.mantissa + 2) * (x.quarter k).1) with haboveFits
  have hbelow : belowFits = true ↔ x.FitsBelow k := by simp [hbelowFits, FitsBelow]
  have habove : aboveFits = true ↔ x.FitsAbove k := by simp [haboveFits, FitsAbove]
  have hnearest : ∃ n, (n = x.below k ∨ n = x.below k + 1) ∧ x.nearest? k =
      if (belowFits && aboveFits) = true then some n
      else if belowFits = true then some (x.below k)
      else if aboveFits = true then some (x.below k + 1)
      else none := ⟨_, ite_eq_or_eq _ _ _, rfl⟩
  obtain ⟨n, hn, hnearest⟩ := hnearest
  rw [hnearest, ← hbelow, ← habove]
  cases belowFits <;> cases aboveFits <;> simp [hn]

end Grid

theorem reach_le (x : Binary) : x.reach ≤ 2 := by
  unfold reach
  split_ifs <;> decide

section Search
variable {x : Binary} (hx : x.IsNumber) {k : ℤ}
include hx

/-- Membership in the interval, in whole numbers. -/
theorem holds_iff (n : ℕ) : x.Holds (n * 10 ^ k) ↔
    ((4 * x.mantissa - x.reach) * (x.quarter k).1 < n * (x.quarter k).2 ∨
      x.mantissa % 2 = 0 ∧ (4 * x.mantissa - x.reach) * (x.quarter k).1 = n * (x.quarter k).2) ∧
    (n * (x.quarter k).2 < (4 * x.mantissa + 2) * (x.quarter k).1 ∨
      x.mantissa % 2 = 0 ∧ n * (x.quarter k).2 = (4 * x.mantissa + 2) * (x.quarter k).1) := by
  obtain ⟨c, hc, hquarters, hmultiples⟩ := x.exists_scale k
  have hreach := x.reach_le
  have hpos := hx.pos
  have hlower : (4 * x.mantissa - x.reach : ℚ) * 2 ^ (x.exponent - 2) =
      ((4 * x.mantissa - x.reach) * (x.quarter k).1 : ℕ) * c := by
    rw [← hquarters, Nat.cast_sub (by omega)]
    push_cast
    ring
  have hupper : (4 * x.mantissa + 2 : ℚ) * 2 ^ (x.exponent - 2) = ((4 * x.mantissa + 2) * (x.quarter k).1 : ℕ) * c := by
    rw [← hquarters]
    push_cast
    ring
  have hparts : x.Holds (n * 10 ^ k) ↔ _ ∧ _ := ⟨fun h => ⟨h.lower, h.upper⟩, fun h => ⟨h.1, h.2⟩⟩
  rw [hparts, hlower, hupper, hmultiples, mul_lt_mul_iff_of_pos_right hc, mul_lt_mul_iff_of_pos_right hc,
    mul_left_inj' hc.ne', mul_left_inj' hc.ne']
  norm_cast

/-- A multiple of a power of ten that is found is in the interval. -/
theorem holds_of_nearest? {n : ℕ} (h : x.nearest? k = some n) : x.Holds (n * 10 ^ k) := by
  obtain ⟨hnum, hden⟩ := x.quarter_pos k
  have hlow : x.below k * (x.quarter k).2 ≤ 4 * x.mantissa * (x.quarter k).1 := Nat.div_mul_le_self _ _
  have hhigh : 4 * x.mantissa * (x.quarter k).1 < (x.below k + 1) * (x.quarter k).2 :=
    Nat.lt_mul_of_div_lt (Nat.lt_succ_self _) hden
  rw [holds_iff hx]
  rcases x.nearest?_cases k with ⟨m, hm, hfits⟩ | ⟨hnone, -, -⟩
  · obtain rfl : m = n := Option.some.inj (hm.symm.trans h)
    rcases hfits with ⟨rfl, hfits⟩ | ⟨rfl, hfits⟩
    · exact ⟨hfits, Or.inl (hlow.trans_lt (Nat.mul_lt_mul_of_pos_right (by omega) hnum))⟩
    · exact ⟨Or.inl ((Nat.mul_le_mul_right _ (Nat.sub_le _ _)).trans_lt hhigh), hfits⟩
  · rw [hnone] at h
    cases h

/-- Where the power of ten is smaller than the interval, one of the multiples around the number is inside. -/
theorem isSome_nearest? (h : (10 : ℚ) ^ k < (x.reach + 2) * 2 ^ (x.exponent - 2)) : (x.nearest? k).isSome = true := by
  obtain ⟨c, hc, hquarters, hmultiples⟩ := x.exists_scale k
  rcases x.nearest?_cases k with ⟨n, hn, -⟩ | ⟨-, hbelow, habove⟩
  · rw [hn]
    rfl
  · -- the two multiples are at least as far apart as the interval is wide
    have hbelow : x.below k * (x.quarter k).2 ≤ (4 * x.mantissa - x.reach) * (x.quarter k).1 :=
      Nat.le_of_not_lt fun hlt => hbelow (Or.inl hlt)
    have habove : (4 * x.mantissa + 2) * (x.quarter k).1 ≤ (x.below k + 1) * (x.quarter k).2 :=
      Nat.le_of_not_lt fun hlt => habove (Or.inl hlt)
    have hapart : (x.reach + 2) * (x.quarter k).1 ≤ 1 * (x.quarter k).2 := by
      have hreach := x.reach_le
      have hpos := hx.pos
      have hsum : (x.reach + 2) * (x.quarter k).1 + (4 * x.mantissa - x.reach) * (x.quarter k).1 =
          (4 * x.mantissa + 2) * (x.quarter k).1 := by
        rw [← Nat.add_mul]
        congr 1
        omega
      rw [Nat.add_mul (x.below k)] at habove
      omega
    refine absurd h (not_lt.2 ?_)
    calc (x.reach + 2 : ℚ) * 2 ^ (x.exponent - 2) = ((x.reach + 2) * (x.quarter k).1 : ℕ) * c := by
          rw [← hquarters, Nat.cast_add, Nat.cast_ofNat]
      _ ≤ (1 * (x.quarter k).2 : ℕ) * c := mul_le_mul_of_nonneg_right (by exact_mod_cast hapart) hc.le
      _ = 10 ^ k := by rw [← hmultiples, Nat.cast_one, one_mul]

/-! ## Seventeen digits -/

omit hx in
theorem value_eq_quarters : x.value = (4 * x.mantissa : ℕ) * 2 ^ (x.exponent - 2) := by
  rw [value, four_quarters]
  push_cast
  ring

theorem le_value : (10 : ℚ) ^ (-400 : ℤ) ≤ x.value := by
  have hmantissa : (1 : ℚ) ≤ x.mantissa := by exact_mod_cast hx.pos
  calc (10 : ℚ) ^ (-400 : ℤ) ≤ 10 ^ (-358 : ℤ) := zpow_le_zpow_right₀ (by norm_num) (by norm_num)
    _ ≤ 8 ^ (-358 : ℤ) := by
      rw [zpow_neg, zpow_neg]
      exact inv_anti₀ (by positivity) (zpow_le_zpow_left₀ (by norm_num) (by norm_num) (by norm_num))
    _ = 2 ^ (3 * -358 : ℤ) := by rw [zpow_mul]; norm_num
    _ ≤ 2 ^ x.exponent := Binary64.two_zpow_le hx.placed.le
    _ ≤ x.value := le_mul_of_one_le_left (Binary64.two_zpow_pos _).le hmantissa

theorem zpow_magnitude_le : (10 : ℚ) ^ x.magnitude ≤ 10 * x.value := by
  obtain ⟨c, hc, hquarters, hmultiples⟩ := x.exists_scale (-400)
  obtain ⟨-, hden⟩ := x.quarter_pos (-400)
  set parts := 4 * x.mantissa * (x.quarter (-400)).1 with hparts
  have hvalue : x.value = parts * c := by rw [value_eq_quarters, hquarters]
  have hpos : 0 < parts / (x.quarter (-400)).2 := by
    have hle := le_value hx
    rw [← one_mul (10 ^ (-400 : ℤ)), ← Nat.cast_one, hmultiples, hvalue, mul_le_mul_iff_of_pos_right hc] at hle
    rw [one_mul] at hle
    exact Nat.div_pos (by exact_mod_cast hle) hden
  have hdigits : ((10 ^ digitCount (parts / (x.quarter (-400)).2) : ℕ) : ℚ) ≤
      (10 * (parts / (x.quarter (-400)).2) : ℕ) := by
    exact_mod_cast pow_digitCount_le _ hpos
  have hfloor : ((parts / (x.quarter (-400)).2 : ℕ) : ℚ) * 10 ^ (-400 : ℤ) ≤ x.value := by
    rw [hmultiples, hvalue]
    exact mul_le_mul_of_nonneg_right (by exact_mod_cast Nat.div_mul_le_self _ _) hc.le
  push_cast at hdigits
  calc (10 : ℚ) ^ x.magnitude = 10 ^ digitCount (parts / (x.quarter (-400)).2) * 10 ^ (-400 : ℤ) := by
        rw [← zpow_natCast, ← zpow_add₀ (by norm_num)]
        rfl
    _ ≤ 10 * (parts / (x.quarter (-400)).2 : ℕ) * 10 ^ (-400 : ℤ) :=
      mul_le_mul_of_nonneg_right hdigits (zpow_pos (by norm_num) _).le
    _ ≤ 10 * x.value := by linarith

theorem isSome_nearest?_seventeen : (x.nearest? (x.magnitude - 17)).isSome = true := by
  apply isSome_nearest? hx
  have hunit := Binary64.two_zpow_pos (x.exponent - 2)
  have hsize : (10 : ℚ) ^ (x.magnitude - 17) ≤ 40 * x.mantissa / 10 ^ 17 * 2 ^ (x.exponent - 2) := by
    have hmagnitude := zpow_magnitude_le hx
    rw [value_eq_quarters] at hmagnitude
    push_cast at hmagnitude
    rw [zpow_sub₀ (by norm_num), zpow_ofNat, div_le_iff₀ (by norm_num)]
    linarith
  refine hsize.trans_lt (mul_lt_mul_of_pos_right ?_ hunit)
  unfold reach
  split_ifs with hnarrow
  · rw [(hx.narrow_iff.1 hnarrow).1]
    norm_num
  · have hlt : (x.mantissa : ℚ) < 9007199254740992 := by exact_mod_cast hx.placed.lt
    norm_num
    linarith

/-- **The shortest decimal of a number is rounded to it.** -/
theorem shortest_spec : 0 < x.shortest.digits ∧ Binary64.nearest x.shortest.value = x.value := by
  set found := ((List.range 17).map (· + 1)).findSome? fun (n : ℕ) =>
    (x.nearest? (x.magnitude - n)).map fun digits => (⟨digits, x.magnitude - n⟩ : Decimal) with hfound
  have hsome : found.isSome = true := by
    rw [hfound, List.findSome?_isSome_iff]
    exact ⟨17, by decide, by rw [Option.isSome_map]; exact isSome_nearest?_seventeen hx⟩
  obtain ⟨d, hd⟩ := Option.isSome_iff_exists.1 hsome
  obtain ⟨n, -, hn⟩ := List.exists_of_findSome?_eq_some (hfound.symm.trans hd)
  obtain ⟨digits, hdigits, rfl⟩ := Option.map_eq_some_iff.1 hn
  have hholds := holds_of_nearest? hx hdigits
  have hshortest : x.shortest = Decimal.strip ⟨digits, x.magnitude - n⟩ :=
    congrArg (fun d => (Option.getD d ⟨0, 0⟩).strip) hd
  obtain ⟨hvalue, hpos⟩ := Decimal.strip_spec ⟨digits, x.magnitude - n⟩
  rw [hshortest]
  refine ⟨hpos (Nat.pos_of_ne_zero ?_), ?_⟩
  · -- zero would be rounded to zero
    rintro rfl
    have hzero := hholds.nearest_eq hx
    rw [Nat.cast_zero, zero_mul, Binary64.nearest_zero] at hzero
    exact absurd (le_value hx) (not_le.2 (hzero ▸ zpow_pos (by norm_num) _))
  · rw [hvalue]
    exact hholds.nearest_eq hx

end Search

end Binary

end Orbit
