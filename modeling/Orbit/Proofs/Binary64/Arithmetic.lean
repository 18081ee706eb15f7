import Orbit.Proofs.Binary64.Value

/-!
# Binary64 arithmetic rounds the exact result

The arithmetic of words works with a mantissa and two more bits, the next bit and whether anything follows it. These say
where the exact number lies, and shifts keep that (`Locates.shift`), so that rounding gives the number nearest to it.

* `Locates em x` : what mantissa, round bit and sticky bit say about the exact number `x`;
* `Rounds q u`, `Rounded q x` : an unpacked number, and a word, that are the exact number `q` rounded;
* `rounds_add`, `rounds_sub`, `rounds_mul`, `rounds_div` : the four operations on unpacked numbers;
* `rounded_add`, `rounded_sub`, `rounded_mul`, `rounded_div`, `isFinite_ofWord` : the four operations on finite words,
  and words made of whole numbers.
-/

namespace Orbit.Binary64

open Float.Model UnpackedFloat

/-! ## Mantissas with two more bits -/

/-- The mantissa is the whole part of `x`; the round bit is set from one half on, and the sticky bit if there is
something behind the first binary place. -/
structure Locates (em : ExtendedMantissa) (x : ℚ) : Prop where
  floor : ⌊x⌋ = em.mantissa
  roundBit : em.roundBit = true ↔ 1 ≤ 2 * Int.fract x
  stickyBit : em.stickyBit = true ↔ 2 * Int.fract x ≠ 0 ∧ 2 * Int.fract x ≠ 1

theorem locates_accuracyOfFraction (m : ℕ) {num den : ℕ} (h : num < den) :
    Locates (.ofMantissaAndAccuracy m (accuracyOfFraction num den)) (m + num / den) := by
  have hden : (0 : ℚ) < den := by exact_mod_cast Nat.zero_lt_of_lt h
  have hlt : (num : ℚ) / den < 1 := (div_lt_one hden).2 (by exact_mod_cast h)
  have hnonneg : (0 : ℚ) ≤ num / den := by positivity
  have hfract : Int.fract ((m : ℚ) + num / den) = num / den := by
    rw [Int.fract_natCast_add, Int.fract_eq_self.2 ⟨hnonneg, hlt⟩]
  have hfloor : ⌊(m : ℚ) + num / den⌋ = m := by
    rw [Int.floor_natCast_add, Int.floor_eq_zero_iff.2 ⟨hnonneg, hlt⟩, add_zero]
  have hdouble : 2 * ((num : ℚ) / den) = ((2 * num : ℕ) : ℚ) / den := by
    push_cast
    ring
  unfold accuracyOfFraction
  split_ifs with hzero
  · refine ⟨hfloor, ?_, ?_⟩ <;> rw [hfract, hzero] <;> norm_num [ExtendedMantissa.ofMantissaAndAccuracy]
  · have hpos : 2 * ((num : ℚ) / den) ≠ 0 := by
      have : (num : ℚ) ≠ 0 := by exact_mod_cast hzero
      positivity
    rcases lt_trichotomy (2 * num) den with hcompare | hcompare | hcompare
    · have hone : 2 * ((num : ℚ) / den) < 1 := by
        rw [hdouble, div_lt_one hden]
        exact_mod_cast hcompare
      rw [Nat.compare_eq_lt.2 hcompare]
      refine ⟨hfloor, ?_, ?_⟩ <;> rw [hfract]
      · exact iff_of_false Bool.false_ne_true hone.not_ge
      · exact iff_of_true rfl ⟨hpos, hone.ne⟩
    · have hone : 2 * ((num : ℚ) / den) = 1 := by
        rw [hdouble, hcompare, div_self hden.ne']
      rw [Nat.compare_eq_eq.2 hcompare]
      refine ⟨hfloor, ?_, ?_⟩ <;> rw [hfract]
      · exact iff_of_true rfl hone.ge
      · exact iff_of_false Bool.false_ne_true fun hne => hne.2 hone
    · have hone : 1 < 2 * ((num : ℚ) / den) := by
        rw [hdouble, one_lt_div hden]
        exact_mod_cast hcompare
      rw [Nat.compare_eq_gt.2 hcompare]
      refine ⟨hfloor, ?_, ?_⟩ <;> rw [hfract]
      · exact iff_of_true rfl hone.le
      · exact iff_of_true rfl ⟨hpos, hone.ne'⟩

theorem Locates.floor_eq {m : ℕ} {a : Accuracy} {x : ℚ} (h : Locates (.ofMantissaAndAccuracy m a) x) : ⌊x⌋ = m := by
  rw [h.floor]
  rcases a with _ | (_ | _ | _) <;> rfl

theorem locates_exact (m : ℕ) : Locates (.ofMantissaAndAccuracy m .exact) m := by
  have hexact := locates_accuracyOfFraction m Nat.one_pos
  simpa [accuracyOfFraction] using hexact

theorem Locates.roundedMantissa {em : ExtendedMantissa} {x : ℚ} (h : Locates em x) :
    (em.roundedMantissa : ℤ) = roundEven x := by
  obtain ⟨m, r, s⟩ := em
  obtain ⟨hfloor, hround, hsticky⟩ := h
  simp only at hfloor hround hsticky
  unfold roundEven
  rw [hfloor]
  cases r <;> cases s <;> simp only [Bool.false_eq_true, false_iff, true_iff, not_and_or, not_not, not_le]
    at hround hsticky
  · rw [if_pos hround]
    rfl
  · rw [if_pos hround]
    rfl
  · have hhalf : 2 * Int.fract x = 1 := hsticky.resolve_left (by linarith)
    rw [if_neg (by linarith), if_neg (by linarith)]
    exact Nat.cast_add m (m % 2)
  · have hlt : 1 < 2 * Int.fract x := lt_of_le_of_ne hround (Ne.symm hsticky.2)
    rw [if_neg (by linarith), if_pos hlt]
    exact Nat.cast_add m 1

theorem Locates.shiftRightOne {em : ExtendedMantissa} {x : ℚ} (h : Locates em x) :
    Locates em.shiftRightOne (x / 2) := by
  obtain ⟨hfloor, hround, hsticky⟩ := h
  have hhalf : ⌊x / 2⌋ = (em.mantissa / 2 : ℕ) := by
    have hdiv := Int.floor_div_natCast x 2
    rw [hfloor] at hdiv
    exact_mod_cast hdiv
  have hx : x = em.mantissa + Int.fract x := by
    have hx := Int.floor_add_fract x
    rw [hfloor] at hx
    exact_mod_cast hx.symm
  have hmod : (em.mantissa : ℚ) = 2 * (em.mantissa / 2 : ℕ) + (em.mantissa % 2 : ℕ) := by
    exact_mod_cast (Nat.div_add_mod em.mantissa 2).symm
  -- twice the new fraction is the last bit of the mantissa and the old fraction
  have hfract : 2 * Int.fract (x / 2) = (em.mantissa % 2 : ℕ) + Int.fract x := by
    rw [Int.fract, hhalf, Int.cast_natCast]
    linarith
  have hnonneg := Int.fract_nonneg x
  have hlt := Int.fract_lt_one x
  have hstick : em.roundBit = true ∨ em.stickyBit = true ↔ Int.fract x ≠ 0 := by
    rw [hround, hsticky]
    constructor
    · rintro (h | h) hzero
      · linarith
      · exact h.1 (by rw [hzero, mul_zero])
    · intro hne
      by_cases hone : 2 * Int.fract x = 1
      · exact Or.inl hone.ge
      · exact Or.inr ⟨mul_ne_zero two_ne_zero hne, hone⟩
  refine ⟨hhalf, ?_, ?_⟩
  · rw [hfract, ExtendedMantissa.shiftRightOne, bne_iff_ne]
    rcases Nat.mod_two_eq_zero_or_one em.mantissa with hbit | hbit <;> rw [hbit] <;> push_cast
    · exact iff_of_false (fun h => h rfl) (by linarith)
    · exact iff_of_true one_ne_zero (by linarith)
  · rw [hfract, ExtendedMantissa.shiftRightOne, Bool.or_eq_true, hstick]
    rcases Nat.mod_two_eq_zero_or_one em.mantissa with hbit | hbit <;> rw [hbit] <;> push_cast
    · rw [zero_add]
      exact ⟨fun h => ⟨h, hlt.ne⟩, And.left⟩
    · exact ⟨fun h => ⟨by linarith, fun hone => h (by linarith)⟩, fun h hzero => h.2 (by rw [hzero, add_zero])⟩

theorem Locates.shift {em : ExtendedMantissa} {x : ℚ} (h : Locates em x) (k : ℕ) : Locates (em >>> k) (x / 2 ^ k) := by
  show Locates (k.repeat ExtendedMantissa.shiftRightOne em) _
  induction k with
  | zero => rwa [pow_zero, div_one]
  | succ k ih =>
    rw [pow_succ, ← div_div]
    exact ih.shiftRightOne

/-! ## Exponents -/

theorem targetExponent_eq (m : ℕ) (e : ℤ) :
    Format.binary64.targetExponent (totalExponent m e) = max (m.log2 + e - 52) (-1074) := by
  unfold Format.targetExponent totalExponent Format.minExponent Format.mantissaBits
  norm_num
  omega

theorem gridExponent_of_floor {x : ℚ} {m : ℕ} {e : ℤ} (hfloor : ⌊x⌋ = m) (hx : x ≠ 0)
    (he : e ≤ max (m.log2 + e - 52) (-1074)) :
    gridExponent (x * 2 ^ e) = max (m.log2 + e - 52) (-1074) := by
  have hscale := two_zpow_pos e
  obtain ⟨hle, hlt⟩ := Int.floor_eq_iff.1 hfloor
  rw [Int.cast_natCast] at hle hlt
  have hxpos : 0 < x := lt_of_le_of_ne ((Nat.cast_nonneg m).trans hle) hx.symm
  have hpos : 0 < x * 2 ^ e := mul_pos hxpos hscale
  unfold gridExponent
  rw [abs_of_pos hpos]
  rcases Nat.eq_zero_or_pos m with rfl | hm
  · -- nothing in front of the point: the exponent is the least one or below
    rw [Nat.cast_zero, zero_add] at hlt
    have hlog : Int.log 2 (x * 2 ^ e) < e := by
      rw [← Int.lt_zpow_iff_log_lt (b := 2) (by norm_num) hpos]
      exact mul_lt_of_lt_one_left hscale hlt
    simp only [Nat.log2_zero, Nat.cast_zero] at he ⊢
    omega
  · obtain ⟨hlow, hhigh⟩ := (Nat.log2_eq_iff hm.ne').1 rfl
    have hlow' : (2 : ℚ) ^ m.log2 ≤ x := le_trans (by exact_mod_cast hlow) hle
    have hhigh' : x < 2 ^ (m.log2 + 1) := hlt.trans_le (by exact_mod_cast hhigh)
    have hlog : Int.log 2 (x * 2 ^ e) = m.log2 + e := by
      apply le_antisymm
      · rw [← Int.lt_add_one_iff, ← Int.lt_zpow_iff_log_lt (b := 2) (by norm_num) hpos,
          show (m.log2 : ℤ) + e + 1 = ((m.log2 + 1 : ℕ) : ℤ) + e by push_cast; ring]
        push_cast
        rw [zpow_add₀ (by norm_num), ← Nat.cast_succ, zpow_natCast]
        exact mul_lt_mul_of_pos_right hhigh' hscale
      · rw [← Int.zpow_le_iff_le_log (b := 2) (by norm_num) hpos]
        push_cast
        rw [zpow_add₀ (by norm_num), zpow_natCast]
        exact mul_le_mul_of_nonneg_right hlow' hscale.le
    rw [hlog]

/-! ## Rounding -/

/-- An unpacked number of the right shape that is `q` rounded, however large. -/
structure Rounds (q : ℚ) (u : UnpackedFloat) : Prop where
  finite : u.isFinite = true
  canonical : IsCanonical u
  value_eq : unpackedValue u = nearest q

theorem shiftToTargetExponent_eq (m : ℕ) (e : ℤ) (a : Accuracy) {k : ℕ}
    (h : (max (m.log2 + e - 52) (-1074) - e).toNat = k) :
    shiftToTargetExponent .binary64 m e a = (ExtendedMantissa.ofMantissaAndAccuracy m a >>> k, e + k) := by
  subst h
  rw [← targetExponent_eq]
  rfl

/-- The second shift, for a mantissa that rounding may have made one bit longer, changes no value. -/
theorem shift_carry {m : ℕ} {e : ℤ} (hm : m ≤ 2 ^ 53) (he : -1074 ≤ e) (hnormal : e = -1074 ∨ 2 ^ 52 ≤ m) :
    ∃ m' e', (shiftToTargetExponent .binary64 m e .exact).1.mantissa = m' ∧
      (shiftToTargetExponent .binary64 m e .exact).2 = e' ∧ IsPlaced m' e' ∧ (m' : ℚ) * 2 ^ e' = m * 2 ^ e := by
  rcases hm.lt_or_eq with hlt | rfl
  · have hlog : m.log2 ≤ 52 := by
      rcases eq_or_ne m 0 with rfl | hne
      · exact Nat.zero_le _
      · exact Nat.le_of_lt_succ ((Nat.log2_lt hne).2 hlt)
    rw [shiftToTargetExponent_eq m e .exact (k := 0) (by omega)]
    exact ⟨m, e, rfl, add_zero e, ⟨hlt, he, hnormal⟩, rfl⟩
  · rw [shiftToTargetExponent_eq (2 ^ 53) e .exact (k := 1) (by rw [Nat.log2_two_pow]; omega)]
    refine ⟨2 ^ 52, e + 1, rfl, rfl, ⟨by norm_num, by omega, Or.inr le_rfl⟩, ?_⟩
    rw [two_zpow_add]
    push_cast
    ring

/-- What the first shift and rounding leave: the nearest number, with a mantissa that may be one bit too long. -/
theorem nearest_of_locates {m : ℕ} {e : ℤ} {a : Accuracy} {x : ℚ} {k : ℕ} (hx : Locates (.ofMantissaAndAccuracy m a) x)
    (he : e ≤ max (m.log2 + e - 52) (-1074)) (hk : e + k = max (m.log2 + e - 52) (-1074)) :
    let r := (ExtendedMantissa.ofMantissaAndAccuracy m a >>> k).roundedMantissa
    nearest (x * 2 ^ e) = r * 2 ^ (e + k) ∧ r ≤ 2 ^ 53 ∧ (e + k = -1074 ∨ 2 ^ 52 ≤ r) := by
  intro r
  have hfloor := hx.floor_eq
  have hscale := two_zpow_pos (e + k)
  have hr : (r : ℤ) = roundEven (x / 2 ^ k) := (hx.shift k).roundedMantissa
  have hquotient : x * 2 ^ e / 2 ^ (e + k) = x / 2 ^ k := by
    rw [two_zpow_add, zpow_natCast, mul_div_mul_comm, mul_comm, ← mul_div_mul_comm]
    field_simp
  rcases eq_or_ne x 0 with rfl | hne
  · obtain rfl : m = 0 := by
      rw [Int.floor_zero] at hfloor
      exact_mod_cast hfloor.symm
    have hzero : r = 0 := by
      rw [zero_div, show (0 : ℚ) = ((0 : ℤ) : ℚ) from rfl, roundEven_intCast] at hr
      exact_mod_cast hr
    simp only [Nat.log2_zero, Nat.cast_zero] at he hk
    refine ⟨?_, by omega, Or.inl (by omega)⟩
    rw [hzero, zero_mul, nearest_zero, Nat.cast_zero, zero_mul]
  · have hgrid : gridExponent (x * 2 ^ e) = e + k := by rw [gridExponent_of_floor hfloor hne he, hk]
    have hxpos : 0 ≤ x := by
      have hle := Int.floor_le x
      rw [hfloor, Int.cast_natCast] at hle
      exact (Nat.cast_nonneg m).trans hle
    have habs : |x * 2 ^ e| = x * 2 ^ e := abs_of_nonneg (mul_nonneg hxpos (two_zpow_pos e).le)
    refine ⟨?_, ?_, ?_⟩
    · have hcast : (r : ℚ) = ((r : ℤ) : ℚ) := (Int.cast_natCast r).symm
      rw [nearest, hgrid, hquotient, hcast, hr]
    · have hlt := abs_lt_zpow_gridExponent (x * 2 ^ e)
      rw [habs, hgrid, two_zpow_add 53, zpow_ofNat, ← div_lt_iff₀ hscale, hquotient] at hlt
      have hle := roundEven_le_two_pow hlt.le
      rw [← hr] at hle
      exact_mod_cast hle
    · by_cases hmin : e + k = -1074
      · exact Or.inl hmin
      · right
        have hle := zpow_gridExponent_le (mul_ne_zero hne (two_zpow_pos e).ne') (by rwa [hgrid])
        rw [habs, hgrid, two_zpow_add 52, zpow_ofNat, ← le_div_iff₀ hscale, hquotient] at hle
        have hle' := two_pow_le_roundEven hle
        rw [← hr] at hle'
        exact_mod_cast hle'

/-- **Rounding gives the nearest number.** -/
theorem rounds_roundWithAccuracy (s : Sign) {m : ℕ} {e : ℤ} {a : Accuracy} {x : ℚ}
    (hx : Locates (.ofMantissaAndAccuracy m a) x) (he : e ≤ max (m.log2 + e - 52) (-1074)) :
    Rounds (signed s (x * 2 ^ e)) (roundWithAccuracy .binary64 s m e a) := by
  set k := (max (m.log2 + e - 52) (-1074) - e).toNat with hk
  obtain ⟨hnear, hle, hnormal⟩ := nearest_of_locates (k := k) hx he (by omega)
  obtain ⟨m', e', hm', he', hplaced, hvalue⟩ := shift_carry hle (by omega) hnormal
  unfold roundWithAccuracy
  rw [shiftToTargetExponent_eq m e a hk.symm]
  dsimp only
  by_cases hzero : m' = 0
  · rw [dif_pos (hm'.trans hzero)]
    refine ⟨rfl, trivial, ?_⟩
    rw [nearest_signed, hnear, ← hvalue, hzero, Nat.cast_zero, zero_mul, signed_zero]
    rfl
  · rw [dif_neg fun h => hzero (hm'.symm.trans h)]
    refine ⟨rfl, ?_, ?_⟩
    · show IsPlaced _ _
      rwa [hm', he']
    · show signed s (_ * 2 ^ _) = _
      rw [nearest_signed, hnear, ← hvalue, hm', he']

theorem log2_shiftLeft {m : ℕ} (hm : 0 < m) (k : ℕ) : (m <<< k).log2 = m.log2 + k := by
  obtain ⟨hlow, hhigh⟩ := (Nat.log2_eq_iff hm.ne').1 rfl
  have hpow := Nat.two_pow_pos k
  rw [Nat.shiftLeft_eq, Nat.log2_eq_iff (Nat.mul_pos hm hpow).ne']
  constructor
  · rw [pow_add]
    exact Nat.mul_le_mul_right _ hlow
  · rw [show m.log2 + k + 1 = m.log2 + 1 + k by ring, pow_add]
    exact Nat.mul_lt_mul_of_pos_right hhigh hpow

theorem shiftLeft_value (m k : ℕ) (e : ℤ) : ((m <<< k : ℕ) : ℚ) * 2 ^ (e - k) = m * 2 ^ e := by
  rw [Nat.shiftLeft_eq, Nat.cast_mul, Nat.cast_pow, mul_assoc, Nat.cast_ofNat, ← zpow_natCast, ← two_zpow_add]
  congr 2
  ring

theorem rounds_zero (s : Sign) : Rounds 0 (.zero s) := ⟨rfl, trivial, nearest_zero.symm⟩

theorem rounds_round (s : Sign) {m : ℕ} (hm : 0 < m) (e : ℤ) :
    Rounds (signed s (m * 2 ^ e)) (UnpackedFloat.round .binary64 s m e) := by
  unfold UnpackedFloat.round decreaseExponent
  rw [targetExponent_eq]
  dsimp only
  set k := (e - max ((m.log2 : ℤ) + e - 52) (-1074)).toNat with hk
  have hlog := log2_shiftLeft hm k
  rw [← shiftLeft_value m k e]
  exact rounds_roundWithAccuracy s (locates_exact _) (by rw [hlog]; push_cast; omega)

theorem rounds_normalize (n e : ℤ) (s : Sign) : Rounds (n * 2 ^ e) (UnpackedFloat.normalize .binary64 n e s) := by
  unfold UnpackedFloat.normalize
  rcases lt_trichotomy n 0 with hneg | rfl | hpos
  · rw [compare_lt_iff_lt.2 hneg]
    have hround := rounds_round .negative (m := (-n).toNat) (by omega) e
    have hcast : (((-n).toNat : ℕ) : ℚ) = -n := by
      have htoNat : ((-n).toNat : ℤ) = -n := by omega
      exact_mod_cast htoNat
    rw [hcast, signed, neg_mul, neg_neg] at hround
    exact hround
  · rw [compare_eq_iff_eq.2 rfl, Int.cast_zero, zero_mul]
    exact rounds_zero s
  · rw [compare_gt_iff_gt.2 hpos]
    have hround := rounds_round .positive (m := n.toNat) (by omega) e
    have hcast : ((n.toNat : ℕ) : ℚ) = n := by
      have htoNat : (n.toNat : ℤ) = n := by omega
      exact_mod_cast htoNat
    rw [hcast, signed] at hround
    exact hround

/-! ## Operations on unpacked numbers -/

/-- What is canonical is kept. -/
theorem IsCanonical.rounds_self {u : UnpackedFloat} (h : IsCanonical u) (hu : u.isFinite = true) :
    Rounds (unpackedValue u) u := by
  refine ⟨hu, h, ?_⟩
  rcases isFinite_iff.1 hu with ⟨s, rfl⟩ | ⟨s, m, e, hm, rfl⟩
  · exact nearest_zero.symm
  · have hplaces := nearest_of_places (n := m) (e := e) (by rw [Nat.abs_cast]; exact_mod_cast h.lt) h.le
    rw [Int.cast_natCast] at hplaces
    rw [unpackedValue_finite, nearest_signed, hplaces]

/-- The mantissa of a number at a smaller exponent. -/
theorem apply_decreaseExponent (s : Sign) (m : ℕ) {e t : ℤ} (h : t ≤ e) :
    ((s.apply (decreaseExponent m e t).1 : ℤ) : ℚ) * 2 ^ t = signed s (m * 2 ^ e) := by
  have hvalue := shiftLeft_value m (e - t).toNat e
  rw [show e - ((e - t).toNat : ℤ) = t by omega] at hvalue
  rw [cast_apply, signed_mul, ← hvalue]
  rfl

theorem rounds_add {u v : UnpackedFloat} (hu : u.isFinite = true) (hv : v.isFinite = true) (hu' : IsCanonical u)
    (hv' : IsCanonical v) : Rounds (unpackedValue u + unpackedValue v) (u.add .binary64 v) := by
  rcases isFinite_iff.1 hu with ⟨s, rfl⟩ | ⟨s, m, e, hm, rfl⟩
  · rcases isFinite_iff.1 hv with ⟨t, rfl⟩ | ⟨t, n, f, hn, rfl⟩
    · rw [show unpackedValue (.zero s) + unpackedValue (.zero t) = 0 from add_zero 0]
      cases s <;> cases t <;> exact rounds_zero _
    · rw [show unpackedValue (.zero s) = 0 from rfl, zero_add]
      exact hv'.rounds_self hv
  · rcases isFinite_iff.1 hv with ⟨t, rfl⟩ | ⟨t, n, f, hn, rfl⟩
    · rw [show unpackedValue (.zero t) = 0 from rfl, add_zero]
      exact hu'.rounds_self hu
    · have hsum := rounds_normalize
        (s.apply (decreaseExponent m e (min e f)).1 + t.apply (decreaseExponent n f (min e f)).1) (min e f) .positive
      rw [Int.cast_add, add_mul, apply_decreaseExponent s m (min_le_left e f),
        apply_decreaseExponent t n (min_le_right e f)]
        at hsum
      exact hsum

theorem rounds_sub {u v : UnpackedFloat} (hu : u.isFinite = true) (hv : v.isFinite = true) (hu' : IsCanonical u)
    (hv' : IsCanonical v) : Rounds (unpackedValue u - unpackedValue v) (u.sub .binary64 v) := by
  rcases isFinite_iff.1 hu with ⟨s, rfl⟩ | ⟨s, m, e, hm, rfl⟩
  · rcases isFinite_iff.1 hv with ⟨t, rfl⟩ | ⟨t, n, f, hn, rfl⟩
    · rw [show unpackedValue (.zero s) - unpackedValue (.zero t) = 0 from sub_zero 0]
      cases s <;> cases t <;> exact rounds_zero _
    · have hneg : IsCanonical (.finite (-t) n f hn) := hv'
      have hvalue : unpackedValue (.zero s) - unpackedValue (.finite t n f hn) =
          unpackedValue (.finite (-t) n f hn) := by
        rw [show unpackedValue (.zero s) = 0 from rfl, zero_sub]
        cases t with
        | positive => rfl
        | negative => exact neg_neg _
      rw [hvalue]
      exact hneg.rounds_self rfl
  · rcases isFinite_iff.1 hv with ⟨t, rfl⟩ | ⟨t, n, f, hn, rfl⟩
    · rw [show unpackedValue (.zero t) = 0 from rfl, sub_zero]
      exact hu'.rounds_self hu
    · have hdifference := rounds_normalize
        (s.apply (decreaseExponent m e (min e f)).1 - t.apply (decreaseExponent n f (min e f)).1) (min e f) .positive
      rw [Int.cast_sub, sub_mul, apply_decreaseExponent s m (min_le_left e f),
        apply_decreaseExponent t n (min_le_right e f)]
        at hdifference
      exact hdifference

/-- The product of two mantissas that have enough bits together. -/
theorem rounds_mul_finite (s t : Sign) {m n : ℕ} (e f : ℤ) (hm : 0 < m) (hn : 0 < n)
    (h : e + f ≤ max ((m * n).log2 + (e + f) - 52) (-1074)) :
    Rounds (signed s (m * 2 ^ e) * signed t (n * 2 ^ f))
      (UnpackedFloat.mul .binary64 (.finite s m e hm) (.finite t n f hn)) := by
  have hvalue : signed s (m * 2 ^ e) * signed t (n * 2 ^ f) = signed (s * t) ((m * n : ℕ) * 2 ^ (e + f)) := by
    rw [signed_mul_signed, two_zpow_add, Nat.cast_mul]
    congr 1
    ring
  rw [hvalue]
  exact rounds_roundWithAccuracy (s * t) (locates_exact _) h

theorem le_log2_mul {m n : ℕ} (hm : 0 < m) (hn : 0 < n) (h : 2 ^ 52 ≤ m ∨ 2 ^ 52 ≤ n) : 52 ≤ (m * n).log2 := by
  rw [Nat.le_log2 (Nat.mul_pos hm hn).ne']
  rcases h with h | h
  · exact h.trans (Nat.le_mul_of_pos_right m hn)
  · exact h.trans (Nat.le_mul_of_pos_left n hm)

theorem rounds_mul {u v : UnpackedFloat} (hu : u.isFinite = true) (hv : v.isFinite = true) (hu' : IsCanonical u)
    (hv' : IsCanonical v) : Rounds (unpackedValue u * unpackedValue v) (u.mul .binary64 v) := by
  rcases isFinite_iff.1 hu with ⟨s, rfl⟩ | ⟨s, m, e, hm, rfl⟩
  · rw [show unpackedValue (.zero s) = 0 from rfl, zero_mul]
    rcases isFinite_iff.1 hv with ⟨t, rfl⟩ | ⟨t, n, f, hn, rfl⟩ <;> exact rounds_zero _
  · rcases isFinite_iff.1 hv with ⟨t, rfl⟩ | ⟨t, n, f, hn, rfl⟩
    · rw [show unpackedValue (.zero t) = 0 from rfl, mul_zero]
      exact rounds_zero _
    · apply rounds_mul_finite
      have hlog := le_log2_mul hm hn
      have hle := hu'.le
      have hle' := hv'.le
      rcases hu'.normal with hmin | hnormal
      · rcases hv'.normal with hmin' | hnormal'
        · omega
        · have := hlog (Or.inr hnormal')
          omega
      · have := hlog (Or.inl hnormal)
        omega

/-- The exponent that quotients are computed at. -/
def quotientExponent (m : ℕ) (e : ℤ) (n : ℕ) (f : ℤ) : ℤ :=
  min (e - f) (max (m.log2 + e - (n.log2 + f) - 53) (-1074))

theorem divCore_eq (m : ℕ) (e : ℤ) (n : ℕ) (f : ℤ) {k : ℕ} (h : (e - f - quotientExponent m e n f).toNat = k) :
    divCore .binary64 m e n f = ((m <<< k) / n, quotientExponent m e n f, accuracyOfFraction ((m <<< k) % n) n) := by
  have htarget : min (e - f) (Format.binary64.targetExponent (totalExponent m e - totalExponent n f)) =
      quotientExponent m e n f := by
    unfold quotientExponent Format.targetExponent totalExponent Format.minExponent Format.mantissaBits
    norm_num
    omega
  subst h
  rw [← htarget]
  rfl

theorem le_quotient {m n k : ℕ} (hm : 0 < m) (hn : 0 < n) (hk : n.log2 + 53 ≤ m.log2 + k) : 2 ^ 52 ≤ (m <<< k) / n := by
  obtain ⟨hlow, -⟩ := (Nat.log2_eq_iff hm.ne').1 rfl
  obtain ⟨-, hhigh⟩ := (Nat.log2_eq_iff hn.ne').1 rfl
  rw [Nat.le_div_iff_mul_le hn, Nat.shiftLeft_eq]
  calc 2 ^ 52 * n ≤ 2 ^ 52 * 2 ^ (n.log2 + 1) := Nat.mul_le_mul_left _ hhigh.le
    _ = 2 ^ (n.log2 + 53) := by rw [← pow_add]; congr 1; ring
    _ ≤ 2 ^ (m.log2 + k) := Nat.pow_le_pow_right (by norm_num) hk
    _ = 2 ^ m.log2 * 2 ^ k := pow_add _ _ _
    _ ≤ m * 2 ^ k := Nat.mul_le_mul_right _ hlow

theorem rounds_div_finite (s t : Sign) {m n : ℕ} (e f : ℤ) (hm : 0 < m) (hn : 0 < n) :
    Rounds (signed s (m * 2 ^ e) / signed t (n * 2 ^ f))
      (UnpackedFloat.div .binary64 (.finite s m e hm) (.finite t n f hn)) := by
  set k := (e - f - quotientExponent m e n f).toNat with hk
  have hexponent : quotientExponent m e n f = e - f - k := by
    have hle : quotientExponent m e n f ≤ e - f := min_le_left _ _
    omega
  have hnq : (0 : ℚ) < n := by exact_mod_cast hn
  have hsplit : ((m <<< k / n : ℕ) : ℚ) + ((m <<< k % n : ℕ) : ℚ) / n = (m <<< k : ℕ) / n := by
    have hdivision : ((m <<< k : ℕ) : ℚ) = n * (m <<< k / n : ℕ) + (m <<< k % n : ℕ) := by
      exact_mod_cast (Nat.div_add_mod (m <<< k) n).symm
    rw [hdivision]
    field_simp
  have hvalue : signed s (m * 2 ^ e) / signed t (n * 2 ^ f) =
      signed (s / t) ((((m <<< k / n : ℕ) : ℚ) + ((m <<< k % n : ℕ) : ℚ) / n) * 2 ^ quotientExponent m e n f) := by
    rw [signed_div_signed, hsplit, hexponent, div_mul_eq_mul_div, shiftLeft_value, zpow_sub₀ (by norm_num)]
    congr 1
    have := two_zpow_pos f
    field_simp
  have hrounds := rounds_roundWithAccuracy (s / t) (locates_accuracyOfFraction (m <<< k / n) (Nat.mod_lt (m <<< k) hn))
    (e := quotientExponent m e n f) ?_
  · rw [hvalue]
    show Rounds _ (roundWithAccuracy .binary64 (s / t) (divCore .binary64 m e n f).1 (divCore .binary64 m e n f).2.1
      (divCore .binary64 m e n f).2.2)
    rw [divCore_eq m e n f hk.symm]
    exact hrounds
  · -- either the exponent is the least one, or the quotient has 53 bits
    by_cases hmin : quotientExponent m e n f ≤ -1074
    · omega
    · have hbits : n.log2 + 53 ≤ m.log2 + k := by
        unfold quotientExponent at hmin hk
        omega
      have hlog : 52 ≤ (m <<< k / n).log2 := by
        have hquotient := le_quotient hm hn hbits
        exact (Nat.le_log2 (by omega)).2 hquotient
      omega

theorem rounds_div {u v : UnpackedFloat} (hu : u.isFinite = true) (hv : v.isFinite = true)
    (hzero : unpackedValue v ≠ 0) :
    Rounds (unpackedValue u / unpackedValue v) (u.div .binary64 v) := by
  rcases isFinite_iff.1 hv with ⟨t, rfl⟩ | ⟨t, n, f, hn, rfl⟩
  · exact absurd rfl hzero
  · rcases isFinite_iff.1 hu with ⟨s, rfl⟩ | ⟨s, m, e, hm, rfl⟩
    · rw [show unpackedValue (.zero s) = 0 from rfl, zero_div]
      exact rounds_zero _
    · exact rounds_div_finite s t e f hm hn

/-! ## Operations on words -/

/-- A word that is `q` rounded: its value is the nearest number, unless that is too large. -/
inductive Rounded (q : ℚ) (x : Float) : Prop
  | finite (hfinite : x.isFinite = true) (hvalue : value x = nearest q)
  | above (h : 2 ^ 1024 ≤ nearest q) (hx : x.toModel.unpack = .infinity .positive)
  | below (h : nearest q ≤ -2 ^ 1024) (hx : x.toModel.unpack = .infinity .negative)

/-- **Packing a rounded number.** -/
theorem Rounds.pack {q : ℚ} {u : UnpackedFloat} (h : Rounds q u) : Rounded q (.ofModel (Float.Model.pack u)) := by
  rcases isFinite_iff.1 h.finite with ⟨s, rfl⟩ | ⟨s, m, e, hm, rfl⟩
  · refine .finite ?_ ?_
    · cases s <;> rfl
    · rw [← h.value_eq]
      cases s <;> rfl
  · by_cases he : e ≤ 971
    · have hunpack := unpack_pack_of_isPlaced s hm h.canonical he
      refine .finite ?_ ?_
      · show (Float.Model.pack _).unpack.isFinite = true
        rw [hunpack]
        rfl
      · show unpackedValue (Float.Model.pack _).unpack = _
        rw [hunpack, h.value_eq]
    · have hunpack := unpack_pack_of_large s hm (not_le.1 he)
      have hlarge := le_placed_value h.canonical (not_le.1 he)
      have hvalue := h.value_eq
      cases s with
      | positive => exact .above (hvalue ▸ hlarge) hunpack
      | negative => exact .below (hvalue ▸ neg_le_neg hlarge) hunpack

section Words

variable {x y : Float} (hx : x.isFinite = true) (hy : y.isFinite = true)
include hx hy

theorem rounded_add : Rounded (value x + value y) (x + y) :=
  (rounds_add hx hy (isCanonical_unpack _) (isCanonical_unpack _)).pack

theorem rounded_sub : Rounded (value x - value y) (x - y) :=
  (rounds_sub hx hy (isCanonical_unpack _) (isCanonical_unpack _)).pack

theorem rounded_mul : Rounded (value x * value y) (x * y) :=
  (rounds_mul hx hy (isCanonical_unpack _) (isCanonical_unpack _)).pack

theorem rounded_div (hzero : value y ≠ 0) : Rounded (value x / value y) (x / y) := (rounds_div hx hy hzero).pack

end Words

theorem nearest_value (x : Float) : nearest (value x) = value x := by
  by_cases hx : x.isFinite = true
  · exact ((isCanonical_unpack x.toModel).rounds_self hx).value_eq.symm
  · have hzero : value x = 0 := by
      unfold value
      cases hu : x.toModel.unpack with
      | zero s | finite s m e hm => exact absurd (congrArg UnpackedFloat.isFinite hu) hx
      | infinity s | notANumber => rfl
    rw [hzero, nearest_zero]

/-- A rounded number that is not too large. -/
theorem Rounded.of_abs_lt {q : ℚ} {x : Float} (h : Rounded q x) (hlt : |nearest q| < 2 ^ 1024) :
    x.isFinite = true ∧ value x = nearest q := by
  rw [abs_lt] at hlt
  cases h with
  | finite hfinite hvalue => exact ⟨hfinite, hvalue⟩
  | above hle _ => exact absurd hlt.2 hle.not_gt
  | below hle _ => exact absurd hlt.1 hle.not_gt

/-- Whole numbers below `2^53` are exact. -/
theorem isFinite_whole {n : ℕ} (hn : n < 2 ^ 53) :
    (Float.ofModel (pack (UnpackedFloat.normalize .binary64 n 0 .positive))).isFinite = true ∧
      value (.ofModel (pack (UnpackedFloat.normalize .binary64 n 0 .positive))) = n := by
  have hrounded := (rounds_normalize n 0 .positive).pack
  have hfixed := nearest_of_places (n := n) (e := 0) (by rw [Nat.abs_cast]; exact_mod_cast hn) (by norm_num)
  rw [zpow_zero, mul_one, Int.cast_natCast] at hrounded hfixed
  have hlt : |nearest (n : ℚ)| < 2 ^ 1024 := by
    rw [hfixed, Nat.abs_cast]
    have hcast : (n : ℚ) < 2 ^ 53 := by exact_mod_cast hn
    exact hcast.trans (pow_lt_pow_right₀ (by norm_num) (by norm_num))
  obtain ⟨hfinite, hvalue⟩ := hrounded.of_abs_lt hlt
  exact ⟨hfinite, hvalue.trans hfixed⟩

theorem isFinite_ofWord (n : UInt32) : n.toFloat.isFinite = true ∧ value n.toFloat = n.toNat :=
  isFinite_whole (n.toNat_lt.trans (by norm_num))

end Orbit.Binary64
