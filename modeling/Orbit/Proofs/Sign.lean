import Orbit.Proofs.Commutative

/-!
# Scalars and signs

What a reflection at the real axis asks of the arithmetic: a negative factor makes the product negative, and the sum of
negatives is the negative of the sum, up to a relation that the operations and the escape radius do not see through.

* `SignLaws same` : the laws, up to the equivalence `same`;
* `signLaws_rat` : rationals obey them with equality;
* `SameNumber`, `signLaws_binary64` : binary64 numbers obey them up to the sign of zero. Negation changes nothing but
  the sign of a word (`unpack_neg`), and rounding to nearest does not look at the sign (`mul_neg_left`,
  `add_neg_neg`).
-/

namespace Orbit

/-- Scalars in which signs can be moved out of products and sums, up to an equivalence that the operations and the test
against four keep. -/
structure SignLaws {α : Type} [Scalar α] [Neg α] (same : α → α → Prop) : Prop where
  equivalence : Equivalence same
  add : ∀ {u u' v v' : α}, same u u' → same v v' → same (u + v) (u' + v')
  sub : ∀ {u u' v v' : α}, same u u' → same v v' → same (u - v) (u' - v')
  mul : ∀ {u u' v v' : α}, same u u' → same v v' → same (u * v) (u' * v')
  neg : ∀ {u u' : α}, same u u' → same (-u) (-u')
  less_four : ∀ {u u' : α}, same u u' → Scalar.less u Scalar.four = Scalar.less u' Scalar.four
  zero_neg : same Scalar.zero (-Scalar.zero)
  neg_mul : ∀ u v : α, same (-u * v) (-(u * v))
  mul_neg : ∀ u v : α, same (u * -v) (-(u * v))
  neg_neg : ∀ u : α, same (- -u) u
  neg_add : ∀ u v : α, same (-u + -v) (-(u + v))

/-! ## Rationals -/

instance : Scalar Rat where
  ofWord n := n.toNat
  less x y := decide (x < y)
  isFinite _ := true

theorem signLaws_rat : SignLaws (α := Rat) Eq where
  equivalence := ⟨fun _ => rfl, Eq.symm, Eq.trans⟩
  add := by rintro u _ v _ rfl rfl; rfl
  sub := by rintro u _ v _ rfl rfl; rfl
  mul := by rintro u _ v _ rfl rfl; rfl
  neg := by rintro u _ rfl; rfl
  less_four := by rintro u _ rfl; rfl
  zero_neg := by decide
  neg_mul := Rat.neg_mul
  mul_neg := Rat.mul_neg
  neg_neg := Rat.neg_neg
  neg_add _ _ := Rat.neg_add.symm

/-! ## Words and signs -/

section Binary64
open Float.Model UnpackedFloat

theorem sign_ofBitVec_toBitVec (s : Sign) : Sign.ofBitVec s.toBitVec = s := by cases s <;> rfl

theorem unpackSign_packComponents {f : Float.Model.Format} {s : Sign} {e m} :
    unpackSign (packComponents f s e m) = s.toBitVec := by
  ext i hi
  obtain rfl : i = 0 := by omega
  unfold unpackSign packComponents
  simp [BitVec.getLsbD_append, BitVec.getElem_append]

-- the bit in front of a mantissa that is not stored
theorem toNat_implicit (m : BitVec 52) : (1#1 ++ m).toNat = 4503599627370496 + m.toNat := by
  rw [BitVec.toNat_append, ← Nat.shiftLeft_add_eq_or_of_lt m.isLt]
  rfl

theorem toNat_implicit_pos (m : BitVec 52) : 0 < (1#1 ++ m).toNat := by
  rw [toNat_implicit]
  omega

theorem toNat_pos_of_ne {m : BitVec 52} (h : m ≠ 0#52) : 0 < m.toNat :=
  Nat.pos_of_ne_zero fun hzero => h (BitVec.eq_of_toNat_eq hzero)

def ofFields (s : Sign) (e : BitVec 11) (m : BitVec 52) : UnpackedFloat :=
  if e = -1#11 then
    if m = 0#52 then .infinity s else .notANumber
  else if e = 0#11 then
    if h : m = 0#52 then .zero s else .finite s m.toNat (e.toNat - 1075 + 1) (toNat_pos_of_ne h)
  else .finite s (1#1 ++ m).toNat (e.toNat - 1075) (toNat_implicit_pos m)

theorem unpack_eq_ofFields (b : BitVec 64) : UnpackedFloat.unpack .binary64 b =
    ofFields (Sign.ofBitVec (@unpackSign .binary64 b)) (@unpackExponent .binary64 b) (@unpackMantissa .binary64 b) :=
  rfl

theorem unpack_packComponents (s : Sign) (e : BitVec 11) (m : BitVec 52) :
    UnpackedFloat.unpack .binary64 (packComponents .binary64 s e m) = ofFields s e m := by
  rw [unpack_eq_ofFields, unpackExponent_packComponents, unpackMantissa_packComponents, unpackSign_packComponents,
    sign_ofBitVec_toBitVec]

theorem ofFields_neg (s : Sign) (e : BitVec 11) (m : BitVec 52) : ofFields (-s) e m = (ofFields s e m).neg := by
  unfold ofFields
  rw [apply_ite UnpackedFloat.neg, apply_ite UnpackedFloat.neg, apply_ite UnpackedFloat.neg,
    apply_dite UnpackedFloat.neg]
  rfl

theorem unpack_packComponents_neg (s : Sign) (e : BitVec 11) (m : BitVec 52) :
    UnpackedFloat.unpack .binary64 (packComponents .binary64 (-s) e m) =
      (UnpackedFloat.unpack .binary64 (packComponents .binary64 s e m)).neg := by
  rw [unpack_packComponents, unpack_packComponents, ofFields_neg]

/-- Packing looks at the sign only to store it. -/
theorem exists_pack_finite (m : Nat) (e : Int) (hm : 0 < m) :
    ∃ e' m', ∀ s, UnpackedFloat.pack .binary64 (.finite s m e hm) = packComponents .binary64 s e' m' := by
  by_cases hlarge : 2048 ≤ (e + 1023 + 52).toNat + 1
  · exact ⟨_, _, fun s => if_pos hlarge⟩
  · by_cases hnormal : m.log2 + 1 = 53
    · exact ⟨_, _, fun s => (if_neg hlarge).trans (if_pos hnormal)⟩
    · exact ⟨_, _, fun s => (if_neg hlarge).trans (if_neg hnormal)⟩

theorem unpack_pack_neg (x : UnpackedFloat) : (Float.Model.pack x.neg).unpack = (Float.Model.pack x).unpack.neg := by
  show UnpackedFloat.unpack .binary64 (UnpackedFloat.pack .binary64 x.neg) =
    (UnpackedFloat.unpack .binary64 (UnpackedFloat.pack .binary64 x)).neg
  cases x with
  | notANumber => rfl
  | infinity s | zero s => exact unpack_packComponents_neg s _ _
  | finite s m e hm =>
    obtain ⟨e', m', hpack⟩ := exists_pack_finite m e hm
    show UnpackedFloat.unpack .binary64 (UnpackedFloat.pack .binary64 (.finite (-s) m e hm)) = _
    rw [hpack, hpack]
    exact unpack_packComponents_neg s e' m'

/-! ## Words that are packed again -/

theorem pack_subnormal (s : Sign) (m : BitVec 52) (h : 0 < m.toNat) :
    UnpackedFloat.pack .binary64 (.finite s m.toNat (-1074) h) = packComponents .binary64 s 0#11 m := by
  have hlog : ¬m.toNat.log2 + 1 = 53 := by
    have hlt := (Nat.log2_lt (Nat.ne_of_gt h)).2 m.isLt
    omega
  unfold UnpackedFloat.pack
  rw [if_neg (by decide)]
  show (if m.toNat.log2 + 1 = 53 then _ else _) = _
  rw [if_neg hlog, BitVec.ofNat_toNat, BitVec.setWidth_eq]

theorem pack_normal (s : Sign) {e : BitVec 11} (m : BitVec 52) (he : e ≠ -1#11) (h : 0 < (1#1 ++ m).toNat) :
    UnpackedFloat.pack .binary64 (.finite s (1#1 ++ m).toNat (e.toNat - 1075) h) = packComponents .binary64 s e m := by
  have hm := m.isLt
  have hbiased : ((e.toNat : Int) - 1075 + 1023 + 52).toNat = e.toNat := by omega
  have hlog : (1#1 ++ m).toNat.log2 + 1 = 53 := by
    rw [toNat_implicit]
    have hlow := (Nat.le_log2 (n := 4503599627370496 + m.toNat) (k := 52) (by omega)).2 (by omega)
    have hhigh := (Nat.log2_lt (n := 4503599627370496 + m.toNat) (k := 53) (by omega)).2 (by omega)
    omega
  have hlt : ¬2048 ≤ e.toNat + 1 := by
    intro hge
    apply he
    apply BitVec.eq_of_toNat_eq
    have := e.isLt
    show e.toNat = 2047
    omega
  unfold UnpackedFloat.pack
  show (if 2048 ≤ ((e.toNat : Int) - 1075 + 1023 + 52).toNat + 1 then _ else if (1#1 ++ m).toNat.log2 + 1 = 53 then
    packComponents .binary64 s (BitVec.ofNat 11 ((e.toNat : Int) - 1075 + 1023 + 52).toNat)
      (BitVec.ofNat 52 (1#1 ++ m).toNat) else _) = _
  rw [hbiased, if_neg hlt, if_pos hlog, BitVec.ofNat_toNat, BitVec.setWidth_eq]
  congr 1
  apply BitVec.eq_of_toNat_eq
  rw [BitVec.toNat_ofNat, toNat_implicit]
  omega

/-- Whatever fields stand for is packed into these fields again, unless it is no number. -/
theorem pack_ofFields {s : Sign} {e : BitVec 11} {m : BitVec 52} (h : ofFields s e m ≠ .notANumber) :
    UnpackedFloat.pack .binary64 (ofFields s e m) = packComponents .binary64 s e m := by
  unfold ofFields at h ⊢
  by_cases hmax : e = -1#11
  · rw [if_pos hmax] at h ⊢
    by_cases hzero : m = 0#52
    · rw [if_pos hzero, hmax, hzero]
      rfl
    · rw [if_neg hzero] at h
      exact absurd rfl h
  · rw [if_neg hmax]
    by_cases hmin : e = 0#11
    · rw [if_pos hmin]
      by_cases hzero : m = 0#52
      · rw [dif_pos hzero, hmin, hzero]
        rfl
      · rw [dif_neg hzero]
        subst hmin
        exact pack_subnormal s m (toNat_pos_of_ne hzero)
    · rw [if_neg hmin]
      exact pack_normal s m hmax (toNat_implicit_pos m)

theorem unpack_pack_unpack (x : Float.Model) : (Float.Model.pack x.unpack).unpack = x.unpack := by
  obtain ⟨s, e, m, hx⟩ : ∃ s e m, x.unpack = ofFields s e m := ⟨_, _, _, unpack_eq_ofFields x.toBits.toBitVec⟩
  show UnpackedFloat.unpack .binary64 (UnpackedFloat.pack .binary64 x.unpack) = x.unpack
  rw [hx]
  by_cases hnan : ofFields s e m = .notANumber
  · rw [hnan]
    rfl
  · rw [pack_ofFields hnan, unpack_packComponents]

/-- Negation turns the sign and leaves the rest. -/
theorem unpack_neg (x : Float) : (-x).toModel.unpack = x.toModel.unpack.neg := by
  show (Float.Model.pack x.toModel.unpack.neg).unpack = _
  rw [unpack_pack_neg, unpack_pack_unpack]

/-! ## Rounding and signs -/

theorem sign_neg_mul (s t : Sign) : -s * t = -(s * t) := by cases s <;> cases t <;> rfl

theorem sign_neg_neg (s : Sign) : - -s = s := by cases s <;> rfl

theorem sign_neg_apply (s : Sign) (n : Int) : (-s).apply n = -s.apply n := by
  cases s with
  | positive => rfl
  | negative => exact (Int.neg_neg n).symm

theorem unpacked_neg_neg (x : UnpackedFloat) : x.neg.neg = x := by
  cases x with
  | notANumber => rfl
  | infinity s => exact congrArg UnpackedFloat.infinity (sign_neg_neg s)
  | zero s => exact congrArg UnpackedFloat.zero (sign_neg_neg s)
  | finite s m e hm => exact congrArg (UnpackedFloat.finite · m e hm) (sign_neg_neg s)

theorem roundWithAccuracy_neg (f : Float.Model.Format) (s : Sign) (m : Nat) (e : Int) (a : Accuracy) :
    roundWithAccuracy f (-s) m e a = (roundWithAccuracy f s m e a).neg := by
  unfold roundWithAccuracy
  dsimp only
  rw [apply_dite UnpackedFloat.neg]
  rfl

theorem round_neg (f : Float.Model.Format) (s : Sign) (m : Nat) (e : Int) :
    UnpackedFloat.round f (-s) m e = (UnpackedFloat.round f s m e).neg :=
  roundWithAccuracy_neg f s _ _ _

theorem mul_neg_left (f : Float.Model.Format) (x y : UnpackedFloat) : x.neg.mul f y = (x.mul f y).neg := by
  cases x with
  | notANumber => rfl
  | infinity s =>
    cases y with
    | infinity t | finite t n k hn => exact congrArg UnpackedFloat.infinity (sign_neg_mul s t)
    | zero t | notANumber => rfl
  | zero s =>
    cases y with
    | zero t | finite t n k hn => exact congrArg UnpackedFloat.zero (sign_neg_mul s t)
    | infinity t | notANumber => rfl
  | finite s m e hm =>
    cases y with
    | infinity t => exact congrArg UnpackedFloat.infinity (sign_neg_mul s t)
    | zero t => exact congrArg UnpackedFloat.zero (sign_neg_mul s t)
    | finite t n k hn =>
      show roundWithAccuracy f (-s * t) (m * n) (e + k) .exact = _
      rw [sign_neg_mul, roundWithAccuracy_neg]
      rfl
    | notANumber => rfl

/-! ## Numbers without the sign of zero -/

def unsignedZero : UnpackedFloat → UnpackedFloat
  | .zero _ => .zero .positive
  | x => x

theorem normalize_neg (f : Float.Model.Format) (n e : Int) :
    unsignedZero (UnpackedFloat.normalize f (-n) e .positive) =
      unsignedZero (UnpackedFloat.normalize f n e .positive).neg := by
  unfold UnpackedFloat.normalize
  rcases Int.lt_trichotomy n 0 with hneg | rfl | hpos
  · rw [show compare n 0 = .lt from Int.compare_eq_lt.2 hneg,
      show compare (-n) 0 = .gt from Int.compare_eq_gt.2 (by omega)]
    exact congrArg unsignedZero (round_neg f .negative _ e)
  · rfl
  · rw [show compare n 0 = .gt from Int.compare_eq_gt.2 hpos,
      show compare (-n) 0 = .lt from Int.compare_eq_lt.2 (by omega),
      Int.neg_neg]
    exact congrArg unsignedZero (round_neg f .positive _ e)

theorem add_neg_neg (f : Float.Model.Format) (x y : UnpackedFloat) :
    unsignedZero (x.neg.add f y.neg) = unsignedZero (x.add f y).neg := by
  cases x with
  | notANumber => rfl
  | infinity s =>
    cases y with
    | infinity t => cases s <;> cases t <;> rfl
    | _ => rfl
  | zero s =>
    cases y with
    | zero t => cases s <;> cases t <;> rfl
    | _ => rfl
  | finite s m e hm =>
    cases y with
    | finite t n k hn =>
      show unsignedZero (.normalize f ((-s).apply (decreaseExponent m e (min e k)).1 +
        (-t).apply (decreaseExponent n k (min e k)).1) (min e k) .positive) = _
      rw [sign_neg_apply, sign_neg_apply, ← Int.neg_add, normalize_neg]
      rfl
    | _ => rfl

theorem unsignedZero_add (f : Float.Model.Format) (x y : UnpackedFloat) :
    unsignedZero ((unsignedZero x).add f (unsignedZero y)) = unsignedZero (x.add f y) := by
  cases x with
  | zero s =>
    cases y with
    | zero t => cases s <;> cases t <;> rfl
    | _ => rfl
  | _ => cases y <;> rfl

theorem unsignedZero_sub (f : Float.Model.Format) (x y : UnpackedFloat) :
    unsignedZero ((unsignedZero x).sub f (unsignedZero y)) = unsignedZero (x.sub f y) := by
  cases x with
  | zero s =>
    cases y with
    | zero t => cases s <;> cases t <;> rfl
    | _ => rfl
  | _ => cases y <;> rfl

theorem unsignedZero_mul (f : Float.Model.Format) (x y : UnpackedFloat) :
    unsignedZero ((unsignedZero x).mul f (unsignedZero y)) = unsignedZero (x.mul f y) := by
  cases x <;> cases y <;> rfl

theorem unsignedZero_neg (x : UnpackedFloat) : unsignedZero (unsignedZero x).neg = unsignedZero x.neg := by
  cases x <;> rfl

theorem lt_unsignedZero (x y : UnpackedFloat) : (unsignedZero x).lt y = x.lt y := by
  cases x with
  | zero s =>
    cases y with
    | infinity t | finite t n k hn => cases t <;> rfl
    | _ => rfl
  | _ => rfl

theorem float_lt_iff (x y : Float) : x < y ↔ x.toModel.unpack.lt y.toModel.unpack = true := decide_eq_true_iff

theorem unsignedZero_unpack_pack (x : UnpackedFloat) :
    unsignedZero (Float.Model.pack (unsignedZero x)).unpack = unsignedZero (Float.Model.pack x).unpack := by
  cases x with
  | zero s => cases s <;> rfl
  | _ => rfl

/-- The same number, or both zero with any signs. What is no number is the same as itself. -/
def SameNumber (x y : Float) : Prop := unsignedZero x.toModel.unpack = unsignedZero y.toModel.unpack

theorem sameNumber_pack {x y : UnpackedFloat} (h : unsignedZero x = unsignedZero y) :
    SameNumber (.ofModel (Float.Model.pack x)) (.ofModel (Float.Model.pack y)) := by
  show unsignedZero (Float.Model.pack x).unpack = unsignedZero (Float.Model.pack y).unpack
  rw [← unsignedZero_unpack_pack, h, unsignedZero_unpack_pack]

/-- The negative of a result is the same number as the negated result, packed. -/
theorem sameNumber_pack_neg (x : UnpackedFloat) :
    SameNumber (.ofModel (Float.Model.pack x.neg)) (-.ofModel (Float.Model.pack x)) := by
  show unsignedZero (Float.Model.pack x.neg).unpack = unsignedZero (-Float.ofModel (Float.Model.pack x)).toModel.unpack
  rw [unpack_neg, unpack_pack_neg]

theorem sameNumber_neg_mul (u v : Float) : SameNumber (-u * v) (-(u * v)) := by
  have hproduct : -u * v = .ofModel (Float.Model.pack (u.toModel.unpack.mul .binary64 v.toModel.unpack).neg) := by
    show Float.ofModel (Float.Model.pack ((-u).toModel.unpack.mul .binary64 v.toModel.unpack)) = _
    rw [unpack_neg, mul_neg_left]
  rw [hproduct]
  exact sameNumber_pack_neg _

theorem sameNumber_neg_add (u v : Float) : SameNumber (-u + -v) (-(u + v)) := by
  have hsum :
      SameNumber (-u + -v) (.ofModel (Float.Model.pack (u.toModel.unpack.add .binary64 v.toModel.unpack).neg)) := by
    apply sameNumber_pack
    show unsignedZero ((-u).toModel.unpack.add .binary64 (-v).toModel.unpack) = _
    rw [unpack_neg, unpack_neg, add_neg_neg]
  exact hsum.trans (sameNumber_pack_neg _)

theorem signLaws_binary64 : SignLaws SameNumber where
  equivalence := ⟨fun _ => rfl, Eq.symm, Eq.trans⟩
  add hu hv := sameNumber_pack (by rw [← unsignedZero_add, hu, hv, unsignedZero_add])
  sub hu hv := sameNumber_pack (by rw [← unsignedZero_sub, hu, hv, unsignedZero_sub])
  mul hu hv := sameNumber_pack (by rw [← unsignedZero_mul, hu, hv, unsignedZero_mul])
  neg hu := sameNumber_pack (by rw [← unsignedZero_neg, hu, unsignedZero_neg])
  less_four {u u'} hu := by
    apply decide_eq_decide.2
    rw [float_lt_iff, float_lt_iff, ← lt_unsignedZero, hu, lt_unsignedZero]
  zero_neg := by
    show _ = unsignedZero (-Scalar.zero : Float).toModel.unpack
    rw [unpack_neg]
    rfl
  neg_mul := sameNumber_neg_mul
  mul_neg u v := by
    rw [CommutativeScalar.mul_comm u (-v), CommutativeScalar.mul_comm u v]
    exact sameNumber_neg_mul v u
  neg_neg u := by
    show unsignedZero (- -u).toModel.unpack = _
    rw [unpack_neg, unpack_neg, unpacked_neg_neg]
  neg_add := sameNumber_neg_add

end Binary64

end Orbit
