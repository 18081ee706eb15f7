import Orbit.Decimal.Layout
import Orbit.Proofs.Binary64.Words
import Orbit.Proofs.Decimal.Reading
import Orbit.Proofs.Decimal.Rounding
import Orbit.Proofs.Decimal.Shortest

/-!
# Written numbers are read back

The text of a number has the digits of its shortest decimal, with a point, zeros or an exponent that do not change the
value of the decimal. The nearest double to that value is the number itself, and reading a text finds the nearest
double.

* `Layout.Denotes cs d` : `cs` is spelled with digits, a point and an exponent, and its value is that of `d`;
* `Layout.denotes_decimal` : both notations of a decimal denote it;
* `Binary.unpack_eq_ofBits` : the mantissa and the exponent that are written are those of the number;
* `Layout.real?_text` : the text of a number is read as that number, with its sign.
-/

namespace Orbit

namespace Numeral

/-! ## Texts of decimals -/

theorem value_toDigits (n : ℕ) : value (Nat.toDigits 10 n) = n := by
  rw [value, value_eq_ofDigitChars, Nat.ofDigitChars_ten_toDigits]

theorem value_zeros_append (k : ℕ) (cs : List Char) : value (List.replicate k '0' ++ cs) = value cs := by
  rw [value, value_eq_ofDigitChars, Nat.ofDigitChars_append, Nat.ofDigitChars_replicate_zero, Nat.mul_zero, value,
    value_eq_ofDigitChars]

theorem value_append_zeros (cs : List Char) (k : ℕ) : value (cs ++ List.replicate k '0') = 10 ^ k * value cs := by
  rw [value, value_eq_ofDigitChars, Nat.ofDigitChars_append, Nat.ofDigitChars_replicate_zero, value,
    value_eq_ofDigitChars]

theorem sign_eq_of_head {cs : List Char} (h : ∀ c ∈ cs.head?, c ≠ '-' ∧ c ≠ '+') : sign cs = (false, cs) := by
  unfold sign
  split
  · exact absurd rfl (h '-' rfl).1
  · exact absurd rfl (h '+' rfl).2
  · rfl

theorem ne_sign_of_isDigit {c : Char} (h : c.isDigit = true) : c ≠ '-' ∧ c ≠ '+' := by
  constructor <;> rintro rfl <;> cases h

theorem isDigit_toDigits {n : ℕ} : ∀ c ∈ Nat.toDigits 10 n, c.isDigit = true :=
  fun _ hc => Nat.isDigit_of_mem_toDigits (by decide) (by decide) hc

theorem exponent?_toString (n : ℤ) : exponent? ('e' :: (toString n).toList) = some n := by
  cases n with
  | ofNat m =>
    have htext : (toString (Int.ofNat m)).toList = Nat.toDigits 10 m := Nat.toList_repr
    have hsign : sign (Nat.toDigits 10 m) = (false, Nat.toDigits 10 m) :=
      sign_eq_of_head fun c hc => ne_sign_of_isDigit (isDigit_toDigits c (List.mem_of_mem_head? hc))
    rw [htext]
    simp only [exponent?, hsign, natural?_toDigits]
    rfl
  | negSucc m =>
    have htext : (toString (Int.negSucc m)).toList = '-' :: Nat.toDigits 10 (m + 1) := by
      show ("-" ++ (m + 1).repr).toList = _
      rw [String.toList_append, Nat.toList_repr]
      rfl
    rw [htext]
    simp only [exponent?, sign, natural?_toDigits]
    rfl

theorem not_isAlpha_of_isDigit {c : Char} (h : c.isDigit = true) : ¬c.isAlpha = true := by
  simp only [Char.isDigit_iff_toNat, isAlpha_iff, isUpper_iff_toNat, isLower_iff_toNat, Char.reduceToNat] at h ⊢
  omega

theorem Spells.magnitude?_eq {cs whole fraction : List Char} {power : ℤ} (h : Spells cs whole fraction power)
    (hwhole : whole ≠ []) : magnitude? cs = some (round (value (whole ++ fraction)) (power - fraction.length)) := by
  -- a text that begins with a digit is not the name of a number
  have hname (name : String) (halpha : name.toList.all Char.isAlpha = true) :
      (Text.lowercase (String.ofList cs) == name) = false := by
    obtain ⟨c, rest, rfl⟩ := List.exists_cons_of_ne_nil hwhole
    have hdigit : c.isDigit = true := h.digits c (by simp)
    have hmem : c ∈ cs := by
      obtain ⟨tail, -, ⟨rfl, -⟩ | rfl⟩ := h.parts <;> simp
    rw [beq_eq_false_iff_ne]
    exact fun heq => not_isAlpha_of_isDigit hdigit (isAlpha_of_lowercase heq (List.all_eq_true.1 halpha) c hmem)
  unfold magnitude?
  dsimp only
  rw [hname "inf" (by decide), hname "infinity" (by decide), hname "nan" (by decide),
    scientific?_eq_some_iff.2 ⟨_, _, _, h, rfl⟩]
  rfl

end Numeral

namespace Layout

open Numeral

/-- Notations in which nothing or a point and a zero follow whole numbers. -/
def IsReadable (layout : Layout) : Prop := layout.whole = "" ∨ layout.whole = ".0"

variable {layout : Layout} (hlayout : layout.IsReadable) (d : Decimal)

/-- The text of digits with a point is a decimal of the same value. -/
def Denotes (cs : List Char) (d : Decimal) : Prop :=
  ∃ whole fraction power, Spells cs whole fraction power ∧ whole ≠ [] ∧
    (value (whole ++ fraction) : ℚ) * 10 ^ (power - fraction.length) = d.value

theorem denotes_withExponent :
    Denotes (withExponent (Nat.toDigits 10 d.digits) (d.exponent + (Nat.toDigits 10 d.digits).length)).toList d := by
  set ds := Nat.toDigits 10 d.digits with hds
  have hne : ds ≠ [] := Nat.toDigits_ne_nil
  have hlength : 0 < ds.length := List.length_pos_iff.2 hne
  refine ⟨ds.take 1, ds.drop 1, d.exponent + ds.length - 1, ⟨?_, ?_, _, exponent?_toString _, ?_⟩, ?_, ?_⟩
  · rw [List.take_append_drop]
    exact isDigit_toDigits
  · rwa [List.take_append_drop]
  · unfold withExponent
    by_cases hfraction : ds.drop 1 = []
    · exact Or.inl ⟨by simp [hfraction], hfraction⟩
    · refine Or.inr ?_
      dsimp only
      rw [if_neg (by rwa [List.isEmpty_iff])]
      simp
  · exact List.ne_nil_of_length_pos (by rw [List.length_take]; omega)
  · rw [List.take_append_drop, hds, value_toDigits, ← hds, List.length_drop, Decimal.value]
    congr 2
    omega

variable {d} in
theorem denotes_of_point {cs : List Char} (whole fraction : List Char) (hcs : cs = whole ++ '.' :: fraction)
    (hdigits : ∀ c ∈ whole ++ fraction, c.isDigit = true) (hwhole : whole ≠ [])
    (hvalue : (value (whole ++ fraction) : ℚ) = d.digits * 10 ^ (d.exponent + fraction.length)) : Denotes cs d := by
  refine ⟨whole, fraction, 0, ⟨hdigits, by simp [hwhole], [], rfl, Or.inr (by rw [hcs, List.append_nil])⟩, hwhole, ?_⟩
  rw [hvalue, mul_assoc, ← zpow_add₀ (by norm_num), Decimal.value]
  congr 2
  omega

theorem isDigit_zeros (k : ℕ) : ∀ c ∈ List.replicate k '0', c.isDigit = true := by
  intro c hc
  rw [List.eq_of_mem_replicate hc]
  rfl

include hlayout in
theorem denotes_trailing_zeros {k : ℕ} (hk : d.exponent = k) :
    Denotes (String.ofList (Nat.toDigits 10 d.digits ++ List.replicate k '0') ++ layout.whole).toList d := by
  set whole := Nat.toDigits 10 d.digits ++ List.replicate k '0'
  have hdigits : ∀ c ∈ whole, c.isDigit = true := List.forall_mem_append.2 ⟨isDigit_toDigits, isDigit_zeros k⟩
  have hwhole : whole ≠ [] := List.append_ne_nil_of_left_ne_nil Nat.toDigits_ne_nil _
  have hvalue : (value whole : ℚ) = d.digits * 10 ^ d.exponent := by
    rw [value_append_zeros, value_toDigits, Nat.cast_mul, Nat.cast_pow, Nat.cast_ofNat, hk, zpow_natCast, mul_comm]
  rw [String.toList_append, String.toList_ofList]
  rcases hlayout with hnone | hpoint
  · refine ⟨whole, [], 0, ⟨?_, by rwa [List.append_nil], [], rfl, Or.inl ⟨by rw [hnone]; rfl, rfl⟩⟩, hwhole, ?_⟩
    · rwa [List.append_nil]
    · rw [List.append_nil, hvalue, List.length_nil, Nat.cast_zero, sub_zero, zpow_zero, mul_one, Decimal.value]
  · refine denotes_of_point whole ['0'] (by rw [hpoint]; rfl)
      (List.forall_mem_append.2 ⟨hdigits, isDigit_zeros 1⟩) hwhole ?_
    have hzero : value (whole ++ ['0']) = 10 * value whole := value_append_zeros whole 1
    rw [hzero, Nat.cast_mul, hvalue, List.length_singleton, zpow_add₀ (by norm_num), Nat.cast_one, zpow_one,
      Nat.cast_ofNat]
    ring

include hlayout in
theorem denotes_positional :
    Denotes (layout.positional (Nat.toDigits 10 d.digits)
      (d.exponent + (Nat.toDigits 10 d.digits).length)).toList d := by
  set ds := Nat.toDigits 10 d.digits with hds
  have hne : ds ≠ [] := Nat.toDigits_ne_nil
  have hlength : 0 < ds.length := List.length_pos_iff.2 hne
  have hvalue : value ds = d.digits := value_toDigits d.digits
  unfold positional
  split_ifs with hpoint
  · -- a point in front of all digits
    set zeros := List.replicate (-(d.exponent + ds.length)).toNat '0'
    refine denotes_of_point ['0'] (zeros ++ ds) (by simp) ?_ (by simp) ?_
    · exact List.forall_mem_append.2 ⟨isDigit_zeros 1, List.forall_mem_append.2 ⟨isDigit_zeros _, isDigit_toDigits⟩⟩
    · have hexponent : d.exponent + (zeros ++ ds).length = 0 := by
        rw [List.length_append, List.length_replicate]
        omega
      have hzeros : value (['0'] ++ (zeros ++ ds)) = value ds :=
        (value_zeros_append 1 (zeros ++ ds)).trans (value_zeros_append _ ds)
      rw [hexponent, zpow_zero, mul_one, hzeros, hvalue]
  · dsimp only
    split_ifs with hplaces
    · exact denotes_trailing_zeros hlayout d (by omega)
    · -- a point between the digits
      refine denotes_of_point (ds.take (d.exponent + ds.length).toNat) (ds.drop (d.exponent + ds.length).toNat)
        (by simp) ?_
        (List.ne_nil_of_length_pos (by rw [List.length_take]; omega)) ?_
      · rw [List.take_append_drop]
        exact isDigit_toDigits
      · have hexponent : d.exponent + (ds.drop (d.exponent + ds.length).toNat).length = 0 := by
          rw [List.length_drop]
          omega
        rw [hexponent, zpow_zero, mul_one, List.take_append_drop, hvalue]

include hlayout in
/-- The text of a decimal is a text of its value. -/
theorem denotes_decimal : Denotes (layout.decimal d).toList d := by
  unfold decimal
  dsimp only
  split_ifs
  · exact denotes_withExponent d
  · exact denotes_positional hlayout d

end Layout

namespace Binary

open Float.Model UnpackedFloat Binary64

/-! ## Numbers by their bits -/

theorem ofFields_eq_ofBits (s : Sign) {e : BitVec 11} {m : BitVec 52} {size : UInt64}
    (he : size.toNat / 2 ^ 52 % 2 ^ 11 = e.toNat)
    (hm : size.toNat % 2 ^ 52 = m.toNat) (hmax : e ≠ -1#11) (hzero : e = 0#11 → m ≠ 0#52) :
    (ofBits size).IsNumber ∧ ∃ hpos, ofFields s e m = .finite s (ofBits size).mantissa (ofBits size).exponent hpos := by
  have hmlt := m.isLt
  norm_num at he hm
  unfold ofBits ofFields
  rw [he, hm, if_neg hmax]
  dsimp only
  by_cases hsubnormal : e = 0#11
  · have hm0 := hzero hsubnormal
    have hmpos := toNat_pos_of_ne hm0
    rw [if_pos hsubnormal, dif_neg hm0, hsubnormal]
    refine ⟨⟨hmpos, ⟨by norm_num; omega, le_rfl, Or.inl rfl⟩, iff_of_false (by simp) ?_⟩, hmpos, rfl⟩
    rintro ⟨hmantissa, -⟩
    norm_num at hmantissa
    omega
  · have hepos : 0 < e.toNat := Nat.pos_of_ne_zero fun h => hsubnormal (BitVec.eq_of_toNat_eq h)
    rw [if_neg hsubnormal, if_neg hepos.ne']
    refine ⟨⟨by dsimp only; omega, ⟨by dsimp only; omega, by dsimp only; omega, Or.inr (by dsimp only; omega)⟩, ?_⟩,
      by dsimp only; omega, ?_⟩
    · simp only [Bool.and_eq_true, beq_iff_eq, decide_eq_true_eq]
      omega
    · exact finite_congr (toNat_implicit m) rfl

theorem unpack_eq_ofBits {x : Float} (hnan : x.isNaN = false)
    (hinf : x.toBits % 0x8000000000000000 ≠ 0x7FF0000000000000)
    (hzero : x.toBits % 0x8000000000000000 ≠ 0) :
    (ofBits (x.toBits % 0x8000000000000000)).IsNumber ∧ ∃ hpos, x.toModel.unpack =
      .finite (if x.toBits ≥ 0x8000000000000000 then .negative else .positive)
        (ofBits (x.toBits % 0x8000000000000000)).mantissa (ofBits (x.toBits % 0x8000000000000000)).exponent hpos := by
  set b := x.toModel.toBits.toBitVec with hb
  have hbits : x.toBits.toNat = b.toNat := rfl
  have hsize : (x.toBits % 0x8000000000000000).toNat = b.toNat % 2 ^ 63 := by
    rw [UInt64.toNat_mod, hbits]
    rfl
  have hunpack : x.toModel.unpack = ofFields (Sign.ofBitVec (@unpackSign .binary64 b)) (@unpackExponent .binary64 b)
    (@unpackMantissa .binary64 b) := unpack_eq_ofFields b
  have hexponent := toNat_exponent b
  have hmantissa := toNat_mantissa b
  have hsign : Sign.ofBitVec (@unpackSign .binary64 b) =
      if x.toBits ≥ 0x8000000000000000 then .negative else .positive :=
    sign_eq b
  rw [hunpack, hsign]
  refine ofFields_eq_ofBits _ ?_ ?_ ?_ ?_
  · rw [hsize, hexponent]
    omega
  · rw [hsize, hmantissa]
    omega
  · -- the largest exponent is that of the infinities and of what is no number
    intro hmax
    by_cases hm : @unpackMantissa .binary64 b = 0#52
    · rw [hmax] at hexponent
      rw [hm] at hmantissa
      apply hinf
      rw [← UInt64.toNat_inj, hsize]
      simp at hexponent hmantissa ⊢
      omega
    · have hnot : x.toModel.unpack = .notANumber := by
        rw [hunpack, ofFields, if_pos hmax, if_neg hm]
      exact absurd ((congrArg UnpackedFloat.isNaN hnot).symm.trans hnan) (by decide)
  · intro hmin hm
    rw [hmin] at hexponent
    rw [hm] at hmantissa
    apply hzero
    rw [← UInt64.toNat_inj, hsize]
    simp at hexponent hmantissa ⊢
    omega

end Binary

namespace Layout

open Numeral Binary64 Float.Model

/-! ## Texts of numbers -/

theorem real?_sign (p : Prop) [Decidable p] {body : String} (hbody : sign body.toList = (false, body.toList)) :
    real? ((if p then "-" else "") ++ body) = (magnitude? body.toList).map fun y => if p then -y else y := by
  unfold real?
  by_cases hp : p
  · simp only [hp, if_true, String.toList_append]
    rfl
  · simp only [hp, if_false, String.toList_append]
    rw [show "".toList ++ body.toList = body.toList from rfl, hbody]
    rfl

variable {layout : Layout} (hlayout : layout.IsReadable)
include hlayout

theorem magnitude?_decimal {b : Binary} (hb : b.IsNumber) (hlt : b.value < 2 ^ 1024) :
    ∃ y, magnitude? (layout.decimal b.shortest).toList = some y ∧
      y.toModel.unpack = .finite .positive b.mantissa b.exponent hb.pos := by
  obtain ⟨hpos, hnearest⟩ := Binary.shortest_spec hb
  obtain ⟨whole, fraction, power, hspells, hwhole, hvalue⟩ := denotes_decimal hlayout b.shortest
  refine ⟨_, hspells.magnitude?_eq hwhole, ?_⟩
  have hdigits : 0 < value (whole ++ fraction) := by
    refine Nat.pos_of_ne_zero fun hzero => ?_
    have hpositive : 0 < b.shortest.value := mul_pos (by exact_mod_cast hpos) (zpow_pos (by norm_num) _)
    rw [← hvalue, hzero, Nat.cast_zero, zero_mul] at hpositive
    exact hpositive.false
  have hrounded := rounded_round hdigits (power - fraction.length)
  rw [hvalue] at hrounded
  have hsmall : |nearest b.shortest.value| < 2 ^ 1024 := by
    rwa [hnearest, abs_of_pos (show 0 < b.value from placed_value_pos b.exponent hb.pos)]
  obtain ⟨hfinite, hread⟩ := hrounded.of_abs_lt hsmall
  exact unpack_eq_of_value hfinite hb.pos hb.placed (hread.trans hnearest)

theorem sign_decimal (d : Decimal) : sign (layout.decimal d).toList = (false, (layout.decimal d).toList) := by
  obtain ⟨whole, fraction, power, hspells, hwhole, -⟩ := denotes_decimal hlayout d
  obtain ⟨c, rest, rfl⟩ := List.exists_cons_of_ne_nil hwhole
  have hhead : (layout.decimal d).toList.head? = some c := by
    obtain ⟨tail, -, ⟨hcs, -⟩ | hcs⟩ := hspells.parts <;> rw [hcs] <;> rfl
  refine sign_eq_of_head fun c' hc' => ?_
  rw [hhead, Option.mem_some] at hc'
  exact hc' ▸ ne_sign_of_isDigit (hspells.digits c (by simp))

omit hlayout in
/-- A number with the bits of `y` behind its sign. -/
theorem eq_ite_neg {x y : Float} (hsize : x.toBits % 0x8000000000000000 = y.toBits)
    (hneg : (-y).toBits = y.toBits + 0x8000000000000000) : (if x.toBits ≥ 0x8000000000000000 then -y else y) = x := by
  have hnat := congrArg UInt64.toNat hsize
  have hlt := x.toBits.toNat_lt
  rw [UInt64.toNat_mod] at hnat
  split_ifs with hsign
  · have hsign' : 0x8000000000000000 ≤ x.toBits.toNat := hsign
    apply eq_of_toBits_eq
    rw [hneg, ← UInt64.toNat_inj, UInt64.toNat_add, ← hnat]
    simp only [UInt64.reduceToNat]
    omega
  · have hsign' : x.toBits.toNat < 0x8000000000000000 := Nat.lt_of_not_le hsign
    apply eq_of_toBits_eq
    rw [← UInt64.toNat_inj, ← hnat]
    exact Nat.mod_eq_of_lt hsign'

theorem real?_shortest {x : Float} (hx : x.isNaN = false) (hinf : x.toBits % 0x8000000000000000 ≠ 0x7FF0000000000000)
    (hzero : x.toBits % 0x8000000000000000 ≠ 0) :
    real? ((if x.toBits ≥ 0x8000000000000000 then "-" else "") ++
      layout.decimal (Binary.ofBits (x.toBits % 0x8000000000000000)).shortest) = some x := by
  obtain ⟨hnumber, hpos, hunpack⟩ := Binary.unpack_eq_ofBits hx hinf hzero
  set b := Binary.ofBits (x.toBits % 0x8000000000000000)
  have hlt : b.value < 2 ^ 1024 := by
    have hsize := abs_value_lt x
    unfold Binary64.value at hsize
    rw [hunpack, unpackedValue_finite, abs_signed] at hsize
    exact (le_abs_self _).trans_lt hsize
  obtain ⟨y, hread, hy⟩ := magnitude?_decimal hlayout hnumber hlt
  rw [real?_sign _ (sign_decimal hlayout _), hread, Option.map_some]
  refine congrArg some (eq_of_unpack_eq ?_ ?_).symm
  · rw [hunpack]
    by_cases hsign : x.toBits ≥ 0x8000000000000000
    · rw [if_pos hsign, if_pos hsign, unpack_neg, hy]
      rfl
    · rw [if_neg hsign, if_neg hsign, hy]
  · rw [hunpack]
    exact UnpackedFloat.noConfusion

/-- **Numbers are read back as they are written.** -/
theorem real?_text {x : Float} (hx : x.isNaN = false) : real? (layout.text x) = some x := by
  unfold text
  rw [hx, if_neg Bool.false_ne_true]
  dsimp only
  by_cases hinf : x.toBits % 0x8000000000000000 = 0x7FF0000000000000
  · have hread : magnitude? "inf".toList = some infinity := by decide +kernel
    rw [if_pos (beq_iff_eq.2 hinf), real?_sign _ rfl, hread, Option.map_some, eq_ite_neg hinf (by decide +kernel)]
  · rw [if_neg (by rwa [beq_iff_eq])]
    by_cases hzero : x.toBits % 0x8000000000000000 = 0
    · have hread : magnitude? ("0" ++ layout.whole).toList = some 0.0 ∧
          sign ("0" ++ layout.whole).toList = (false, ("0" ++ layout.whole).toList) := by
        rcases hlayout with hwhole | hwhole <;> rw [hwhole] <;> decide +kernel
      rw [if_pos (beq_iff_eq.2 hzero), String.append_assoc, real?_sign _ hread.2, hread.1, Option.map_some,
        eq_ite_neg hzero (by decide +kernel)]
    · rw [if_neg (by rwa [beq_iff_eq])]
      exact real?_shortest hlayout hx hinf hzero

end Layout

end Orbit
