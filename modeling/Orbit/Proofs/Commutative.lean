import Orbit.Scalar

/-!
# Scalars with commutative sums and products

Compiled code adds and multiplies with the operands the other way round than the interpreter does, so the two
agree for scalars whose sum and product do not depend on the order of the operands, and nothing else is asked
of the arithmetic.

* `CommutativeScalar α` : the two laws.
* binary64 numbers obey them: rounding sees the exact sum or product, and there is one value that is no number.
-/

namespace Orbit

/-- Scalars whose sum and product do not depend on the order of the operands. -/
class CommutativeScalar (α : Type) [Scalar α] : Prop where
  add_comm : ∀ x y : α, x + y = y + x
  mul_comm : ∀ x y : α, x * y = y * x

/-! ## Binary64 numbers -/

section Binary64
open Float.Model

theorem sign_mul_comm (s t : UnpackedFloat.Sign) : s * t = t * s := by cases s <;> cases t <;> rfl

theorem unpacked_add_comm (f : Format) (x y : UnpackedFloat) : x.add f y = y.add f x := by
  cases x with
  | notANumber => cases y <;> rfl
  | infinity s =>
    cases y with
    | infinity t => cases s <;> cases t <;> rfl
    | _ => rfl
  | zero s =>
    cases y with
    | zero t => cases s <;> cases t <;> rfl
    | _ => rfl
  | finite s m e hm =>
    cases y with
    | finite t n k hn =>
      -- both mantissas are brought to the smaller exponent before the signed sum
      have hsum (s t : UnpackedFloat.Sign) (m n : Nat) (e k : Int) (hm : 0 < m) (hn : 0 < n) :
          UnpackedFloat.add f (.finite s m e hm) (.finite t n k hn) =
            .normalize f (s.apply (UnpackedFloat.decreaseExponent m e (min e k)).1 +
              t.apply (UnpackedFloat.decreaseExponent n k (min e k)).1) (min e k) .positive := rfl
      rw [hsum, hsum, Int.min_comm, Int.add_comm]
    | _ => rfl

theorem unpacked_mul_comm (f : Format) (x y : UnpackedFloat) : x.mul f y = y.mul f x := by
  cases x with
  | notANumber => cases y <;> rfl
  | infinity s =>
    cases y with
    | infinity t | finite t n k hn => exact congrArg UnpackedFloat.infinity (sign_mul_comm s t)
    | zero t | notANumber => rfl
  | zero s =>
    cases y with
    | zero t | finite t n k hn => exact congrArg UnpackedFloat.zero (sign_mul_comm s t)
    | infinity t | notANumber => rfl
  | finite s m e hm =>
    cases y with
    | infinity t => exact congrArg UnpackedFloat.infinity (sign_mul_comm s t)
    | zero t => exact congrArg UnpackedFloat.zero (sign_mul_comm s t)
    | finite t n k hn =>
      show UnpackedFloat.roundWithAccuracy f (s * t) (m * n) (e + k) .exact =
        .roundWithAccuracy f (t * s) (n * m) (k + e) .exact
      rw [sign_mul_comm, Nat.mul_comm, Int.add_comm]
    | notANumber => rfl

instance : CommutativeScalar Float where
  add_comm x y := congrArg (fun z => Float.ofModel (pack z)) (unpacked_add_comm _ x.toModel.unpack y.toModel.unpack)
  mul_comm x y := congrArg (fun z => Float.ofModel (pack z)) (unpacked_mul_comm _ x.toModel.unpack y.toModel.unpack)

end Binary64

end Orbit
