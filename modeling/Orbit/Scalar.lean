import Orbit.Decimal.Layout
import Orbit.Decimal.Reading

/-!
# Scalars

The numbers that complex registers are made of. Everything that computes is written for an arbitrary
type of scalars, so that a statement about the machine rests on nothing but the operations below; the
programs run with binary64 numbers.

* `Scalar α` : the arithmetic and the tests.
* `Written α` : how a scalar is written and read.
-/

namespace Orbit

/-- The arithmetic of registers and sample points. -/
class Scalar (α : Type) extends Add α, Sub α, Mul α, Div α where
  /-- The scalar equal to a pixel count or coordinate. -/
  ofWord : UInt32 → α
  /-- Whether the first scalar is below the second. -/
  less : α → α → Bool
  /-- Whether the scalar is a number and not infinite. -/
  isFinite : α → Bool

namespace Scalar

variable {α : Type} [Scalar α]

def zero : α := ofWord 0

/-- The square of the escape radius. -/
def four : α := ofWord 4

end Scalar

/-- The texts of scalars. -/
class Written (α : Type) where
  /-- Positional notation. -/
  plain : α → String
  /-- The notation of register values. -/
  exact : α → String
  /-- The scalar that a text denotes. -/
  read? : String → Option α

instance : Scalar Float where
  ofWord := UInt32.toFloat
  less x y := decide (x < y)
  isFinite := Float.isFinite

instance : Written Float where
  plain := Layout.plain.text
  exact := Layout.exact.text
  read? := Numeral.real?

end Orbit
