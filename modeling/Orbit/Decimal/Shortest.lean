/-!
# The shortest decimal of a binary number

A finite binary number `m · 2^q` stands for every real number that rounds to it: the interval that ends
half way to its two neighbours, the ends included exactly when `m` is even. Its shortest decimal is the
decimal in that interval with the fewest digits and, of those, the nearest to the number; a tie goes up.
For a given number of digits only the two multiples of the power of ten around the number have to be
tried, and seventeen digits are always enough for binary64.

* `Binary` : a non-negative number `m · 2^q` with the shape of its interval.
* `Decimal` : a number `n · 10^e`.
* `Binary.shortest` : the shortest decimal.
-/

namespace Orbit

/-- A non-negative number `mantissa · 2^exponent`. -/
structure Binary where
  mantissa : Nat
  exponent : Int
  /-- The neighbour below is half as far away as the one above. -/
  narrow : Bool
deriving DecidableEq, Repr

/-- A non-negative number `digits · 10^exponent`. -/
structure Decimal where
  digits : Nat
  exponent : Int
deriving DecidableEq, Repr

/-- The number of decimal digits of a number; sixteen of a long one are counted at once. -/
def digitCount (n : Nat) : Nat :=
  if n < 10000000000000000 then (Nat.toDigits 10 n).length else digitCount (n / 10000000000000000) + 16
termination_by n
decreasing_by exact Nat.div_lt_self (by omega) (by omega)

namespace Binary

/-- The absolute value of the finite binary64 number with these bits. -/
def ofBits (bits : UInt64) : Binary :=
  let fraction : Nat := bits.toNat % 0x10000000000000
  let field : Nat := bits.toNat / 0x10000000000000 % 0x800
  if field = 0 then ⟨fraction, -1074, false⟩
  else ⟨0x10000000000000 + fraction, (field : Int) - 1075, fraction == 0 && decide (1 < field)⟩

/-- Numerator and denominator of a quarter of the last binary place, counted in units of `10^k`. -/
def quarter (x : Binary) (k : Int) : Nat × Nat :=
  (Nat.pow 2 (x.exponent - 2).toNat * Nat.pow 10 (-k).toNat, Nat.pow 2 (2 - x.exponent).toNat * Nat.pow 10 k.toNat)

/-- The multiple of `10^k` inside the interval of `x` that is nearest to `x`, if one of the two multiples
around `x` is inside. -/
def nearest? (x : Binary) (k : Int) : Option Nat :=
  let (num, den) := x.quarter k
  let value := 4 * x.mantissa * num
  let lower := (4 * x.mantissa - (if x.narrow then 1 else 2)) * num
  let upper := (4 * x.mantissa + 2) * num
  let closed := x.mantissa % 2 == 0
  let below := value / den
  let above := below + 1
  let belowFits := lower < below * den || (closed && lower == below * den)
  let aboveFits := above * den < upper || (closed && above * den == upper)
  if belowFits && aboveFits then
    some (if value - below * den < above * den - value then below else above)
  else if belowFits then some below
  else if aboveFits then some above
  else none

/-- The number of digits before the point, or minus the number of zeros that follow it. -/
def magnitude (x : Binary) : Int :=
  let (num, den) := x.quarter (-400)
  (digitCount (4 * x.mantissa * num / den) : Int) - 400

end Binary

namespace Decimal

/-- The same number without zeros at the end of its digits. -/
def strip (d : Decimal) : Decimal :=
  if h : d.digits % 10 = 0 ∧ 0 < d.digits then strip ⟨d.digits / 10, d.exponent + 1⟩ else d
termination_by d.digits
decreasing_by omega

end Decimal

/-- The decimal with the fewest digits that rounds to `x`. -/
def Binary.shortest (x : Binary) : Decimal :=
  let digitCounts : List Nat := (List.range 17).map (· + 1)
  let found := digitCounts.findSome? fun (n : Nat) =>
    let k := x.magnitude - (n : Int)
    (x.nearest? k).map fun digits => (⟨digits, k⟩ : Decimal)
  (found.getD ⟨0, 0⟩).strip

end Orbit
