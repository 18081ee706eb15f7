import Orbit.Registers

/-!
# Escape times

The orbit of a point starts with the point in `a` and zero in the other registers, and goes on step by step
while the square of the absolute value of `b` is below four, up to a cap. The escape time is the number of
steps taken.

* `Registers.bounded` : the orbit goes on.
* `orbitFrom` : steps and registers at the end of an orbit.
* `escapeTimeIn`, `escapeTime` : the escape time of a point, with a register file that is used again or not.
-/

namespace Orbit

variable {α : Type} [Scalar α]

/-- Whether `b` is inside the escape radius. -/
def Registers.bounded (r : Registers α) : Bool := Scalar.less r.b.normSq Scalar.four

def Registers.restart (_ : Registers α) (point : Complex α) : Registers α := Registers.atPoint point

/-- Goes on from `r` for at most `cap` steps, after `taken` steps: the steps taken in all and the registers. -/
@[specialize]
def orbitFrom (step : Registers α → Registers α) : Nat → Nat → Registers α → Nat × Registers α
  | 0, taken, r => (taken, r)
  | cap + 1, taken, r => if r.bounded then orbitFrom step cap (taken + 1) (step r) else (taken, r)

/-- The escape time of a point and the registers at its end, in a register file that held anything before. -/
@[specialize]
def escapeTimeIn (step : Registers α → Registers α) (scratch : Registers α) (point : Complex α) (cap : UInt32) :
    UInt32 × Registers α :=
  let (taken, r) := orbitFrom step cap.toNat 0 (scratch.restart point)
  (UInt32.ofNat taken, r)

@[specialize]
def escapeTime (step : Registers α → Registers α) (point : Complex α) (cap : UInt32) : UInt32 :=
  (escapeTimeIn step Registers.cleared point cap).1

def standardCap : UInt32 := 256

end Orbit
