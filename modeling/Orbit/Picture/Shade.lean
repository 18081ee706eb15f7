import Orbit.Picture.Basic

/-!
# Shades and colours

* `shade` : the grey level of an escape time; pixels that reach the cap are black.
* `colour` : the colour of a grey level, interpolated between fixed stops.
* `Picture.shades` : the grey levels of a picture.
-/

namespace Orbit

/-- The grey level of an escape time: its share of the cap in 256 levels, and black at the cap. -/
def shade (count cap : UInt32) : UInt8 :=
  if cap ≤ count then 0 else (min (count.toUInt64 * 256 / cap.toUInt64) 255).toUInt8

structure Colour where
  red : UInt8
  green : UInt8
  blue : UInt8
deriving DecidableEq, Repr

namespace Colour

/-- The colour of pixels that never escape. -/
def black : Colour := ⟨0, 0, 0⟩

def bytes (c : Colour) : List UInt8 := [c.red, c.green, c.blue]

/-- The grey levels with fixed colours, in increasing order. -/
def stops : List (Nat × Colour) :=
  [(0, ⟨0, 7, 100⟩), (64, ⟨32, 107, 203⟩), (128, ⟨237, 255, 255⟩), (192, ⟨255, 170, 0⟩), (255, ⟨64, 2, 0⟩)]

/-- The value `offset` of `span` steps from one value to another, rounded down. -/
def blend (first last : UInt8) (offset span : Nat) : UInt8 :=
  UInt8.ofNat ((first.toNat * (span - offset) + last.toNat * offset) / span)

/-- The colour of a level between two stops, of which the second is the first one not below it. -/
def between : List (Nat × Colour) → Nat → Colour
  | (low, first) :: (high, last) :: rest, level =>
    if level ≤ high then
      let part (channel : Colour → UInt8) : UInt8 := blend (channel first) (channel last) (level - low) (high - low)
      ⟨part red, part green, part blue⟩
    else between ((high, last) :: rest) level
  | [(_, last)], _ => last
  | [], _ => black

end Colour

def colour (level : UInt8) : Colour :=
  if level = 0 then .black else Colour.between Colour.stops level.toNat

namespace Picture

def shadeOf (p : Picture) (count : UInt32) : UInt8 := shade count p.cap

/-- The grey levels of all pixels, the rows one after the other. -/
def shades (p : Picture) : List UInt8 := p.counts.toList.map p.shadeOf

end Picture

end Orbit
