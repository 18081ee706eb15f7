import Orbit.Decimal.Shortest

/-!
# Written numbers

How a binary64 number is laid out as text from its shortest decimal.

* `Layout` : the choices of a notation.
* `Layout.plain` : always positional, whole numbers without a point.
* `Layout.exact` : whole numbers keep `.0`, and very large and very small numbers have an exponent.
* `Layout.text` : the text of a number in a notation.
-/

namespace Orbit

structure Layout where
  /-- What follows the digits of a whole number. -/
  whole : String
  /-- Whether a number with this many digits before the point is written with an exponent. -/
  scientific : Int → Bool

namespace Layout

/-- Positional notation, without a point where none is needed. -/
def plain : Layout := ⟨"", fun _ => false⟩

/-- Positional from 0.0001 up to 10^16, with a point in every number; an exponent outside. -/
def exact : Layout := ⟨".0", fun point => decide (point ≤ -4) || decide (17 ≤ point)⟩

/-- Digits with the point after the first `point` of them, filled up with zeros. -/
def positional (layout : Layout) (digits : List Char) (point : Int) : String :=
  if point ≤ 0 then "0." ++ String.ofList (List.replicate (-point).toNat '0' ++ digits)
  else
    let places := point.toNat
    if digits.length ≤ places then
      String.ofList (digits ++ List.replicate (places - digits.length) '0') ++ layout.whole
    else String.ofList (digits.take places) ++ "." ++ String.ofList (digits.drop places)

/-- One digit before the point, and the power of ten. -/
def withExponent (digits : List Char) (point : Int) : String :=
  let fraction := digits.drop 1
  String.ofList (digits.take 1) ++ (if fraction.isEmpty then "" else "." ++ String.ofList fraction) ++ "e" ++
    toString (point - 1)

def decimal (layout : Layout) (d : Decimal) : String :=
  let digits := Nat.toDigits 10 d.digits
  let point := d.exponent + (digits.length : Int)
  if layout.scientific point then withExponent digits point else layout.positional digits point

def text (layout : Layout) (x : Float) : String :=
  if x.isNaN then "NaN"
  else
    let bits := x.toBits
    let sign := if bits ≥ 0x8000000000000000 then "-" else ""
    let size := bits % 0x8000000000000000
    if size == 0x7FF0000000000000 then sign ++ "inf"
    else if size == 0 then sign ++ "0" ++ layout.whole
    else sign ++ layout.decimal (Binary.ofBits size).shortest

end Layout

end Orbit
