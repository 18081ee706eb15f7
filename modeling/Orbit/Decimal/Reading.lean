import Orbit.Text.Case

/-!
# Numbers read from text

* `Numeral.word?` : an unsigned 32-bit number, with an optional plus sign and decimal digits only.
* `Numeral.real?` : a binary64 number: a decimal with an optional fraction and exponent, rounded to nearest,
  or one of the names of infinity and of "not a number", in any case of letters.
-/

namespace Orbit.Numeral

def value (digits : List Char) : Nat := digits.foldl (fun n c => n * 10 + (c.toNat - 48)) 0

/-- A non-empty run of decimal digits. -/
def natural? (cs : List Char) : Option Nat :=
  if cs.isEmpty || !cs.all Char.isDigit then none else some (value cs)

def word? (s : String) : Option UInt32 := do
  let n ← match s.toList with
    | '+' :: cs => natural? cs
    | cs => natural? cs
  if n < UInt32.size then some (UInt32.ofNat n) else none

/-- A sign: whether it is a minus, and what follows it. -/
def sign : List Char → Bool × List Char
  | '-' :: cs => (true, cs)
  | '+' :: cs => (false, cs)
  | cs => (false, cs)

/-- The power of ten after the digits of a number: nothing, or a mark and a signed whole number. -/
def exponent? : List Char → Option Int
  | [] => some 0
  | c :: cs =>
    if c == 'e' || c == 'E' then
      let (negative, digits) := sign cs
      (natural? digits).map fun n => if negative then -(n : Int) else n
    else none

/-- Digits and power of ten of an unsigned decimal. -/
def scientific? (cs : List Char) : Option (Nat × Int) := do
  let whole := cs.takeWhile Char.isDigit
  let afterWhole := cs.dropWhile Char.isDigit
  let (fraction, afterFraction) := match afterWhole with
    | '.' :: rest => (rest.takeWhile Char.isDigit, rest.dropWhile Char.isDigit)
    | rest => ([], rest)
  if whole.isEmpty && fraction.isEmpty then none
  let power ← exponent? afterFraction
  some (value (whole ++ fraction), power - (fraction.length : Int))

def infinity : Float := Float.ofBits 0x7FF0000000000000

def notANumber : Float := Float.ofBits 0x7FF8000000000000

/-- The binary64 number nearest to `digits · 10^power`. Powers far outside the range of binary64 are settled by
the number of digits alone. -/
def round (digits : Nat) (power : Int) : Float :=
  let point := power + ((Nat.toDigits 10 digits).length : Int)
  if digits = 0 ∨ point < -400 then 0.0
  else if 400 < point then infinity
  else Float.ofScientific digits (decide (power < 0)) power.natAbs

def magnitude? (cs : List Char) : Option Float :=
  let name := Text.lowercase (String.ofList cs)
  if name == "inf" || name == "infinity" then some infinity
  else if name == "nan" then some notANumber
  else (scientific? cs).map fun (digits, power) => round digits power

def real? (s : String) : Option Float :=
  let (negative, cs) := sign s.toList
  (magnitude? cs).map fun x => if negative then -x else x

end Orbit.Numeral
