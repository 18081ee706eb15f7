/-!
# Hexadecimal digits

Lower-case digits are written, at least as many as asked for, and digits of both cases are read.

* `Text.hex` : a number, padded with zeros on the left.
* `Text.hexByte`, `Text.hexBytes` : two digits for each byte.
* `Text.hexDigit?` : the value of a digit.
-/

namespace Orbit.Text

/-- A number in lower-case hexadecimal, with zeros on the left up to `width` digits. -/
def hex (width n : Nat) : String :=
  let digits := Nat.toDigits 16 n
  String.ofList (List.replicate (width - digits.length) '0' ++ digits)

def hexByte (b : UInt8) : String := hex 2 b.toNat

def hexBytes (separator : String) (bytes : List UInt8) : String := separator.intercalate (bytes.map hexByte)

def hexDigit? (c : Char) : Option Nat :=
  if c.isDigit then some (c.toNat - 48)
  else if 'a' ≤ c && c ≤ 'f' then some (c.toNat - 87)
  else if 'A' ≤ c && c ≤ 'F' then some (c.toNat - 55)
  else none

end Orbit.Text
