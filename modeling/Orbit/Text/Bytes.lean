/-!
# Texts and bytes

Bytes are read as UTF-8 with repair: every maximal run of bytes that starts a character and does not complete
it becomes one replacement character, and so does every byte that starts none. The reader is a machine over
the bytes whose state is the character that is under way.

* `Text.utf8` : the bytes of a text.
* `Text.ofBytesLossy` : the text of arbitrary bytes.
* `Text.ofBytes?` : the text of bytes that need no repair.
-/

namespace Orbit.Text

def utf8 (s : String) : List UInt8 := s.toUTF8.data.toList

def ofBytes? (bytes : List UInt8) : Option String := String.fromUTF8? ⟨bytes.toArray⟩

/-- The character that stands for bytes that are no text. -/
def replacement : Char := Char.ofNat 0xFFFD

/-- A character whose first bytes were read: how many are to come, their value so far, and the range the
next one has to lie in. -/
structure Partway where
  missing : Nat
  value : Nat
  low : UInt8
  high : UInt8

/-- What the first byte of a character gives: a whole character, the state after it, or a repair. -/
def start (b : UInt8) : List Char × Option Partway :=
  let n := b.toNat
  if n < 0x80 then ([Char.ofNat n], none)
  else if n < 0xC2 then ([replacement], none)
  else if n < 0xE0 then ([], some ⟨1, n % 0x20, 0x80, 0xBF⟩)
  else if n == 0xE0 then ([], some ⟨2, 0, 0xA0, 0xBF⟩)
  else if n == 0xED then ([], some ⟨2, 0xD, 0x80, 0x9F⟩)
  else if n < 0xF0 then ([], some ⟨2, n % 0x10, 0x80, 0xBF⟩)
  else if n == 0xF0 then ([], some ⟨3, 0, 0x90, 0xBF⟩)
  else if n < 0xF4 then ([], some ⟨3, n % 0x8, 0x80, 0xBF⟩)
  else if n == 0xF4 then ([], some ⟨3, 4, 0x80, 0x8F⟩)
  else ([replacement], none)

/-- One byte read in a state: the characters it completes or gives up, and the next state. -/
def advance (state : Option Partway) (b : UInt8) : List Char × Option Partway :=
  match state with
  | none => start b
  | some p =>
    if p.low ≤ b ∧ b ≤ p.high then
      let value := p.value * 0x40 + b.toNat % 0x40
      if p.missing ≤ 1 then ([Char.ofNat value], none) else ([], some ⟨p.missing - 1, value, 0x80, 0xBF⟩)
    else
      let (chars, next) := start b
      (replacement :: chars, next)

def charsFrom (state : Option Partway) : List UInt8 → List Char
  | [] => if state.isSome then [replacement] else []
  | b :: bytes =>
    let (chars, next) := advance state b
    chars ++ charsFrom next bytes

/-- The text of the bytes, with a replacement character for each part that is not UTF-8. -/
def ofBytesLossy (bytes : List UInt8) : String := String.ofList (charsFrom none bytes)

end Orbit.Text
