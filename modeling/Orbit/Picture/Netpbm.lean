import Orbit.Picture.Shade
import Orbit.Text.Case
import Orbit.Text.Bytes

/-!
# Picture files

The three formats in which a picture is written: grey levels as bytes, grey levels as decimal numbers, and
colours as bytes. A file is a header and then the rows, one part for each.

* `Format` : the formats; `Format.name`, `Format.ofText`.
* `Picture.parts`, `Picture.file` : the parts of a file and the whole.
-/

namespace Orbit

inductive Format where
  /-- Grey levels as bytes. -/
  | pgm
  /-- Grey levels as decimal numbers, one row in a line. -/
  | pgmAscii
  /-- Colours as bytes. -/
  | ppm
deriving DecidableEq, Repr

/-- A name, in small letters, that no format has. -/
structure UnknownFormat where
  name : String
deriving DecidableEq, Repr

def UnknownFormat.message (u : UnknownFormat) : String :=
  s!"unknown image format '{u.name}' (expected pgm, pgm-ascii or ppm)"

namespace Format

def name : Format → String
  | pgm => "pgm"
  | pgmAscii => "pgm-ascii"
  | ppm => "ppm"

def standard : Format := pgm

/-- The two letters at the start of a file. -/
def magic : Format → String
  | pgm => "P5"
  | pgmAscii => "P2"
  | ppm => "P6"

/-- The format with a name, in any case of letters. -/
def ofText (s : String) : Except UnknownFormat Format :=
  let name := Text.lowercase s
  if name == "pgm" then .ok pgm
  else if name == "pgm-ascii" then .ok pgmAscii
  else if name == "ppm" then .ok ppm
  else .error ⟨name⟩

end Format

namespace Picture

/-- The start of a file: format, size and the highest grey level. -/
def header (p : Picture) (format : Format) : String := s!"{format.magic}\n{p.width} {p.height}\n255\n"

def rowBytes (p : Picture) (format : Format) (counts : List UInt32) : List UInt8 :=
  match format with
  | .pgm => counts.map p.shadeOf
  | .pgmAscii => Text.utf8 (" ".intercalate (counts.map fun count => toString (p.shadeOf count)) ++ "\n")
  | .ppm => counts.flatMap fun count => (colour (p.shadeOf count)).bytes

/-- The header and the rows of a file. -/
def parts (p : Picture) (format : Format) : List (List UInt8) :=
  Text.utf8 (p.header format) :: p.rows.map (p.rowBytes format)

def file (p : Picture) (format : Format) : List UInt8 := (p.parts format).flatten

end Picture

end Orbit
