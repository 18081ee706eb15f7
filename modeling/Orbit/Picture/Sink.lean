import Orbit.Picture.Netpbm

/-!
# Writing into limited room

A sink takes as many of the bytes offered to it as it has room for. A piece is offered again and again until
nothing is left of it; when nothing at all is taken, writing stops with a fault. The numbers of a header and the
line ends of rows of numbers are pieces of their own.

* `Sink` : room and contents; `Sink.accept`.
* `Sink.writeAll`, `Sink.writePieces` : one piece, and pieces up to the first that fails.
* `Picture.pieces`, `Picture.writeTo` : a picture written to a sink, piece by piece.
-/

namespace Orbit

inductive WriteFault where
  /-- A sink took nothing of what was left. -/
  | noRoom
deriving DecidableEq, Repr

def WriteFault.reason : WriteFault → String
  | noRoom => "failed to write whole buffer"

def WriteFault.message (fault : WriteFault) : String := "i/o error: " ++ fault.reason

/-- Room for some bytes. -/
structure Sink where
  room : Nat
  held : List UInt8
deriving DecidableEq, Repr

namespace Sink

def empty (room : Nat) : Sink := ⟨room, []⟩

/-- How many of the bytes are taken, and the sink with them. -/
def accept (s : Sink) (bytes : List UInt8) : Nat × Sink :=
  let taken := min bytes.length (s.room - s.held.length)
  (taken, { s with held := s.held ++ bytes.take taken })

/-- The sink after bytes are offered until all are taken, or until none is. -/
def writeAll (s : Sink) (bytes : List UInt8) : Sink × Option WriteFault :=
  if bytes.isEmpty then (s, none)
  else
    let taken := (s.accept bytes).1
    let next := (s.accept bytes).2
    if _h : 0 < taken ∧ taken ≤ bytes.length then next.writeAll (bytes.drop taken) else (next, some .noRoom)
termination_by bytes.length
decreasing_by simp only [List.length_drop]; omega

/-- The sink after pieces are written, up to the first that fails. -/
def writePieces (s : Sink) : List (List UInt8) → Sink × Option WriteFault
  | [] => (s, none)
  | piece :: rest =>
    match s.writeAll piece with
    | (s, some fault) => (s, some fault)
    | (s, none) => s.writePieces rest

end Sink

namespace Picture

/-- The pieces of the header, with every number by itself. -/
def headerPieces (p : Picture) (format : Format) : List String :=
  [format.magic ++ "\n", toString p.width, " ", toString p.height, "\n", "255", "\n"]

/-- The pieces of a row, with the end of a line by itself. -/
def rowPieces (p : Picture) (format : Format) (counts : List UInt32) : List (List UInt8) :=
  match format with
  | .pgm => [p.rowBytes .pgm counts]
  | .pgmAscii =>
    [Text.utf8 (" ".intercalate (counts.map fun count => toString (p.shadeOf count))), Text.utf8 "\n"]
  | .ppm => [p.rowBytes .ppm counts]

def pieces (p : Picture) (format : Format) : List (List UInt8) :=
  (p.headerPieces format).map Text.utf8 ++ p.rows.flatMap (p.rowPieces format)

def writeTo (p : Picture) (format : Format) (s : Sink) : Sink × Option WriteFault :=
  s.writePieces (p.pieces format)

end Picture

end Orbit
