import Orbit.Routine.Lowering
import Orbit.X86.Buffer

/-!
# Assembled routines

* `Program.emit` : a routine emitted into a code buffer.
* `Program.assemble` : the bytes of a routine.
* `Program.listing` : the bytes of a routine part by part, each with its label and its place.
-/

namespace Orbit

open X86

/-- A part of a routine: what it is for, where it starts and its bytes. -/
structure ListingLine where
  label : String
  offset : Nat
  bytes : List UInt8
deriving DecidableEq, Repr

/-- A part of a routine while it is emitted: its label and the positions where it starts and ends. -/
structure Span where
  label : String
  first : Nat
  last : Nat
deriving DecidableEq, Repr

namespace Program

/-- The buffer after a routine is emitted into it, with the fault if it does not fit. -/
def emit (p : Program) (convention : Convention) (b : CodeBuffer) : CodeBuffer × Option Fault :=
  b.emitAll (p.lower convention)

def assemble (p : Program) (convention : Convention) : Except Fault (List UInt8) :=
  match p.emit convention (CodeBuffer.zeroed (p.sizeBound convention)) with
  | (_, some fault) => .error fault
  | (b, none) => .ok b.code

/-- Labelled instructions emitted one part after the other, with the place of each part. -/
def emitPieces (b : CodeBuffer) : List (String × List Instr) → Except Fault (CodeBuffer × List Span)
  | [] => .ok (b, [])
  | (label, instrs) :: rest =>
    let first := b.length
    match b.emitAll instrs with
    | (_, some fault) => .error fault
    | (next, none) =>
      let last := next.length
      match emitPieces next rest with
      | .error fault => .error fault
      | .ok (done, spans) => .ok (done, ⟨label, first, last⟩ :: spans)

def listing (p : Program) (convention : Convention) : Except Fault (List ListingLine) :=
  match emitPieces (CodeBuffer.zeroed (p.sizeBound convention)) (p.pieces convention) with
  | .error fault => .error fault
  | .ok (b, spans) =>
    let coded := spans.filter fun span => decide (span.first < span.last)
    .ok (coded.map fun span => ⟨span.label, span.first, b.slice span.first span.last⟩)

end Program

end Orbit
