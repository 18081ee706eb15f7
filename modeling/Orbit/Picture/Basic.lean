import Orbit.EscapeTime
import Orbit.Viewport

/-!
# Pictures

A picture holds the escape time of every pixel of a viewport, row by row. One register file serves all
pixels in turn.

* `Picture` : size, cap and escape times; `Picture.get?`, `Picture.rows`.
* `PictureFault` : why there is no picture of a viewport.
* `render` : the picture of a viewport, unless something is wrong with the viewport or it has too many pixels.
-/

namespace Orbit

/-- The escape times of the pixels of a viewport, the rows one after the other. -/
structure Picture where
  width : UInt32
  height : UInt32
  cap : UInt32
  counts : Array UInt32
deriving DecidableEq, Repr

namespace Picture

/-- The place of a pixel among the escape times. -/
def place (p : Picture) (x y : UInt32) : UInt64 := y.toUInt64 * p.width.toUInt64 + x.toUInt64

/-- The escape time of a pixel, if there is such a pixel. -/
def get? (p : Picture) (x y : UInt32) : Option UInt32 :=
  if p.width ≤ x ∨ p.height ≤ y then none else p.counts[(p.place x y).toNat]?

/-- The number of escape times in a row: the width, and never zero. -/
def rowLength (p : Picture) : Nat := (max p.width 1).toNat

/-- The escape times of a row, as many as there still are in the last one. -/
def row (p : Picture) (y : Nat) : List UInt32 :=
  (p.counts.extract (y * p.rowLength) ((y + 1) * p.rowLength)).toList

/-- The escape times cut into rows, as many as it takes to hold all of them. -/
def rows (p : Picture) : List (List UInt32) :=
  (List.range ((p.counts.size + p.rowLength - 1) / p.rowLength)).map p.row

def totalSteps (p : Picture) : Nat := p.counts.foldl (fun n count => n + count.toNat) 0

end Picture

/-! ## Rendering -/

inductive PictureFault (α : Type) where
  | viewport (fault : ViewportFault α)
  /-- No array has room for the escape times. Rendering gives no answer then: the process stops. -/
  | overflow
deriving DecidableEq, Repr

/-- The bytes that an array can have. -/
def arrayLimit : Nat := 0x7fffffffffffffff

def Viewport.countBytes {α : Type} (v : Viewport α) : Nat := 4 * v.pixelCount.toNat

variable {α : Type} [Scalar α]

@[specialize]
def renderPixel (step : Registers α → Registers α) (view : Viewport α) (cap : UInt32) (y : Nat)
    (state : Registers α × Array UInt32) (x : Nat) : Registers α × Array UInt32 :=
  let (scratch, counts) := state
  let (count, scratch) := escapeTimeIn step scratch (view.sample (UInt32.ofNat x) (UInt32.ofNat y)) cap
  (scratch, counts.push count)

@[specialize]
def renderRow (step : Registers α → Registers α) (view : Viewport α) (cap : UInt32)
    (state : Registers α × Array UInt32) (y : Nat) : Registers α × Array UInt32 :=
  (List.range view.width.toNat).foldl (renderPixel step view cap y) state

@[specialize]
def render (step : Registers α → Registers α) (view : Viewport α) (cap : UInt32) :
    Except (PictureFault α) Picture :=
  match view.check with
  | some fault => .error (.viewport fault)
  | none =>
    if arrayLimit < view.countBytes then .error .overflow
    else
      let rows := List.range view.height.toNat
      let (_, counts) := rows.foldl (renderRow step view cap) (Registers.cleared, #[])
      .ok ⟨view.width, view.height, cap, counts⟩

end Orbit
