import Orbit.Registers

/-!
# Viewports

A rectangle of the complex plane and the number of pixels across and down. A pixel is sampled at its corner
with the smallest parts; the rectangle is half open.

* `Viewport α` : size and bounds.
* `Viewport.sample` : the point of a pixel.
* `Viewport.check` : the first thing that is wrong with a viewport, if any.
-/

namespace Orbit

variable {α : Type}

/-- A rectangle of the plane, divided into pixels. -/
structure Viewport (α : Type) where
  width : UInt32
  height : UInt32
  reMin : α
  reMax : α
  imMin : α
  imMax : α
deriving DecidableEq, Repr

inductive ViewportFault (α : Type) where
  | noPixels (view : Viewport α)
  | notFinite (view : Viewport α)
  | notIncreasing (view : Viewport α)
deriving DecidableEq, Repr

namespace Viewport

def standard : Viewport Float := ⟨1600, 900, -1.6, 1.6, -0.9, 0.9⟩

def withSize (v : Viewport α) (width height : UInt32) : Viewport α := { v with width := width, height := height }

def withBounds (v : Viewport α) (reMin reMax imMin imMax : α) : Viewport α :=
  { v with reMin := reMin, reMax := reMax, imMin := imMin, imMax := imMax }

def pixelCount (v : Viewport α) : UInt64 := v.width.toUInt64 * v.height.toUInt64

/-- The part of the way from `low` to `high` that `index` of `count` steps make. -/
def part [Scalar α] (low high : α) (index count : UInt32) : α :=
  low + (high - low) * Scalar.ofWord index / Scalar.ofWord count

/-- The point at which a pixel is sampled. -/
def sample [Scalar α] (v : Viewport α) (x y : UInt32) : Complex α :=
  ⟨part v.reMin v.reMax x v.width, part v.imMin v.imMax y v.height⟩

/-- What is wrong with a viewport: no pixels, then bounds that are not finite, then bounds that do not increase. -/
def check [Scalar α] (v : Viewport α) : Option (ViewportFault α) :=
  if v.width = 0 ∨ v.height = 0 then some (.noPixels v)
  else if [v.reMin, v.reMax, v.imMin, v.imMax].any fun bound => !Scalar.isFinite bound then some (.notFinite v)
  else if !Scalar.less v.reMin v.reMax || !Scalar.less v.imMin v.imMax then some (.notIncreasing v)
  else none

def text [Written α] (v : Viewport α) : String :=
  let interval (low high : α) : String := "[" ++ Written.plain low ++ ", " ++ Written.plain high ++ ")"
  s!"{v.width}x{v.height} re=" ++ interval v.reMin v.reMax ++ " im=" ++ interval v.imMin v.imMax

end Viewport

def ViewportFault.message [Written α] : ViewportFault α → String
  | noPixels v => s!"invalid viewport: size {v.width}x{v.height} has no pixels"
  | notFinite v => "invalid viewport: bounds must be finite, got " ++ v.text
  | notIncreasing v => "invalid viewport: bounds must be increasing, got " ++ v.text

end Orbit
