import Orbit.Fault
import Orbit.X86.Encode

/-!
# Code buffers

A fixed number of bytes that is filled with instructions from the front. An instruction that does not fit is
refused as a whole: what was emitted before stays, and nothing else is touched.

* `overwrite` : bytes stored one after the other into an array.
* `CodeBuffer` : the bytes and how many of them are code.
* `CodeBuffer.emit`, `CodeBuffer.emitAll` : one instruction, and as many of a list as fit.
-/

namespace Orbit.X86

/-- Bytes stored one after the other from a position on. -/
def overwrite (bytes : Array UInt8) (position : Nat) : List UInt8 → Array UInt8
  | [] => bytes
  | b :: rest => overwrite (bytes.setIfInBounds position b) (position + 1) rest

@[simp] theorem size_overwrite (bytes : Array UInt8) (position : Nat) (new : List UInt8) :
    (overwrite bytes position new).size = bytes.size := by
  induction new generalizing bytes position with
  | nil => rfl
  | cons b rest ih => simp [overwrite, ih]

/-- A fixed room for code, filled from the front. -/
structure CodeBuffer where
  bytes : Array UInt8
  length : Nat
  length_le : length ≤ bytes.size

namespace CodeBuffer

/-- A buffer over existing bytes, with no code yet. -/
def ofBytes (bytes : Array UInt8) : CodeBuffer := ⟨bytes, 0, Nat.zero_le _⟩

def zeroed (capacity : Nat) : CodeBuffer := ofBytes (Array.replicate capacity 0)

def capacity (b : CodeBuffer) : Nat := b.bytes.size

def code (b : CodeBuffer) : List UInt8 := b.bytes.toList.take b.length

def slice (b : CodeBuffer) (first last : Nat) : List UInt8 := (b.bytes.extract first last).toList

def Fits (b : CodeBuffer) (i : Instr) : Prop := b.length + i.encode.length ≤ b.bytes.size

instance (b : CodeBuffer) (i : Instr) : Decidable (b.Fits i) := inferInstanceAs (Decidable (_ ≤ _))

def append (b : CodeBuffer) (i : Instr) (h : b.Fits i) : CodeBuffer :=
  ⟨overwrite b.bytes b.length i.encode, b.length + i.encode.length, by simpa [Fits] using h⟩

def overflow (b : CodeBuffer) (i : Instr) : Fault := .codeOverflow b.capacity (b.length + i.encode.length)

def emit (b : CodeBuffer) (i : Instr) : Except Fault CodeBuffer :=
  if h : b.Fits i then .ok (b.append i h) else .error (b.overflow i)

/-- The buffer after instructions are appended one by one up to the first that does not fit, with the fault in
that case. -/
def emitAll (b : CodeBuffer) : List Instr → CodeBuffer × Option Fault
  | [] => (b, none)
  | i :: rest => if h : b.Fits i then (b.append i h).emitAll rest else (b, some (b.overflow i))

end CodeBuffer

end Orbit.X86
