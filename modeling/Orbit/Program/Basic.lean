import Orbit.Registers

/-!
# Programs

A program is a list of instructions; an instruction combines a source register into a destination
register. Its text is three letters: the sign of the operation, the source, the destination.

* `Operation` : assign, add, multiply, with their signs.
* `Instruction`, `Program` : and `Instruction.text`, `Program.text`.
-/

namespace Orbit

/-- What an instruction does with its two registers. -/
inductive Operation where
  | assign
  | add
  | multiply
deriving DecidableEq, Repr

namespace Operation

def sign : Operation → Char
  | assign => '='
  | add => '+'
  | multiply => '*'

def byte : Operation → UInt8
  | assign => 0x3D
  | add => 0x2B
  | multiply => 0x2A

def mnemonic : Operation → String
  | assign => "assign"
  | add => "add"
  | multiply => "mul"

def ofByte? (byte : UInt8) : Option Operation :=
  if byte = 0x3D then some assign
  else if byte = 0x2B then some add
  else if byte = 0x2A then some multiply
  else none

@[simp] theorem ofByte?_byte (op : Operation) : ofByte? op.byte = some op := by cases op <;> rfl

theorem eq_byte_of_ofByte? {x : UInt8} {op : Operation} (h : ofByte? x = some op) : x = op.byte := by
  unfold ofByte? at h
  split at h
  · simp_all; subst h; rfl
  · split at h
    · simp_all; subst h; rfl
    · split at h
      · simp_all; subst h; rfl
      · simp at h

end Operation

/-- One step of a program: `target` becomes `source`, `target + source` or `target · source`. -/
structure Instruction where
  op : Operation
  source : Register
  target : Register
deriving DecidableEq, Repr

namespace Instruction

def text (i : Instruction) : String := String.ofList [i.op.sign, i.source.letter, i.target.letter]

def bytes (i : Instruction) : List UInt8 := [i.op.byte, i.source.byte, i.target.byte]

end Instruction

/-- A list of instructions, carried out from left to right. -/
abbrev Program := List Instruction

namespace Program

def text (p : Program) : String := String.join (p.map Instruction.text)

end Program

end Orbit
