import Orbit.X86.Instr

/-!
# Encodings

An instruction on vector registers is a mandatory byte (`66` for packed, `F2` for scalar operands), the
escape `0F`, an opcode and a ModRM byte with the fields mode (two bits), register and operand (three bits
each). A memory operand `[rdi + disp]` has mode 1 and one byte of displacement if the displacement fits in a
signed byte, else mode 2 and four bytes in little-endian order. Mode 3 is a second register.

* `Instr.encode` : the bytes of an instruction.
-/

namespace Orbit.X86

/-- The byte in front of the escape. -/
def MemoryOp.lead : MemoryOp → UInt8
  | .loadPair | .storePair | .addPair => 0x66
  | .loadLow | .storeLow => 0xF2

/-- The byte after the escape. -/
def MemoryOp.opcode : MemoryOp → UInt8
  | .loadPair | .loadLow => 0x10
  | .storePair | .storeLow => 0x11
  | .addPair => 0x58

def VectorOp.opcode : VectorOp → UInt8
  | .copyLow => 0x11
  | .mulLow => 0x59
  | .addLow => 0x58
  | .subLow => 0x5C

def modRM (mode reg operand : UInt8) : UInt8 := mode <<< 6 ||| reg <<< 3 ||| operand

def rdiNumber : UInt8 := 7

def isShort (disp : Int32) : Bool := decide (-128 ≤ disp.toInt ∧ disp.toInt ≤ 127)

/-- The four bytes of a displacement, lowest first. -/
def littleEndian (disp : Int32) : List UInt8 :=
  let word := disp.toUInt32
  [word.toUInt8, (word >>> 8).toUInt8, (word >>> 16).toUInt8, (word >>> 24).toUInt8]

/-- The ModRM byte and the displacement of the operand `[rdi + disp]`. -/
def operandBytes (reg : Xmm) (disp : Int32) : List UInt8 :=
  if isShort disp then [modRM 1 reg.number rdiNumber, disp.toUInt32.toUInt8]
  else modRM 2 reg.number rdiNumber :: littleEndian disp

/-- The ModRM byte of two registers. Copies name the source in the register field, all else the target. -/
def VectorOp.modRM (op : VectorOp) (target source : Xmm) : UInt8 :=
  match op with
  | .copyLow => X86.modRM 3 source.number target.number
  | _ => X86.modRM 3 target.number source.number

def Instr.encode : Instr → List UInt8
  | .memory op reg disp => op.lead :: 0x0F :: op.opcode :: operandBytes reg disp
  | .vector op target source => [0xF2, 0x0F, op.opcode, op.modRM target source]
  | .pushRdi => [0x57]
  | .movRdiRcx => [0x48, 0x89, 0xCF]
  | .popRdi => [0x5F]
  | .ret => [0xC3]

def encodeAll (instrs : List Instr) : List UInt8 := instrs.flatMap Instr.encode

@[simp] theorem encodeAll_nil : encodeAll [] = [] := rfl

@[simp] theorem encodeAll_cons (i : Instr) (instrs : List Instr) :
    encodeAll (i :: instrs) = i.encode ++ encodeAll instrs := rfl

@[simp] theorem encodeAll_append (xs ys : List Instr) : encodeAll (xs ++ ys) = encodeAll xs ++ encodeAll ys := by
  simp [encodeAll]

theorem encode_length_pos (i : Instr) : 0 < i.encode.length := by
  cases i <;> simp [Instr.encode]

/-- No instruction is longer than eight bytes. -/
theorem encode_length_le (i : Instr) : i.encode.length ≤ 8 := by
  cases i with
  | memory op reg disp =>
    simp only [Instr.encode, operandBytes]
    split <;> simp [littleEndian]
  | _ => simp [Instr.encode]

end Orbit.X86
