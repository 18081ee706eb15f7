/-!
# Machine instructions

The part of x86-64 that compiled programs use: scalar and packed double arithmetic on the first six
vector registers, with memory operands `[rdi + disp]`, and the moves that keep `rdi` for the caller.

* `Xmm` : the vector registers.
* `MemoryOp` : instructions between a vector register and memory.
* `VectorOp` : instructions between two vector registers.
* `Instr` : one machine instruction.
-/

namespace Orbit.X86

inductive Xmm where
  | xmm0
  | xmm1
  | xmm2
  | xmm3
  | xmm4
  | xmm5
deriving DecidableEq, Repr

namespace Xmm

def number : Xmm → UInt8
  | xmm0 => 0
  | xmm1 => 1
  | xmm2 => 2
  | xmm3 => 3
  | xmm4 => 4
  | xmm5 => 5

def ofNumber? (n : UInt8) : Option Xmm :=
  if n = 0 then some xmm0
  else if n = 1 then some xmm1
  else if n = 2 then some xmm2
  else if n = 3 then some xmm3
  else if n = 4 then some xmm4
  else if n = 5 then some xmm5
  else none

@[simp] theorem ofNumber?_number (x : Xmm) : ofNumber? x.number = some x := by cases x <;> rfl

end Xmm

/-- Instructions with a vector register and a memory operand. -/
inductive MemoryOp where
  /-- `movupd xmm, [m]`: both lanes from memory. -/
  | loadPair
  /-- `movupd [m], xmm`: both lanes to memory. -/
  | storePair
  /-- `addpd xmm, [m]`: both lanes of an aligned operand are added. -/
  | addPair
  /-- `movsd xmm, [m]`: the low lane from memory, the high lane cleared. -/
  | loadLow
  /-- `movsd [m], xmm`: the low lane to memory. -/
  | storeLow
deriving DecidableEq, Repr

/-- Instructions on the low lanes of two vector registers. -/
inductive VectorOp where
  /-- `movsd`: the low lane is copied, the high lane stays. -/
  | copyLow
  /-- `mulsd`. -/
  | mulLow
  /-- `addsd`. -/
  | addLow
  /-- `subsd`. -/
  | subLow
deriving DecidableEq, Repr

inductive Instr where
  /-- A vector register and the memory at `[rdi + disp]`. -/
  | memory (op : MemoryOp) (reg : Xmm) (disp : Int32)
  /-- Two vector registers. -/
  | vector (op : VectorOp) (target source : Xmm)
  /-- `push rdi` -/
  | pushRdi
  /-- `mov rdi, rcx` -/
  | movRdiRcx
  /-- `pop rdi` -/
  | popRdi
  /-- `ret` -/
  | ret
deriving DecidableEq, Repr

end Orbit.X86
