import Orbit.Program.Basic
import Orbit.X86.Encode

/-!
# From programs to machine instructions

Every instruction of a program becomes a few machine instructions on the complex registers in memory, with
`rdi` pointing at them. A routine is their concatenation between what the calling convention asks for at its
start and at its end.

* `Convention` : how a routine is called.
* `Instruction.lower` : the machine instructions of one instruction.
* `Program.pieces` : the labelled parts of a routine.
* `Program.lower` : the whole routine.
* `Program.sizeBound` : a number of bytes that is always enough for it.
-/

namespace Orbit

open X86

/-- Where the caller puts the address of the registers. -/
inductive Convention where
  /-- In `rdi`, which the routine may use freely. -/
  | systemV
  /-- In `rcx`; `rdi` belongs to the caller. -/
  | win64
deriving DecidableEq, Repr

namespace Convention

def name : Convention → String
  | systemV => "SystemV"
  | win64 => "Win64"

/-- The convention under which compiled programs are called. -/
def native : Convention := systemV

/-- The instructions at the start of a routine: `rdi` is saved and set. -/
def opening : Convention → List Instr
  | systemV => []
  | win64 => [.pushRdi, .movRdiRcx]

def closing : Convention → List Instr
  | systemV => [.ret]
  | win64 => [.popRdi, .ret]

/-- The bytes of opening and closing without the `ret`. -/
def frameSize : Convention → Nat
  | systemV => 0
  | win64 => 5

end Convention

/-- The displacement of a register's real part from the start of the registers. -/
def Register.reDisp (r : Register) : Int32 := Int32.ofNat r.offset

def Register.imDisp (r : Register) : Int32 := Int32.ofNat (r.offset + 8)

/-- The machine instructions of one instruction. A product keeps both factors in vector registers until both
parts are computed, so that the target may be the source. -/
def Instruction.lower (i : Instruction) : List Instr :=
  let source := i.source
  let target := i.target
  match i.op with
  | .assign => [.memory .loadPair .xmm0 source.reDisp, .memory .storePair .xmm0 target.reDisp]
  | .add =>
    [.memory .loadPair .xmm0 source.reDisp, .memory .addPair .xmm0 target.reDisp,
      .memory .storePair .xmm0 target.reDisp]
  | .multiply =>
    [.memory .loadLow .xmm0 source.reDisp, .memory .loadLow .xmm1 source.imDisp,
      .memory .loadLow .xmm2 target.reDisp, .memory .loadLow .xmm3 target.imDisp,
      .vector .copyLow .xmm4 .xmm0, .vector .mulLow .xmm4 .xmm2,
      .vector .copyLow .xmm5 .xmm1, .vector .mulLow .xmm5 .xmm3,
      .vector .subLow .xmm4 .xmm5, .memory .storeLow .xmm4 target.reDisp,
      .vector .mulLow .xmm3 .xmm0, .vector .mulLow .xmm2 .xmm1,
      .vector .addLow .xmm2 .xmm3, .memory .storeLow .xmm2 target.imDisp]

namespace Program

/-- The parts of a routine with their labels: the opening, each instruction, the closing. -/
def pieces (p : Program) (convention : Convention) : List (String × List Instr) :=
  ("entry", convention.opening) :: (p.map fun i => (i.text, i.lower)) ++ [("exit", convention.closing)]

def lower (p : Program) (convention : Convention) : List Instr :=
  convention.opening ++ p.flatMap Instruction.lower ++ convention.closing

/-- The most bytes that one instruction can take: six memory instructions of eight bytes and eight register
instructions of four. -/
def instructionBound : Nat := 6 * 8 + 8 * 4

/-- A number of bytes in which every routine of the program fits. -/
def sizeBound (p : Program) (convention : Convention) : Nat :=
  p.length * instructionBound + convention.frameSize + 1

end Program

end Orbit
