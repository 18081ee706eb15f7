import Orbit.Program.Parse
import Orbit.Routine.Assembly
import Orbit.Routine.Region
import Orbit.X86.Decode
import Orbit.X86.Machine

/-!
# Compiled programs

A routine is the machine code of a program in a sealed region. Calling it runs its bytes on the processor,
with the registers in memory where the calling convention says.

* `Routine` : a compiled program.
* `Program.compile` : emits a program into a new region; on a fault nothing stays mapped.
* `Routine.call` : the registers after a call.
-/

namespace Orbit

open X86

/-- The machine code of a program, ready to be called. -/
structure Routine where
  program : Program
  region : SealedRegion
  codeLength : Nat

namespace Program

/-- The compiled program and the count of mapped regions afterwards. -/
def compile (host : Host) (p : Program) (live : Nat) : Except Fault Routine × Nat :=
  match Region.allocate host (p.sizeBound .native) live with
  | (.error fault, live) => (.error fault, live)
  | (.ok region, live) =>
    match p.emit .native (CodeBuffer.ofBytes region.bytes) with
    | (_, some fault) => (.error fault, Region.release live)
    | (b, none) =>
      match Region.close host (.ofBytes b.bytes) live with
      | (.error fault, live) => (.error fault, live)
      | (.ok closed, live) => (.ok ⟨p, closed, b.length⟩, live)

/-- The compiled program with a text; a text that is no program maps nothing. -/
def compileText (host : Host) (text : String) (live : Nat) : Except Fault Routine × Nat :=
  match parse text with
  | .error fault => (.error fault, live)
  | .ok p => p.compile host live

end Program

/-- An address for the registers; any multiple of sixteen will do. -/
def registersBase : UInt64 := 0x100000

/-- An address for the top of the stack, apart from the registers. -/
def stackTop : UInt64 := 0x80000

def X86.Machine.enter {α : Type} (convention : Convention) (r : Registers α) : Machine α where
  rdi := match convention with
    | .systemV => registersBase
    | .win64 => 0
  rcx := match convention with
    | .systemV => 0
    | .win64 => registersBase
  rsp := stackTop
  vectors := VectorFile.unset
  base := registersBase
  registers := r
  pushed := []

/-- The registers after a call of a decoded routine; if the processor stops early they are as they were. -/
@[specialize]
def callBody {α : Type} [Scalar α] (body : List Instr) (r : Registers α) : Registers α :=
  match (Machine.enter .native r).run body with
  | some m => m.registers
  | none => r

namespace Routine

def code (u : Routine) : List UInt8 := u.region.bytes u.codeLength

def body (u : Routine) : List Instr := (routine? u.code).getD []

def call {α : Type} [Scalar α] (u : Routine) (r : Registers α) : Registers α := callBody u.body r

def summary (u : Routine) (entry : String) : String :=
  "CompiledUnit \x7b program: " ++ Text.quoted u.program.text ++ ", entry: " ++ entry ++
    s!", code_len: {u.codeLength} \x7d"

end Routine

end Orbit
