import Orbit.Program.Parse

/-!
# Running programs

* `Instruction.run`, `Program.run` : the meaning of an instruction and of a program.
* `Program.runText` : the same for the text of a program.
* `Registers.quadratic` : the fixed step `b := b² + a`.
-/

namespace Orbit

variable {α : Type}

/-- The registers after one instruction; the source is read before the target changes. -/
def Instruction.run [Scalar α] (i : Instruction) (r : Registers α) : Registers α :=
  let source := r.get i.source
  let target := r.get i.target
  match i.op with
  | .assign => r.set i.target source
  | .add => r.set i.target (target.add source)
  | .multiply => r.set i.target (target.mul source)

@[specialize]
def Program.run [Scalar α] : Program → Registers α → Registers α
  | [], r => r
  | i :: rest, r => Program.run rest (i.run r)

/-- The program with this text carried out, or the fault if there is none, and the registers afterwards. A text that is
no program is refused before any of them changes. -/
def Program.runText [Scalar α] (text : String) (r : Registers α) : Except Fault Unit × Registers α :=
  match Program.parse text with
  | .error fault => (.error fault, r)
  | .ok p => (.ok (), p.run r)

/-- One step of the quadratic family: `b` becomes `b² + a`. -/
def Registers.quadratic [Scalar α] (r : Registers α) : Registers α := { r with b := (r.b.mul r.b).add r.a }

end Orbit
