import Orbit.Program.Run
import Orbit.Routine.Compile
import Orbit.Text.Case

/-!
# Engines

Three ways to carry out the step of an orbit: compiled code, the interpreter, and the quadratic step that
ignores the program.

* `Engine` : the choice; `Engine.name`, `Engine.ofText`.
* `Kernel` : what an engine prepares from a program; `Kernel.step`.
* `Engine.kernel` : the preparation, which fails only if compiling does.
-/

namespace Orbit

/-- How the step of an orbit is carried out. -/
inductive Engine where
  | jit
  | interpret
  | hardcoded
deriving DecidableEq, Repr

/-- A name, in small letters, that no engine has. -/
structure UnknownEngine where
  name : String
deriving DecidableEq, Repr

def UnknownEngine.message (u : UnknownEngine) : String :=
  s!"unknown engine '{u.name}' (expected jit, interpret or hardcoded)"

/-- A step that is ready to be repeated. -/
inductive Kernel where
  /-- The decoded instructions of compiled code. -/
  | native (body : List X86.Instr)
  | interpreted (program : Program)
  | quadratic
deriving DecidableEq, Repr

namespace Engine

def name : Engine → String
  | jit => "jit"
  | interpret => "interpret"
  | hardcoded => "hardcoded"

def standard : Engine := jit

/-- The engine that runs in place of this one on a host that can or cannot execute machine code. -/
def effective (executes : Bool) : Engine → Engine
  | jit => if executes then jit else interpret
  | other => other

/-- The engine with a name, in any case of letters. -/
def ofText (s : String) : Except UnknownEngine Engine :=
  let name := Text.lowercase s
  if name == "jit" then .ok jit
  else if name == "interpret" || name == "interpreter" then .ok interpret
  else if name == "hardcoded" then .ok hardcoded
  else .error ⟨name⟩

def kernel (host : Host) (p : Program) : Engine → Except Fault Kernel
  | jit =>
    match (p.compile host 0).1 with
    | .error fault => .error fault
    | .ok routine => .ok (.native routine.body)
  | interpret => .ok (.interpreted p)
  | hardcoded => .ok .quadratic

end Engine

@[specialize]
def Kernel.step {α : Type} [Scalar α] : Kernel → Registers α → Registers α
  | .native body, r => callBody body r
  | .interpreted p, r => p.run r
  | .quadratic, r => r.quadratic

end Orbit
