import Orbit.Registers
import Orbit.X86.Instr

/-!
# The processor

What the instructions do. The state holds the general registers that matter, the sixteen vector registers as two
lanes each, the 64 bytes of the complex registers at an address `base`, and the words that were pushed. A lane
holds nothing until something is written to it. The machine stops at an access to memory outside the 64 bytes
or across two scalars, at an operand of `addpd` that is not aligned, at the use of a lane that holds nothing,
and at a pop or a return that would use what the routine did not push. So a run that comes to its `ret` has
done none of these.

* `Lanes α`, `VectorFile α` : the vector registers.
* `Registers.word?`, `Registers.setWord?` : the complex registers as eight scalars in memory.
* `Machine α`, `Machine.exec` : one instruction.
* `Machine.run` : instructions up to a `ret`.
-/

namespace Orbit.X86

/-- The two lanes of a vector register, as far as they were written. -/
structure Lanes (α : Type) where
  low : Option α
  high : Option α
deriving DecidableEq, Repr

structure VectorFile (α : Type) where
  xmm0 : Lanes α
  xmm1 : Lanes α
  xmm2 : Lanes α
  xmm3 : Lanes α
  xmm4 : Lanes α
  xmm5 : Lanes α
  /-- The registers from `xmm6` on. -/
  upper : Vector (Lanes α) 10
deriving DecidableEq, Repr

namespace VectorFile

variable {α : Type}

def unset : VectorFile α :=
  let lanes : Lanes α := ⟨none, none⟩
  ⟨lanes, lanes, lanes, lanes, lanes, lanes, Vector.replicate 10 lanes⟩

def get (v : VectorFile α) : Xmm → Lanes α
  | .xmm0 => v.xmm0
  | .xmm1 => v.xmm1
  | .xmm2 => v.xmm2
  | .xmm3 => v.xmm3
  | .xmm4 => v.xmm4
  | .xmm5 => v.xmm5

def set (v : VectorFile α) (x : Xmm) (lanes : Lanes α) : VectorFile α :=
  match x with
  | .xmm0 => { v with xmm0 := lanes }
  | .xmm1 => { v with xmm1 := lanes }
  | .xmm2 => { v with xmm2 := lanes }
  | .xmm3 => { v with xmm3 := lanes }
  | .xmm4 => { v with xmm4 := lanes }
  | .xmm5 => { v with xmm5 := lanes }

@[simp] theorem get_set_self (v : VectorFile α) (x : Xmm) (lanes : Lanes α) : (v.set x lanes).get x = lanes := by
  cases x <;> rfl

theorem get_set_ne {x y : Xmm} (v : VectorFile α) (lanes : Lanes α) (h : y ≠ x) :
    (v.set x lanes).get y = v.get y := by
  cases x <;> cases y <;> first | rfl | exact absurd rfl h

@[simp] theorem upper_set (v : VectorFile α) (x : Xmm) (lanes : Lanes α) : (v.set x lanes).upper = v.upper := by
  cases x <;> rfl

end VectorFile

end Orbit.X86

namespace Orbit.Registers

variable {α : Type}

/-- The scalar that starts at a distance in bytes from the start of the registers. -/
def word? (r : Registers α) (distance : Nat) : Option α :=
  match distance with
  | 0 => some r.a.re
  | 8 => some r.a.im
  | 16 => some r.b.re
  | 24 => some r.b.im
  | 32 => some r.c.re
  | 40 => some r.c.im
  | 48 => some r.d.re
  | 56 => some r.d.im
  | _ => none

def setWord? (r : Registers α) (distance : Nat) (x : α) : Option (Registers α) :=
  match distance with
  | 0 => some { r with a := { r.a with re := x } }
  | 8 => some { r with a := { r.a with im := x } }
  | 16 => some { r with b := { r.b with re := x } }
  | 24 => some { r with b := { r.b with im := x } }
  | 32 => some { r with c := { r.c with re := x } }
  | 40 => some { r with c := { r.c with im := x } }
  | 48 => some { r with d := { r.d with re := x } }
  | 56 => some { r with d := { r.d with im := x } }
  | _ => none

end Orbit.Registers

namespace Orbit.X86

/-- The state of the processor and of the memory it may use. -/
structure Machine (α : Type) where
  rdi : UInt64
  rcx : UInt64
  rsp : UInt64
  vectors : VectorFile α
  /-- The address of the complex registers. -/
  base : UInt64
  registers : Registers α
  /-- The words pushed by the routine, the last one first. -/
  pushed : List UInt64
deriving DecidableEq, Repr

namespace Machine

variable {α : Type}

def address (m : Machine α) (disp : Int32) : UInt64 := m.rdi + disp.toInt64.toUInt64

def load? (m : Machine α) (address : UInt64) : Option α := m.registers.word? (address - m.base).toNat

def store? (m : Machine α) (address : UInt64) (x : α) : Option (Machine α) :=
  (m.registers.setWord? (address - m.base).toNat x).map fun r => { m with registers := r }

def setVector (m : Machine α) (x : Xmm) (lanes : Lanes α) : Machine α :=
  { m with vectors := m.vectors.set x lanes }

/-- An instruction between a vector register and the memory at an address. -/
@[specialize]
def execMemory [Scalar α] (m : Machine α) (op : MemoryOp) (x : Xmm) (address : UInt64) : Option (Machine α) :=
  let lanes := m.vectors.get x
  match op with
  | .loadPair => do
    let low ← m.load? address
    let high ← m.load? (address + 8)
    some (m.setVector x ⟨some low, some high⟩)
  | .storePair => do
    let low ← lanes.low
    let high ← lanes.high
    let m ← m.store? address low
    m.store? (address + 8) high
  | .addPair => do
    if address % 16 ≠ 0 then none
    let low ← m.load? address
    let high ← m.load? (address + 8)
    some (m.setVector x ⟨some ((← lanes.low) + low), some ((← lanes.high) + high)⟩)
  | .loadLow => do
    let low ← m.load? address
    some (m.setVector x ⟨some low, some Scalar.zero⟩)
  | .storeLow => do
    let low ← lanes.low
    m.store? address low

/-- The low lane that an instruction on two registers leaves in its target. -/
@[specialize]
def lowLane? [Scalar α] (op : VectorOp) (target source : Option α) : Option α :=
  match op with
  | .copyLow => source
  | .mulLow => do some ((← target) * (← source))
  | .addLow => do some ((← target) + (← source))
  | .subLow => do some ((← target) - (← source))

/-- The state after an instruction on two registers; the high lane of the target stays. -/
@[specialize]
def execVector [Scalar α] (m : Machine α) (op : VectorOp) (target source : Xmm) : Option (Machine α) := do
  let lanes := m.vectors.get target
  let low ← lowLane? op lanes.low (m.vectors.get source).low
  some (m.setVector target { lanes with low := some low })

/-- The state after an instruction that falls through to the next one; a `ret` does not. -/
@[specialize]
def exec [Scalar α] (m : Machine α) : Instr → Option (Machine α)
  | .memory op x disp => m.execMemory op x (m.address disp)
  | .vector op target source => m.execVector op target source
  | .pushRdi => some { m with rsp := m.rsp - 8, pushed := m.rdi :: m.pushed }
  | .movRdiRcx => some { m with rdi := m.rcx }
  | .popRdi =>
    match m.pushed with
    | [] => none
    | word :: rest => some { m with rdi := word, rsp := m.rsp + 8, pushed := rest }
  | .ret => none

/-- The state at the `ret` that ends some instructions. -/
@[specialize]
def run [Scalar α] : List Instr → Machine α → Option (Machine α)
  | [], _ => none
  | .ret :: _, m => if m.pushed.isEmpty then some m else none
  | i :: rest, m =>
    match m.exec i with
    | none => none
    | some m => run rest m

end Machine

end Orbit.X86
