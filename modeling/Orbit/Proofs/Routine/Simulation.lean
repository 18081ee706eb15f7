import Orbit.Program.Run
import Orbit.Proofs.Commutative
import Orbit.Proofs.Routine.Assembly
import Orbit.Proofs.X86.Decoding
import Orbit.Proofs.X86.Execution

/-!
# Compiled code computes what the interpreter computes

The machine instructions of one instruction are executed one by one with `rdi` at the complex registers
(`steps_lower`), those of a program follow by induction (`steps_flatMap_lower`), and the opening and the closing of
a routine put `rdi` there and back (`run_lower`). What comes out is `Program.native`: the interpreter with the
operands of sums and of the products in a real part the other way round. For scalars with commutative sums and
products that is the interpreter.

* `Machine.Entered convention m` : `m` is the processor at a call under the convention;
* `Instruction.native`, `Program.native` : what machine code computes; `Program.native_eq_run`;
* `Machine.run_lower` : a routine runs to its `ret`, and restores everything but vector and complex registers;
* `run_assemble_eq_interpreter` : from the bytes of a routine to the interpreter.
-/

namespace Orbit

open X86

variable {α : Type}

/-! ## Complex registers in memory -/

namespace Registers

def setRe (r : Registers α) (name : Register) (x : α) : Registers α := r.set name { r.get name with re := x }

def setIm (r : Registers α) (name : Register) (x : α) : Registers α := r.set name { r.get name with im := x }

theorem word?_offset (r : Registers α) (name : Register) : r.word? name.offset = some (r.get name).re := by
  cases name <;> rfl

theorem word?_offset_add (r : Registers α) (name : Register) : r.word? (name.offset + 8) = some (r.get name).im := by
  cases name <;> rfl

theorem setWord?_offset (r : Registers α) (name : Register) (x : α) :
    r.setWord? name.offset x = some (r.setRe name x) := by
  cases name <;> rfl

theorem setWord?_offset_add (r : Registers α) (name : Register) (x : α) :
    r.setWord? (name.offset + 8) x = some (r.setIm name x) := by
  cases name <;> rfl

theorem setIm_setRe (r : Registers α) (name : Register) (x y : α) :
    (r.setRe name x).setIm name y = r.set name ⟨x, y⟩ := by
  cases name <;> rfl

end Registers

namespace Register

theorem toNat_reDisp (r : Register) : r.reDisp.toInt64.toUInt64.toNat = r.offset := by cases r <;> decide

theorem toNat_reDisp_add (r : Register) : (r.reDisp.toInt64.toUInt64 + 8).toNat = r.offset + 8 := by
  cases r <;> decide

theorem toNat_imDisp (r : Register) : r.imDisp.toInt64.toUInt64.toNat = r.offset + 8 := by cases r <;> decide

end Register

namespace X86.Machine

/-- `rdi` points at the complex registers, at an address with which `addpd` can work. -/
structure AtRegisters (m : Machine α) : Prop where
  rdi : m.rdi = m.base
  aligned : m.base % 16 = 0

theorem AtRegisters.frame {m m' : Machine α} (h : m.AtRegisters) (hrdi : m'.rdi = m.rdi := by rfl)
    (hbase : m'.base = m.base := by rfl) : m'.AtRegisters :=
  ⟨by rw [hrdi, hbase, h.rdi], by rw [hbase, h.aligned]⟩

theorem AtRegisters.address_sub {m : Machine α} (h : m.AtRegisters) (disp : Int32) :
    m.address disp - m.base = disp.toInt64.toUInt64 := by
  rw [address, h.rdi, UInt64.add_comm, UInt64.add_sub_cancel]

theorem AtRegisters.address_add_sub {m : Machine α} (h : m.AtRegisters) (disp : Int32) :
    m.address disp + 8 - m.base = disp.toInt64.toUInt64 + 8 := by
  rw [address, h.rdi, UInt64.add_assoc, UInt64.add_comm, UInt64.add_sub_cancel]

section Access

variable {m : Machine α} (h : m.AtRegisters) {name : Register}
include h

theorem load?_re : m.load? (m.address name.reDisp) = some (m.registers.get name).re := by
  rw [load?, h.address_sub, name.toNat_reDisp, Registers.word?_offset]

theorem load?_re_add : m.load? (m.address name.reDisp + 8) = some (m.registers.get name).im := by
  rw [load?, h.address_add_sub, name.toNat_reDisp_add, Registers.word?_offset_add]

theorem load?_im : m.load? (m.address name.imDisp) = some (m.registers.get name).im := by
  rw [load?, h.address_sub, name.toNat_imDisp, Registers.word?_offset_add]

theorem store?_re (x : α) :
    m.store? (m.address name.reDisp) x = some { m with registers := m.registers.setRe name x } := by
  rw [store?, h.address_sub, name.toNat_reDisp, Registers.setWord?_offset, Option.map_some]

theorem store?_re_add (x : α) :
    m.store? (m.address name.reDisp + 8) x = some { m with registers := m.registers.setIm name x } := by
  rw [store?, h.address_add_sub, name.toNat_reDisp_add, Registers.setWord?_offset_add, Option.map_some]

theorem store?_im (x : α) :
    m.store? (m.address name.imDisp) x = some { m with registers := m.registers.setIm name x } := by
  rw [store?, h.address_sub, name.toNat_imDisp, Registers.setWord?_offset_add, Option.map_some]

theorem address_reDisp_mod : m.address name.reDisp % 16 = 0 := by
  have hdisp := name.toNat_reDisp
  have haligned := congrArg UInt64.toNat h.aligned
  apply UInt64.toNat.inj
  rw [address, h.rdi, UInt64.toNat_mod, UInt64.toNat_add, hdisp]
  rw [UInt64.toNat_mod] at haligned
  simp only [UInt64.reduceToNat, Register.offset] at haligned ⊢
  omega

variable [Scalar α]

theorem exec_loadPair {x : Xmm} : m.exec (.memory .loadPair x name.reDisp) =
    some (m.setVector x ⟨some (m.registers.get name).re, some (m.registers.get name).im⟩) := by
  simp only [exec, execMemory, load?_re h, load?_re_add h, Option.bind_eq_bind, Option.bind_some]

theorem exec_addPair {x : Xmm} {u v : α} (hx : m.vectors.get x = ⟨some u, some v⟩) :
    m.exec (.memory .addPair x name.reDisp) =
      some (m.setVector x ⟨some (u + (m.registers.get name).re), some (v + (m.registers.get name).im)⟩) := by
  simp only [exec, execMemory, address_reDisp_mod h, load?_re h, load?_re_add h, hx, ne_eq, not_true_eq_false,
    if_false, Option.bind_eq_bind, Option.bind_some]

theorem exec_storePair {x : Xmm} {u v : α} (hx : m.vectors.get x = ⟨some u, some v⟩) :
    m.exec (.memory .storePair x name.reDisp) = some { m with registers := m.registers.set name ⟨u, v⟩ } := by
  have hnext : ({ m with registers := m.registers.setRe name u } : Machine α).AtRegisters := h.frame
  simp only [exec, execMemory, hx, store?_re h, Option.bind_eq_bind, Option.bind_some]
  exact (store?_re_add hnext v).trans (by rw [Registers.setIm_setRe])

theorem exec_loadLow_re {x : Xmm} : m.exec (.memory .loadLow x name.reDisp) =
    some (m.setVector x ⟨some (m.registers.get name).re, some Scalar.zero⟩) := by
  simp only [exec, execMemory, load?_re h, Option.bind_eq_bind, Option.bind_some]

theorem exec_loadLow_im {x : Xmm} : m.exec (.memory .loadLow x name.imDisp) =
    some (m.setVector x ⟨some (m.registers.get name).im, some Scalar.zero⟩) := by
  simp only [exec, execMemory, load?_im h, Option.bind_eq_bind, Option.bind_some]

theorem exec_storeLow_re {x : Xmm} {u : α} (hx : (m.vectors.get x).low = some u) :
    m.exec (.memory .storeLow x name.reDisp) = some { m with registers := m.registers.setRe name u } := by
  simp only [exec, execMemory, hx, store?_re h, Option.bind_eq_bind, Option.bind_some]

theorem exec_storeLow_im {x : Xmm} {u : α} (hx : (m.vectors.get x).low = some u) :
    m.exec (.memory .storeLow x name.imDisp) = some { m with registers := m.registers.setIm name u } := by
  simp only [exec, execMemory, hx, store?_im h, Option.bind_eq_bind, Option.bind_some]

end Access

variable [Scalar α] {m : Machine α}

theorem exec_copyLow {target source : Xmm} {v : α} (hsource : (m.vectors.get source).low = some v) :
    m.exec (.vector .copyLow target source) =
      some (m.setVector target { m.vectors.get target with low := some v }) := by
  simp only [exec, execVector, lowLane?, hsource, Option.bind_eq_bind, Option.bind_some]

def value : VectorOp → α → α → α
  | .copyLow, _, v => v
  | .mulLow, u, v => u * v
  | .addLow, u, v => u + v
  | .subLow, u, v => u - v

theorem exec_vector (op : VectorOp) {target source : Xmm} {u v : α} (htarget : (m.vectors.get target).low = some u)
    (hsource : (m.vectors.get source).low = some v) :
    m.exec (.vector op target source) =
      some (m.setVector target { m.vectors.get target with low := some (value op u v) }) := by
  cases op <;> simp only [exec, execVector, lowLane?, value, htarget, hsource, Option.bind_eq_bind, Option.bind_some]

/-! ## One instruction -/

/-- The four parts that a product is made of are loaded before anything is stored. -/
theorem steps_loads (h : m.AtRegisters) (source target : Register) :
    ∃ v, m.steps [.memory .loadLow .xmm0 source.reDisp, .memory .loadLow .xmm1 source.imDisp,
        .memory .loadLow .xmm2 target.reDisp, .memory .loadLow .xmm3 target.imDisp] = some { m with vectors := v } ∧
      v.xmm0.low = some (m.registers.get source).re ∧ v.xmm1.low = some (m.registers.get source).im ∧
      v.xmm2.low = some (m.registers.get target).re ∧ v.xmm3.low = some (m.registers.get target).im := by
  refine ⟨{ m.vectors with
    xmm0 := ⟨some (m.registers.get source).re, some Scalar.zero⟩
    xmm1 := ⟨some (m.registers.get source).im, some Scalar.zero⟩
    xmm2 := ⟨some (m.registers.get target).re, some Scalar.zero⟩
    xmm3 := ⟨some (m.registers.get target).im, some Scalar.zero⟩ }, ?_, rfl, rfl, rfl, rfl⟩
  refine steps_cons_eq_some.2 ⟨_, exec_loadLow_re h, ?_⟩
  refine steps_cons_eq_some.2 ⟨_, exec_loadLow_im h.frame, ?_⟩
  refine steps_cons_eq_some.2 ⟨_, exec_loadLow_re h.frame, ?_⟩
  refine steps_cons_eq_some.2 ⟨_, exec_loadLow_im h.frame, ?_⟩
  rfl

/-- The processor with other values in the low lanes of `xmm4` and `xmm5`. -/
def working (m : Machine α) (u : α) (v : Option α) : Machine α :=
  { m with vectors := { m.vectors with
      xmm4 := { m.vectors.xmm4 with low := some u }
      xmm5 := { m.vectors.xmm5 with low := v } } }

/-- The real part of a product is computed in `xmm4` and `xmm5`, and the four parts stay. -/
theorem steps_real (h : m.AtRegisters) (target : Register) {a b c d : α} (h0 : m.vectors.xmm0.low = some a)
    (h1 : m.vectors.xmm1.low = some b) (h2 : m.vectors.xmm2.low = some c) (h3 : m.vectors.xmm3.low = some d) :
    ∃ v, m.steps [.vector .copyLow .xmm4 .xmm0, .vector .mulLow .xmm4 .xmm2, .vector .copyLow .xmm5 .xmm1,
        .vector .mulLow .xmm5 .xmm3, .vector .subLow .xmm4 .xmm5, .memory .storeLow .xmm4 target.reDisp] =
        some { m with vectors := v, registers := m.registers.setRe target (a * c - b * d) } ∧
      v.xmm0.low = some a ∧ v.xmm1.low = some b ∧ v.xmm2.low = some c ∧ v.xmm3.low = some d := by
  refine ⟨(m.working (a * c - b * d) (some (b * d))).vectors, ?_, h0, h1, h2, h3⟩
  refine steps_cons_eq_some.2 ⟨m.working a m.vectors.xmm5.low, exec_copyLow h0, ?_⟩
  refine steps_cons_eq_some.2 ⟨m.working (a * c) m.vectors.xmm5.low, exec_vector .mulLow rfl h2, ?_⟩
  refine steps_cons_eq_some.2 ⟨m.working (a * c) (some b), exec_copyLow h1, ?_⟩
  refine steps_cons_eq_some.2 ⟨m.working (a * c) (some (b * d)), exec_vector .mulLow rfl h3, ?_⟩
  refine steps_cons_eq_some.2 ⟨m.working (a * c - b * d) (some (b * d)), exec_vector .subLow rfl rfl, ?_⟩
  refine steps_cons_eq_some.2 ⟨_, exec_storeLow_re h.frame rfl, ?_⟩
  rfl

/-- The imaginary part of a product is computed over the parts of the target. -/
theorem steps_imaginary (h : m.AtRegisters) (target : Register) {a b c d : α} (h0 : m.vectors.xmm0.low = some a)
    (h1 : m.vectors.xmm1.low = some b) (h2 : m.vectors.xmm2.low = some c) (h3 : m.vectors.xmm3.low = some d) :
    ∃ v, m.steps [.vector .mulLow .xmm3 .xmm0, .vector .mulLow .xmm2 .xmm1, .vector .addLow .xmm2 .xmm3,
        .memory .storeLow .xmm2 target.imDisp] =
      some { m with vectors := v, registers := m.registers.setIm target (c * b + d * a) } := by
  refine ⟨{ m.vectors with
    xmm2 := { m.vectors.xmm2 with low := some (c * b + d * a) }
    xmm3 := { m.vectors.xmm3 with low := some (d * a) } }, ?_⟩
  refine steps_cons_eq_some.2 ⟨_, exec_vector .mulLow h3 h0, ?_⟩
  refine steps_cons_eq_some.2 ⟨_, exec_vector .mulLow h2 h1, ?_⟩
  refine steps_cons_eq_some.2 ⟨_, exec_vector .addLow rfl rfl, ?_⟩
  refine steps_cons_eq_some.2 ⟨_, exec_storeLow_im h.frame rfl, ?_⟩
  rfl

end X86.Machine

/-- What the machine code of an instruction computes: the operands of a sum, and of the products in a real part,
are the other way round than in `Instruction.run`. -/
def Instruction.native [Scalar α] (i : Instruction) (r : Registers α) : Registers α :=
  let source := r.get i.source
  let target := r.get i.target
  match i.op with
  | .assign => r.set i.target source
  | .add => r.set i.target (source.add target)
  | .multiply =>
    r.set i.target
      ⟨source.re * target.re - source.im * target.im, target.re * source.im + target.im * source.re⟩

theorem Instruction.native_eq_run [Scalar α] [CommutativeScalar α] (i : Instruction) (r : Registers α) :
    i.native r = i.run r := by
  obtain ⟨op, source, target⟩ := i
  cases op with
  | assign => rfl
  | add =>
    simp only [native, run, Complex.add]
    rw [CommutativeScalar.add_comm (r.get source).re, CommutativeScalar.add_comm (r.get source).im]
  | multiply =>
    simp only [native, run, Complex.mul]
    rw [CommutativeScalar.mul_comm (r.get source).re, CommutativeScalar.mul_comm (r.get source).im (r.get target).im]

namespace X86.Machine

variable [Scalar α] {m : Machine α}

/-- **The machine code of an instruction** changes the complex registers as `Instruction.native` does, and vector
registers. -/
theorem steps_lower (h : m.AtRegisters) (i : Instruction) :
    ∃ v, m.steps i.lower = some { m with vectors := v, registers := i.native m.registers } := by
  obtain ⟨op, source, target⟩ := i
  cases op with
  | assign =>
    refine ⟨{ m.vectors with xmm0 := ⟨some (m.registers.get source).re, some (m.registers.get source).im⟩ }, ?_⟩
    refine steps_cons_eq_some.2 ⟨_, exec_loadPair h, ?_⟩
    refine steps_cons_eq_some.2 ⟨_, exec_storePair h.frame rfl, ?_⟩
    rfl
  | add =>
    refine ⟨{ m.vectors with
      xmm0 := ⟨some ((m.registers.get source).re + (m.registers.get target).re),
        some ((m.registers.get source).im + (m.registers.get target).im)⟩ }, ?_⟩
    refine steps_cons_eq_some.2 ⟨_, exec_loadPair h, ?_⟩
    refine steps_cons_eq_some.2 ⟨_, exec_addPair h.frame rfl, ?_⟩
    refine steps_cons_eq_some.2 ⟨_, exec_storePair h.frame rfl, ?_⟩
    rfl
  | multiply =>
    have hat (v : VectorFile α) (r : Registers α) : ({ m with vectors := v, registers := r } : Machine α).AtRegisters :=
      h.frame
    obtain ⟨v1, hloads, h0, h1, h2, h3⟩ := steps_loads h source target
    obtain ⟨v2, hreal, h0, h1, h2, h3⟩ := steps_real (hat v1 m.registers) target h0 h1 h2 h3
    obtain ⟨v3, himaginary⟩ := steps_imaginary (hat v2 (m.registers.setRe target
      ((m.registers.get source).re * (m.registers.get target).re -
        (m.registers.get source).im * (m.registers.get target).im))) target h0 h1 h2 h3
    rw [Registers.setIm_setRe] at himaginary
    exact ⟨v3, steps_append.2 ⟨_, hloads, steps_append.2 ⟨_, hreal, himaginary⟩⟩⟩

end X86.Machine

/-! ## Programs and routines -/

def Program.native [Scalar α] : Program → Registers α → Registers α
  | [], r => r
  | i :: rest, r => Program.native rest (i.native r)

theorem Program.native_eq_run [Scalar α] [CommutativeScalar α] (p : Program) (r : Registers α) :
    p.native r = p.run r := by
  induction p generalizing r with
  | nil => rfl
  | cons i rest ih => rw [native, run, ih, Instruction.native_eq_run]

/-- The register in which a convention hands over the address of the complex registers. -/
def Convention.argument (convention : Convention) (m : Machine α) : UInt64 :=
  match convention with
  | .systemV => m.rdi
  | .win64 => m.rcx

def Convention.restoring : Convention → List Instr
  | systemV => []
  | win64 => [.popRdi]

def Program.front (p : Program) (convention : Convention) : List Instr :=
  convention.opening ++ (p.flatMap Instruction.lower ++ convention.restoring)

theorem Program.lower_eq (p : Program) (convention : Convention) :
    p.lower convention = p.front convention ++ [.ret] := by
  cases convention <;> simp [lower, front, Convention.opening, Convention.closing, Convention.restoring]

theorem isData_lower (i : Instruction) : ∀ j ∈ i.lower, j.IsData := by
  obtain ⟨op, source, target⟩ := i
  cases op <;> simp [Instruction.lower, Instr.IsData]

theorem isData_flatMap_lower (p : Program) : ∀ j ∈ p.flatMap Instruction.lower, j.IsData := by
  intro j hj
  obtain ⟨i, -, hi⟩ := List.mem_flatMap.1 hj
  exact isData_lower i j hi

theorem ret_not_mem_front (p : Program) (convention : Convention) : .ret ∉ p.front convention := by
  intro h
  rw [Program.front, List.mem_append, List.mem_append] at h
  rcases h with h | h | h
  · cases convention <;> simp [Convention.opening] at h
  · exact isData_flatMap_lower p _ h
  · cases convention <;> simp [Convention.restoring] at h

namespace X86.Machine

/-- The processor at a call: the address of the complex registers is where the convention says, a multiple of
sixteen, and nothing was pushed. What is in the vector registers is left open. -/
structure Entered (convention : Convention) (m : Machine α) : Prop where
  argument : convention.argument m = m.base
  aligned : m.base % 16 = 0
  pushed : m.pushed = []

theorem entered_enter (convention : Convention) (r : Registers α) : (Machine.enter convention r).Entered convention :=
  ⟨by cases convention <;> rfl, (by decide : registersBase % 16 = 0), rfl⟩

variable [Scalar α] {m : Machine α}

theorem steps_flatMap_lower (h : m.AtRegisters) (p : Program) :
    ∃ v, m.steps (p.flatMap Instruction.lower) = some { m with vectors := v, registers := p.native m.registers } := by
  induction p generalizing m with
  | nil => exact ⟨_, rfl⟩
  | cons i rest ih =>
    obtain ⟨v1, hi⟩ := steps_lower h i
    have hat : ({ m with vectors := v1, registers := i.native m.registers } : Machine α).AtRegisters := h.frame
    obtain ⟨v, hrest⟩ := ih hat
    exact ⟨v, steps_append.2 ⟨_, hi, hrest⟩⟩

/-- **A routine** changes the complex registers and vector registers, and everything else is as before when it
comes to its `ret`. -/
theorem steps_front {convention : Convention} (h : m.Entered convention) (p : Program) :
    ∃ v, m.steps (p.front convention) = some { m with vectors := v, registers := p.native m.registers } := by
  cases convention with
  | systemV =>
    obtain ⟨v, hbody⟩ := steps_flatMap_lower ⟨h.argument, h.aligned⟩ p
    refine ⟨v, ?_⟩
    rw [Program.front, Convention.opening, Convention.restoring, List.append_nil]
    exact hbody
  | win64 =>
    have hat : ({ m with rdi := m.rcx, rsp := m.rsp - 8, pushed := m.rdi :: m.pushed } : Machine α).AtRegisters :=
      ⟨h.argument, h.aligned⟩
    obtain ⟨v, hbody⟩ := steps_flatMap_lower hat p
    refine ⟨v, ?_⟩
    refine steps_append.2 ⟨{ m with rdi := m.rcx, rsp := m.rsp - 8, pushed := m.rdi :: m.pushed }, rfl, ?_⟩
    refine steps_append.2 ⟨_, hbody, ?_⟩
    -- the word that is popped is the one the opening pushed
    refine steps_cons_eq_some.2 ⟨{ m with vectors := v, registers := p.native m.registers }, ?_, rfl⟩
    simp only [exec, UInt64.sub_add_cancel]

theorem run_lower {convention : Convention} (h : m.Entered convention) (p : Program) :
    ∃ v, m.run (p.lower convention) = some { m with vectors := v, registers := p.native m.registers } := by
  obtain ⟨v, hfront⟩ := steps_front h p
  rw [p.lower_eq]
  exact ⟨v, run_ret hfront h.pushed []⟩

end X86.Machine

/-! ## From bytes to the interpreter -/

theorem routine?_code (p : Program) (convention : Convention) (rest : List UInt8) :
    routine? (p.code convention ++ rest) = some (p.lower convention) := by
  rw [Program.code, p.lower_eq]
  exact routine?_encodeAll (ret_not_mem_front p convention) rest

theorem Routine.Holds.call_eq [Scalar α] {u : Routine} {p : Program} (h : u.Holds p) (r : Registers α) :
    u.call r = p.native r := by
  have hbody : u.body = p.lower .native := by
    have hroutine := routine?_code p .native []
    rw [List.append_nil] at hroutine
    rw [Routine.body, h.code_eq, hroutine, Option.getD_some]
  obtain ⟨v, hrun⟩ := Machine.run_lower (Machine.entered_enter .native r) p
  rw [Routine.call, callBody, hbody, hrun]
  rfl

/-- **Compiled code computes what the interpreter computes.** The bytes of a routine decode, and from any state in
which the caller hands over the complex registers, whatever the vector registers hold, the processor comes to the
`ret` with the registers the interpreter leaves. So repeated calls of a compiled program are steps of the
interpreter. -/
theorem run_assemble_eq_interpreter [Scalar α] [CommutativeScalar α] (p : Program) (convention : Convention)
    (m : Machine α) (h : m.Entered convention) :
    (∃ code body final, p.assemble convention = .ok code ∧ routine? code = some body ∧ m.run body = some final ∧
      final.registers = p.run m.registers) ∧
    ∀ (host : Host) (live live' : Nat) (u : Routine), p.compile host live = (.ok u, live') →
      ∀ (n : Nat) (r : Registers α), Nat.repeat u.call n r = Nat.repeat p.run n r := by
  constructor
  · obtain ⟨v, hrun⟩ := Machine.run_lower h p
    have hroutine := routine?_code p convention []
    rw [List.append_nil] at hroutine
    exact ⟨p.code convention, p.lower convention, _, p.assemble_eq convention, hroutine, hrun, p.native_eq_run _⟩
  · intro host live live' u hcompile n r
    have hcall : (u.call : Registers α → Registers α) = p.run := by
      rcases p.compile_cases host live with ⟨fault, -, hfault⟩ | ⟨-, u', hok, hholds⟩
      · rw [hfault] at hcompile
        cases hcompile
      · rw [hok] at hcompile
        cases hcompile
        funext r
        rw [hholds.call_eq, p.native_eq_run]
    rw [hcall]

/-- The step `b := b² + a` over binary64 numbers, with ones in all vector registers and `rdi` in use by the
caller. -/
theorem run_assemble_quadratic :
    let p : Program := [⟨.multiply, .b, .b⟩, ⟨.add, .a, .b⟩]
    let ones : Lanes Float := ⟨some 1, some 1⟩
    let m : Machine Float :=
      { rdi := 7, rcx := 0x1000, rsp := 0x8000, base := 0x1000, registers := Registers.atPoint ⟨0.25, -0.5⟩,
        vectors := ⟨ones, ones, ones, ones, ones, ones, Vector.replicate 10 ones⟩, pushed := [] }
    m.Entered .win64 ∧
      (∃ code body final, p.assemble .win64 = .ok code ∧ routine? code = some body ∧ m.run body = some final ∧
        final.registers = p.run m.registers) ∧
      ∃ u, p.compile .standard 0 = (.ok u, 1) ∧
        ∀ (n : Nat) (r : Registers Float), Nat.repeat u.call n r = Nat.repeat p.run n r := by
  intro p ones m
  have hentered : m.Entered .win64 := ⟨rfl, by decide, rfl⟩
  obtain ⟨hrun, hcalls⟩ := run_assemble_eq_interpreter p .win64 m hentered
  have hgrant : Host.standard.fault? (p.sizeBound .native) = none := by decide
  rcases p.compile_cases .standard 0 with ⟨fault, hfault, -⟩ | ⟨-, u, hcompile, -⟩
  · rw [hgrant] at hfault
    cases hfault
  · exact ⟨hentered, hrun, u, hcompile, hcalls .standard 0 1 u hcompile⟩

end Orbit
