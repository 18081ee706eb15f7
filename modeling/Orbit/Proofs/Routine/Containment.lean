import Orbit.Proofs.Routine.Simulation

/-!
# Compiled code stays inside its registers

Every instruction of a routine is executed in a state that is reached from the call (`steps_of_append`), and at each
of them the memory operand lies in the 64 bytes of the complex registers: the displacements do so by themselves
(`Instr.Inside`), and `rdi` points at the registers from the opening to the closing (`rdi_of_steps_front`). That a
lane is written before it is read is seen on a processor whose lanes are empty: it would stop there.

* `MemoryOp.width`, `Instr.Inside` : the size of a memory operand, and where it may lie;
* `Machine.Contained m i` : the memory operand of `i`, in the state `m`, lies in the complex registers;
* `assemble_contained` : what holds along every run of a routine.
-/

namespace Orbit

open X86

/-! ## Memory operands -/

def X86.MemoryOp.width : MemoryOp → Nat
  | .loadPair | .storePair | .addPair => 16
  | .loadLow | .storeLow => 8

/-- A memory operand lies in the 64 bytes behind `rdi`, and at a multiple of sixteen if the instruction asks for it. -/
def X86.Instr.Inside : Instr → Prop
  | .memory op _ disp =>
    0 ≤ disp.toInt ∧ disp.toInt + op.width ≤ 64 ∧ (op = .addPair → disp.toInt % 16 = 0)
  | _ => True

theorem Register.toInt_reDisp (r : Register) : r.reDisp.toInt = r.offset := by cases r <;> decide

theorem Register.toInt_imDisp (r : Register) : r.imDisp.toInt = r.offset + 8 := by cases r <;> decide

theorem Register.offset_le (r : Register) : r.offset + 16 ≤ 64 := by cases r <;> decide

theorem Register.offset_mod (r : Register) : r.offset % 16 = 0 := by cases r <;> decide

theorem inside_reDisp (op : MemoryOp) (x : Xmm) (r : Register) : (Instr.memory op x r.reDisp).Inside := by
  have hle := r.offset_le
  have hmod := r.offset_mod
  have hwidth : op.width ≤ 16 := by cases op <;> decide
  simp only [Instr.Inside, r.toInt_reDisp]
  omega

theorem inside_imDisp {op : MemoryOp} (hop : op = .loadLow ∨ op = .storeLow) (x : Xmm) (r : Register) :
    (Instr.memory op x r.imDisp).Inside := by
  have hle := r.offset_le
  have hwidth : op.width = 8 := by rcases hop with rfl | rfl <;> rfl
  have hne : op ≠ .addPair := by rcases hop with rfl | rfl <;> decide
  simp only [Instr.Inside, r.toInt_imDisp, hwidth]
  refine ⟨by omega, by omega, fun h => absurd h hne⟩

theorem inside_vector (op : VectorOp) (target source : Xmm) : (Instr.vector op target source).Inside := trivial

theorem inside_lower (i : Instruction) : ∀ j ∈ i.lower, j.Inside := by
  obtain ⟨op, source, target⟩ := i
  cases op <;> simp [Instruction.lower, inside_reDisp, inside_imDisp, inside_vector]

namespace Program

theorem front_systemV (p : Program) : p.front .systemV = p.flatMap Instruction.lower := List.append_nil _

theorem front_win64 (p : Program) :
    p.front .win64 = .pushRdi :: .movRdiRcx :: (p.flatMap Instruction.lower ++ [.popRdi]) := rfl

end Program

theorem inside_front (p : Program) (convention : Convention) : ∀ j ∈ p.front convention, j.Inside := by
  intro j hj
  rw [Program.front, List.mem_append, List.mem_append, List.mem_flatMap] at hj
  rcases hj with hj | ⟨i, -, hj⟩ | hj
  · cases convention <;> simp only [Convention.opening, List.mem_cons, List.not_mem_nil, or_false] at hj
    rcases hj with rfl | rfl <;> trivial
  · exact inside_lower i j hj
  · cases convention <;> simp only [Convention.restoring, List.mem_cons, List.not_mem_nil, or_false] at hj
    subst hj
    trivial

namespace X86

/-- The memory operand of an instruction is `[base + disp]` and lies in the complex registers, at a multiple of
sixteen from their start if the instruction asks for it. -/
def Machine.Contained {α : Type} (m : Machine α) : Instr → Prop
  | .memory op _ disp =>
    ∃ distance : Nat, disp.toInt = distance ∧ m.address disp = m.base + UInt64.ofNat distance ∧
      distance + op.width ≤ 64 ∧ (op = .addPair → distance % 16 = 0)
  | _ => True

def Instr.SetsRdi : Instr → Prop
  | movRdiRcx | popRdi => True
  | _ => False

theorem toNat_disp {disp : Int32} (h : 0 ≤ disp.toInt) : disp.toInt64.toUInt64.toNat = disp.toInt.toNat := by
  have hle : 0 ≤ disp.toInt64 := by
    rw [Int64.le_iff_toInt_le, Int32.toInt_toInt64]
    exact h
  rw [Int64.toNat_toUInt64_of_le hle, Int64.toNatClampNeg, Int32.toInt_toInt64]

namespace Machine

variable {α : Type} {m : Machine α}

theorem contained_of_inside {i : Instr} (hrdi : ∀ op x disp, i = .memory op x disp → m.rdi = m.base)
    (hi : i.Inside) : m.Contained i := by
  cases i with
  | memory op x disp =>
    obtain ⟨hpos, hle, halign⟩ := hi
    have hdisp := toNat_disp hpos
    refine ⟨disp.toInt.toNat, by omega, ?_, by omega, fun hop => ?_⟩
    · rw [address, hrdi op x disp rfl, ← hdisp, UInt64.ofNat_toNat]
    · have := halign hop
      omega
  | vector op target source => trivial
  | pushRdi => trivial
  | movRdiRcx => trivial
  | popRdi => trivial
  | ret => trivial

/-! ## States on the way -/

variable [Scalar α]

/-- Instructions that are executed one after the other find a state in which each of them is executed. -/
theorem steps_of_append {before after : List Instr} {i : Instr} {final : Machine α}
    (h : m.steps (before ++ i :: after) = some final) :
    ∃ s s', m.steps before = some s ∧ s.exec i = some s' := by
  obtain ⟨s, hbefore, hrest⟩ := steps_append.1 h
  obtain ⟨s', hi, -⟩ := steps_cons_eq_some.1 hrest
  exact ⟨s, s', hbefore, hi⟩

end Machine

end X86

/-- An instruction that is not in the tail of a list is reached through the body alone. -/
theorem exists_eq_of_append_eq {body tail before after : List Instr} {i : Instr}
    (h : body ++ tail = before ++ i :: after) (hi : i ∉ tail) : ∃ rest, body = before ++ i :: rest := by
  rcases List.append_eq_append_iff.1 h with ⟨as, -, htail⟩ | ⟨bs, hbody, hrest⟩
  · exact absurd (by rw [htail]; simp) hi
  · cases bs with
    | nil => exact absurd (by rw [← List.nil_append tail, ← hrest]; simp) hi
    | cons j bs =>
      obtain ⟨rfl, -⟩ := List.cons.inj hrest
      exact ⟨bs, hbody⟩

section Way

variable {α : Type} [Scalar α] {m s : Machine α} {before after : List Instr} {p : Program}

/-- Before an instruction of the body, only instructions on vector registers and memory were executed. -/
theorem isData_of_flatMap_eq {i : Instr} (h : p.flatMap Instruction.lower = before ++ i :: after) :
    ∀ j ∈ before, j.IsData := by
  intro j hj
  refine isData_flatMap_lower p j ?_
  rw [h]
  exact List.mem_append_left _ hj

theorem rdi_of_steps_systemV {i : Instr} (hfront : p.front .systemV = before ++ i :: after)
    (hs : m.steps before = some s) : s.rdi = m.rdi := by
  rw [p.front_systemV] at hfront
  obtain ⟨v, r, rfl, -⟩ := Machine.steps_frame (isData_of_flatMap_eq hfront) hs
  rfl

/-- Where a memory instruction of a routine is executed, `rdi` points at the complex registers. -/
theorem rdi_of_steps_front {convention : Convention} (h : m.Entered convention) {op : MemoryOp} {x : Xmm}
    {disp : Int32} (hfront : p.front convention = before ++ .memory op x disp :: after)
    (hs : m.steps before = some s) : s.rdi = s.base := by
  cases convention with
  | systemV =>
    rw [rdi_of_steps_systemV hfront hs, (Machine.steps_fixed hs).1]
    exact h.argument
  | win64 =>
    rw [p.front_win64] at hfront
    -- the memory instruction comes after the two instructions of the opening
    cases before with
    | nil => cases hfront
    | cons j1 before =>
      cases before with
      | nil => cases hfront
      | cons j2 before =>
        simp only [List.cons_append, List.cons.injEq] at hfront
        obtain ⟨rfl, rfl, hfront⟩ := hfront
        obtain ⟨rest, hbody⟩ := exists_eq_of_append_eq hfront (by simp)
        obtain ⟨s1, h1, hs⟩ := Machine.steps_cons_eq_some.1 hs
        obtain ⟨s2, h2, hs⟩ := Machine.steps_cons_eq_some.1 hs
        cases h1
        cases h2
        obtain ⟨v, r, rfl, -⟩ := Machine.steps_frame (isData_of_flatMap_eq hbody) hs
        exact h.argument

end Way

/-! ## Routines -/

theorem not_setsRdi_systemV (p : Program) : ∀ i ∈ p.front .systemV, ¬ i.SetsRdi := by
  intro i hi
  rw [p.front_systemV] at hi
  have hdata := isData_flatMap_lower p i hi
  cases i <;> first | exact id | exact absurd hdata id

/-- A lane that a routine reads was written by it before: otherwise the processor would stop there if it started
with empty lanes. -/
theorem writes_before_reads {p : Program} {convention : Convention} {before after : List Instr} {i : Instr}
    (hfront : p.front convention = before ++ i :: after) {x : Xmm} {l : Lane} (hl : (x, l) ∈ i.reads) :
    ∃ j ∈ before, (x, l) ∈ j.writes := by
  have hentered := Machine.entered_enter convention (Registers.cleared : Registers Float)
  obtain ⟨v, hsteps⟩ := Machine.steps_front hentered p
  rw [hfront] at hsteps
  obtain ⟨s, s', hs, hi⟩ := Machine.steps_of_append hsteps
  exact Machine.exists_writes_of_steps hs (by cases x <;> cases l <;> rfl) (Machine.lane_of_exec hi hl)

/-- **Compiled code is contained.** The bytes of a routine decode to the last one, with the one `ret` at the end. The
routine runs to it with `rdi` and `rsp` as at the call. At every instruction on the way the memory operand lies in the
complex registers, the lanes that are read were written before, and the registers from `xmm6` on are those of the
caller. Under System V nothing writes `rdi`. -/
theorem assemble_contained {α : Type} [Scalar α] (p : Program) (convention : Convention) (m : Machine α)
    (h : m.Entered convention) :
    ∃ code front final, p.assemble convention = .ok code ∧ decodeAll? code = some (front ++ [.ret]) ∧ .ret ∉ front ∧
      code.getLast? = some 0xC3 ∧ m.run (front ++ [.ret]) = some final ∧ final.rdi = m.rdi ∧ final.rsp = m.rsp ∧
      final.vectors.upper = m.vectors.upper ∧ (convention = .systemV → ∀ i ∈ front, ¬ i.SetsRdi) ∧
      ∀ before i after, front = before ++ i :: after →
        (∃ s, m.steps before = some s ∧ s.base = m.base ∧ s.Contained i ∧ s.vectors.upper = m.vectors.upper ∧
          (convention = .systemV → s.rdi = m.rdi)) ∧
        ∀ lane ∈ i.reads, ∃ j ∈ before, lane ∈ j.writes := by
  obtain ⟨v, hfront⟩ := Machine.steps_front h p
  have hdecode : decodeAll? (p.code convention) = some (p.front convention ++ [.ret]) := by
    rw [Program.code, decodeAll?_encodeAll, p.lower_eq]
  have hlast : (p.code convention).getLast? = some 0xC3 := by
    rw [Program.code, p.lower_eq, encodeAll_append]
    exact List.getLast?_concat
  refine ⟨p.code convention, p.front convention, _, p.assemble_eq convention, hdecode, ret_not_mem_front p convention,
    hlast, Machine.run_ret hfront h.pushed [], rfl, rfl, (Machine.steps_fixed hfront).2, ?_, ?_⟩
  · rintro rfl
    exact not_setsRdi_systemV p
  · intro before i after hsplit
    rw [hsplit] at hfront
    obtain ⟨s, s', hs, -⟩ := Machine.steps_of_append hfront
    obtain ⟨hbase, hupper⟩ := Machine.steps_fixed hs
    refine ⟨⟨s, hs, hbase, ?_, hupper, ?_⟩, fun lane hlane => writes_before_reads hsplit hlane⟩
    · refine Machine.contained_of_inside ?_ ?_
      · rintro op x disp rfl
        exact rdi_of_steps_front h hsplit hs
      · exact inside_front p convention i (by rw [hsplit]; simp)
    · rintro rfl
      exact rdi_of_steps_systemV hsplit hs

/-- The product `d := d * d`, whose operands lie at the end of the complex registers, called with `rdi` in use and
nothing in the vector registers. -/
theorem assemble_contained_square :
    let p : Program := [⟨.multiply, .d, .d⟩]
    let m : Machine Float :=
      { rdi := 7, rcx := 0x1000, rsp := 0x8000, base := 0x1000, registers := Registers.cleared,
        vectors := VectorFile.unset, pushed := [] }
    m.Entered .win64 ∧
      ∃ code front final, p.assemble .win64 = .ok code ∧ decodeAll? code = some (front ++ [.ret]) ∧
        m.run (front ++ [.ret]) = some final ∧ final.rdi = 7 ∧ final.rsp = 0x8000 ∧
        ∀ before i after, front = before ++ i :: after → ∃ s, m.steps before = some s ∧ s.Contained i := by
  intro p m
  have hentered : m.Entered .win64 := ⟨rfl, by decide, rfl⟩
  obtain ⟨code, front, final, hcode, hdecode, -, -, hrun, hrdi, hrsp, -, -, hway⟩ :=
    assemble_contained p .win64 m hentered
  refine ⟨hentered, code, front, final, hcode, hdecode, hrun, hrdi, hrsp, ?_⟩
  intro before i after hsplit
  obtain ⟨⟨s, hs, -, hcontained, -⟩, -⟩ := hway before i after hsplit
  exact ⟨s, hs, hcontained⟩

end Orbit
