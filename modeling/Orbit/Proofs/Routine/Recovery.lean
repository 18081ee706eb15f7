import Orbit.Proofs.Routine.Listing
import Orbit.Proofs.Routine.Simulation

/-!
# Machine code determines the program

From the bytes of a routine both the program and the convention can be told, even if other bytes follow: the decoder
reads the machine instructions up to the `ret`, the first of them shows the convention, and the others fall into those
of the instructions in one way only.

* `Instruction.lower_append_inj` : the machine instructions of one instruction, in front of any others. An assignment
  and a sum begin with the same load, so that the second one has to tell;
* `Program.flatMap_lower_inj`, `Program.lower_inj` : the same for a program and for a routine;
* `Program.code_isPrefix_iff` : no routine is the beginning of another one;
* `Program.assemble_determines_program` : what follows for assembled and compiled code.
-/

namespace Orbit

open X86

theorem Register.reDisp_inj {r s : Register} : r.reDisp = s.reDisp ↔ r = s := by
  cases r <;> cases s <;> decide

namespace Instruction

theorem op_eq_of_lower_append {i j : Instruction} {xs ys : List Instr} (h : i.lower ++ xs = j.lower ++ ys) :
    i.op = j.op := by
  obtain ⟨op, source, target⟩ := i
  obtain ⟨op', source', target'⟩ := j
  cases op <;> cases op' <;> simp [lower] at h ⊢

theorem lower_append_inj {i j : Instruction} {xs ys : List Instr} (h : i.lower ++ xs = j.lower ++ ys) :
    i = j ∧ xs = ys := by
  have hop := op_eq_of_lower_append h
  obtain ⟨op, source, target⟩ := i
  obtain ⟨op', source', target'⟩ := j
  obtain rfl : op = op' := hop
  have hrest : source = source' ∧ target = target' ∧ xs = ys := by
    cases op with
    | assign | add => simpa [lower, Register.reDisp_inj] using h
    | multiply =>
      simp only [lower, List.cons_append, List.nil_append, List.cons.injEq, Instr.memory.injEq, true_and,
        Register.reDisp_inj] at h
      obtain ⟨hsource, -, htarget, -, -, -, hrest⟩ := h
      exact ⟨hsource, htarget, hrest⟩
  obtain ⟨rfl, rfl, rfl⟩ := hrest
  exact ⟨rfl, rfl⟩

end Instruction

namespace Program

theorem flatMap_lower_inj {p q : Program} (h : p.flatMap Instruction.lower = q.flatMap Instruction.lower) : p = q := by
  induction p generalizing q with
  | nil =>
    cases q with
    | nil => rfl
    | cons j q =>
      rw [List.flatMap_nil, List.flatMap_cons] at h
      exact absurd (List.append_eq_nil_iff.1 h.symm).1 j.lower_ne_nil
  | cons i p ih =>
    cases q with
    | nil =>
      rw [List.flatMap_nil, List.flatMap_cons] at h
      exact absurd (List.append_eq_nil_iff.1 h).1 i.lower_ne_nil
    | cons j q =>
      rw [List.flatMap_cons, List.flatMap_cons] at h
      obtain ⟨rfl, hrest⟩ := Instruction.lower_append_inj h
      rw [ih hrest]

/-- Only the convention that hands over the registers elsewhere saves `rdi`. -/
theorem pushRdi_mem_lower (p : Program) (convention : Convention) :
    .pushRdi ∈ p.lower convention ↔ convention = .win64 := by
  have hbody : .pushRdi ∉ p.flatMap Instruction.lower := isData_flatMap_lower p .pushRdi
  cases convention <;> simp [lower, Convention.opening, Convention.closing, hbody]

theorem lower_inj {p q : Program} {c d : Convention} : p.lower c = q.lower d ↔ p = q ∧ c = d := by
  constructor
  · intro h
    have hconvention : c = d := by
      have hc := pushRdi_mem_lower p c
      rw [h, pushRdi_mem_lower q d] at hc
      cases c <;> cases d <;> simp_all
    subst hconvention
    have hbody := List.append_cancel_left (List.append_cancel_right h)
    exact ⟨flatMap_lower_inj hbody, rfl⟩
  · rintro ⟨rfl, rfl⟩
    rfl

theorem code_isPrefix_iff {p q : Program} {c d : Convention} : p.code c <+: q.code d ↔ p = q ∧ c = d := by
  constructor
  · rintro ⟨rest, hrest⟩
    -- the decoder stops at the first `ret`, whatever follows
    have hp := routine?_code p c rest
    have hq := routine?_code q d []
    rw [hrest, ← List.append_nil (q.code d), hq, Option.some.injEq] at hp
    exact lower_inj.1 hp.symm
  · rintro ⟨rfl, rfl⟩
    exact List.prefix_rfl

theorem code_inj {p q : Program} {c d : Convention} : p.code c = q.code d ↔ p = q ∧ c = d := by
  constructor
  · intro h
    exact code_isPrefix_iff.1 (h ▸ List.prefix_rfl)
  · rintro ⟨rfl, rfl⟩
    rfl

/-- **Machine code determines the program.** An assembled routine is the beginning of another one only if program and
convention are the same, and then it is the whole of it. So different programs never share their code, compiled or
assembled, and compiling a program again, at any time and with any answers of the system, gives the same bytes. -/
theorem assemble_determines_program (p q : Program) (c d : Convention) :
    (∃ code code', p.assemble c = .ok code ∧ q.assemble d = .ok code' ∧ (code <+: code' ↔ p = q ∧ c = d) ∧
      (code = code' ↔ p = q ∧ c = d)) ∧
    ∀ host live u live' host₂ live₂ v live₂', p.compile host live = (.ok u, live') →
      q.compile host₂ live₂ = (.ok v, live₂') → (u.code <+: v.code ↔ p = q) ∧ (u.code = v.code ↔ p = q) := by
  refine ⟨⟨_, _, p.assemble_eq c, q.assemble_eq d, code_isPrefix_iff, code_inj⟩, ?_⟩
  intro host live u live' host₂ live₂ v live₂' hu hv
  rw [(holds_of_compile hu).code_eq, (holds_of_compile hv).code_eq, code_isPrefix_iff, code_inj]
  simp only [and_true, and_self]

/-- An assignment and a sum of the same registers have the first load in common and nothing else. -/
theorem assemble_determines_program_load :
    let p : Program := [⟨.assign, .a, .b⟩]
    let q : Program := [⟨.add, .a, .b⟩]
    (∃ code code', p.assemble .systemV = .ok code ∧ q.assemble .systemV = .ok code' ∧ ¬ code <+: code' ∧
      code ≠ code' ∧ code.take 5 = code'.take 5) ∧
    ∃ u v w, p.compile .standard 0 = (.ok u, 1) ∧ q.compile .standard 1 = (.ok v, 2) ∧
      p.compile .standard 2 = (.ok w, 3) ∧ ¬ u.code <+: v.code ∧ u.code = w.code := by
  intro p q
  have hne : p ≠ q := by decide
  obtain ⟨⟨code, code', hp, hq, hbegins, hsame⟩, hcompiled⟩ := assemble_determines_program p q .systemV .systemV
  have hcommon : code.take 5 = code'.take 5 := by
    rw [Except.ok.inj (hp.symm.trans (p.assemble_eq .systemV)), Except.ok.inj (hq.symm.trans (q.assemble_eq .systemV))]
    rfl
  obtain ⟨u, hu⟩ := exists_compile_of_granted (show Host.standard.fault? (p.sizeBound .native) = none by decide) 0
  obtain ⟨v, hv⟩ := exists_compile_of_granted (show Host.standard.fault? (q.sizeBound .native) = none by decide) 1
  obtain ⟨w, hw⟩ := exists_compile_of_granted (show Host.standard.fault? (p.sizeBound .native) = none by decide) 2
  have hagain := (assemble_determines_program p p .systemV .systemV).2 _ _ u _ _ _ w _ hu hw
  refine ⟨⟨code, code', hp, hq, ?_, ?_, hcommon⟩, u, v, w, hu, hv, hw, ?_, hagain.2.2 rfl⟩
  · exact fun h => hne (hbegins.1 h).1
  · exact fun h => hne (hsame.1 h).1
  · exact fun h => hne ((hcompiled _ _ u _ _ _ v _ hu hv).1.1 h)

end Program

end Orbit
