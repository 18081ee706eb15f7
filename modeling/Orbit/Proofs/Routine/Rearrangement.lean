import Mathlib.Logic.Relation
import Orbit.Proofs.Program.Dataflow
import Orbit.Proofs.Routine.Recovery

/-!
# The order of independent instructions does not matter

Two neighbouring instructions can change places if neither writes what the other reads or writes, and an assignment of
a register to itself can come and go. Programs that are related by such changes do the same, interpreted or compiled:
what an instruction computes depends on the two registers it reads, and its machine code loads them before it uses a
vector register.

* `Instruction.Independent i j` : neither writes a register of the other;
* `Program.Rearranges`, `Program.Rearranged` : one change, and any number of them;
* `Meaning.compiled`, `Program.native_eq_apply` : the meaning that machine code gives to operations;
* `Program.Rearranged.apply_eq` : rearranged programs do the same under every meaning in which an assignment copies;
* `Machine.Leaves m code r` : the code, called in the state `m`, comes to its `ret` with the registers `r`.
-/

namespace Orbit

open X86

variable {α : Type}

/-! ## Changes of a program -/

/-- Neither instruction writes a register that the other reads or writes. -/
structure Instruction.Independent (i j : Instruction) : Prop where
  targets : i.target ≠ j.target
  target_source : i.target ≠ j.source
  source_target : j.target ≠ i.source

theorem Instruction.Independent.symm {i j : Instruction} (h : i.Independent j) : j.Independent i :=
  ⟨h.targets.symm, h.source_target, h.target_source⟩

/-- One change of a program: neighbours that are independent change places, or an assignment of a register to itself
is put in or taken out. -/
inductive Program.Rearranges : Program → Program → Prop
  | swap (front back : Program) {i j : Instruction} (h : i.Independent j) :
      Rearranges (front ++ i :: j :: back) (front ++ j :: i :: back)
  | insert (front back : Program) (x : Register) : Rearranges (front ++ back) (front ++ ⟨.assign, x, x⟩ :: back)
  | delete (front back : Program) (x : Register) : Rearranges (front ++ ⟨.assign, x, x⟩ :: back) (front ++ back)

def Program.Rearranged : Program → Program → Prop := Relation.ReflTransGen Program.Rearranges

/-! ## What the changes keep -/

section Apply

variable (meaning : Meaning α) {i j : Instruction}

/-- What an instruction writes is the same before and after an independent one. -/
theorem Instruction.Independent.get_target (h : i.Independent j) (r : Registers α) :
    (j.apply meaning (i.apply meaning r)).get i.target = (i.apply meaning (j.apply meaning r)).get i.target := by
  rw [j.get_apply_ne meaning _ h.targets, i.get_apply_self, i.get_apply_self, j.get_apply_ne meaning r h.targets,
    j.get_apply_ne meaning r h.source_target.symm]

theorem Instruction.Independent.apply_comm (h : i.Independent j) (r : Registers α) :
    j.apply meaning (i.apply meaning r) = i.apply meaning (j.apply meaning r) := by
  apply Registers.ext_get
  intro name
  by_cases hi : name = i.target
  · rw [hi]
    exact h.get_target meaning r
  · by_cases hj : name = j.target
    · rw [hj]
      exact (h.symm.get_target meaning r).symm
    · rw [j.get_apply_ne meaning _ hj, i.get_apply_ne meaning _ hi, i.get_apply_ne meaning _ hi,
        j.get_apply_ne meaning _ hj]

theorem Instruction.apply_assign_self (hassign : ∀ target source : Complex α, meaning .assign target source = source)
    (x : Register) (r : Registers α) : (⟨.assign, x, x⟩ : Instruction).apply meaning r = r := by
  apply Registers.ext_get
  intro name
  by_cases hname : name = x
  · rw [hname]
    exact (get_apply_self meaning ⟨.assign, x, x⟩ r).trans (hassign _ _)
  · exact get_apply_ne meaning ⟨.assign, x, x⟩ r hname

variable {p q : Program}

theorem Program.Rearranges.apply_eq (h : p.Rearranges q)
    (hassign : ∀ target source : Complex α, meaning .assign target source = source) (r : Registers α) :
    p.apply meaning r = q.apply meaning r := by
  cases h with
  | swap front back hij =>
    simp only [apply_append, apply]
    rw [hij.apply_comm]
  | insert front back x =>
    simp only [apply_append, apply]
    rw [Instruction.apply_assign_self meaning hassign]
  | delete front back x =>
    simp only [apply_append, apply]
    rw [Instruction.apply_assign_self meaning hassign]

/-- **Rearranged programs do the same** under every meaning in which an assignment copies its source. -/
theorem Program.Rearranged.apply_eq (h : p.Rearranged q)
    (hassign : ∀ target source : Complex α, meaning .assign target source = source) (r : Registers α) :
    p.apply meaning r = q.apply meaning r := by
  induction h with
  | refl => rfl
  | tail _ hstep ih => exact ih.trans (hstep.apply_eq meaning hassign r)

end Apply

/-! ## Interpreter and machine code -/

section Engines

variable [Scalar α] {p q : Program}

def Meaning.compiled : Meaning α
  | .assign, _, source => source
  | .add, target, source => source.add target
  | .multiply, target, source =>
    ⟨source.re * target.re - source.im * target.im, target.re * source.im + target.im * source.re⟩

theorem Instruction.native_eq_apply (i : Instruction) (r : Registers α) : i.native r = i.apply .compiled r := by
  obtain ⟨op, source, target⟩ := i
  cases op <;> rfl

theorem Program.native_eq_apply (p : Program) (r : Registers α) : p.native r = p.apply .compiled r := by
  induction p generalizing r with
  | nil => rfl
  | cons i rest ih => rw [native, apply, ih, Instruction.native_eq_apply]

theorem Program.Rearranged.run_eq (h : p.Rearranged q) (r : Registers α) : p.run r = q.run r := by
  rw [p.run_eq_apply, q.run_eq_apply]
  exact h.apply_eq .interpreted (fun _ _ => rfl) r

theorem Program.Rearranged.native_eq (h : p.Rearranged q) (r : Registers α) : p.native r = q.native r := by
  rw [p.native_eq_apply, q.native_eq_apply]
  exact h.apply_eq .compiled (fun _ _ => rfl) r

/-- Code that is called in the state `m` decodes, and comes to its `ret` with the complex registers `r`. -/
def X86.Machine.Leaves (m : Machine α) (code : List UInt8) (r : Registers α) : Prop :=
  ∃ body final, routine? code = some body ∧ m.run body = some final ∧ final.registers = r

theorem X86.Machine.leaves_code {convention : Convention} {m : Machine α} (h : m.Entered convention) (p : Program) :
    m.Leaves (p.code convention) (p.native m.registers) := by
  obtain ⟨v, hrun⟩ := Machine.run_lower h p
  have hroutine := routine?_code p convention []
  rw [List.append_nil] at hroutine
  exact ⟨_, _, hroutine, hrun, rfl⟩

end Engines

/-! ## The result -/

/-- **The order of independent instructions does not matter.** Programs that are related by any number of changes
leave the same registers when they are interpreted. So do their routines when they are called with the same complex
registers, whatever the vector registers hold, although the code of different programs is different. With commutative
sums and products the routines leave what the interpreter leaves. -/
theorem rearranged_programs_agree [Scalar α] (p q : Program) (h : p.Rearranged q) :
    (∀ r : Registers α, p.run r = q.run r) ∧
    ∀ (convention : Convention) (m m' : Machine α), m.Entered convention → m'.Entered convention →
      m.registers = m'.registers →
      ∃ code code' r, p.assemble convention = .ok code ∧ q.assemble convention = .ok code' ∧
        (p ≠ q → code ≠ code') ∧ m.Leaves code r ∧ m'.Leaves code' r ∧
        ([CommutativeScalar α] → r = p.run m.registers) := by
  refine ⟨h.run_eq, fun convention m m' hm hm' hregisters => ?_⟩
  have hleaves' : m'.Leaves (q.code convention) (p.native m.registers) := by
    rw [hregisters, h.native_eq]
    exact Machine.leaves_code hm' q
  refine ⟨_, _, _, p.assemble_eq convention, q.assemble_eq convention, ?_, Machine.leaves_code hm p, hleaves', ?_⟩
  · exact fun hne hcode => hne (Program.code_inj.1 hcode).1
  · intro hcommutative
    exact p.native_eq_run m.registers

/-- An assignment and a product change places and an assignment of `a` to itself is put between them; one routine is
called with ones in the vector registers and the other with nothing in them. -/
theorem rearranged_programs_agree_copy_square :
    let p : Program := [⟨.assign, .a, .b⟩, ⟨.multiply, .c, .c⟩]
    let q : Program := [⟨.multiply, .c, .c⟩, ⟨.assign, .a, .a⟩, ⟨.assign, .a, .b⟩]
    let ones : Lanes Float := ⟨some 1, some 1⟩
    let unset : Lanes Float := ⟨none, none⟩
    let r : Registers Float := ⟨⟨0.25, -0.5⟩, ⟨1, 2⟩, ⟨3, 4⟩, ⟨5, 6⟩⟩
    let m : Machine Float :=
      { rdi := 7, rcx := 0x1000, rsp := 0x8000, base := 0x1000, registers := r,
        vectors := ⟨ones, ones, ones, ones, ones, ones, Vector.replicate 10 ones⟩, pushed := [] }
    let m' : Machine Float :=
      { rdi := 0, rcx := 0x2000, rsp := 0x9000, base := 0x2000, registers := r,
        vectors := ⟨unset, unset, unset, unset, unset, unset, Vector.replicate 10 unset⟩, pushed := [] }
    p.Rearranged q ∧ m.Entered .win64 ∧ m'.Entered .win64 ∧ m.registers = m'.registers ∧ p.run r = q.run r ∧
      ∃ code code', p.assemble .win64 = .ok code ∧ q.assemble .win64 = .ok code' ∧ code ≠ code' ∧
        m.Leaves code (p.run r) ∧ m'.Leaves code' (p.run r) := by
  intro p q ones unset r m m'
  have hswap : p.Rearranges [⟨.multiply, .c, .c⟩, ⟨.assign, .a, .b⟩] :=
    .swap [] [] ⟨by decide, by decide, by decide⟩
  have hinsert : Program.Rearranges [⟨.multiply, .c, .c⟩, ⟨.assign, .a, .b⟩] q :=
    .insert [⟨.multiply, .c, .c⟩] [⟨.assign, .a, .b⟩] .a
  have hpq : p.Rearranged q := .tail (.single hswap) hinsert
  have hm : m.Entered .win64 := ⟨rfl, by decide, rfl⟩
  have hm' : m'.Entered .win64 := ⟨rfl, by decide, rfl⟩
  obtain ⟨hruns, hroutines⟩ := rearranged_programs_agree (α := Float) p q hpq
  obtain ⟨code, code', s, hp, hq, hne, hleaves, hleaves', heq⟩ := hroutines .win64 m m' hm hm' rfl
  rw [heq] at hleaves hleaves'
  exact ⟨hpq, hm, hm', rfl, hruns r, code, code', hp, hq, hne (by decide), hleaves, hleaves'⟩

end Orbit
