import Mathlib.Data.Finset.Insert
import Orbit.Engine
import Orbit.Proofs.EscapeTime

/-!
# What instructions read and write

An instruction reads its source and its target and writes its target, whatever its operation makes of the two values. So
a set of registers that no instruction carries a value into from outside is computed by the instructions that write it,
and the others can be left out without a trace in the set.

* `Meaning α` : what operations make of two values; `Instruction.apply`, `Program.apply` : what follows for registers;
* `Instruction.run_eq_apply`, `Program.run_eq_apply` : the interpreter is one meaning;
* `Registers.AgreeOn S r s` : equal values in the registers of `S`;
* `Program.Closed p S`, `Program.slice p S` : no value comes into `S` from outside; the instructions that write `S`;
* `Registers.AgreeOn.slice` : a program and its slice keep registers in agreement on `S`.
-/

namespace Orbit

variable {α : Type}

/-! ## Meanings of operations -/

/-- What an operation makes of the value of the target and the value of the source. -/
abbrev Meaning (α : Type) := Operation → Complex α → Complex α → Complex α

def Instruction.apply (meaning : Meaning α) (i : Instruction) (r : Registers α) : Registers α :=
  r.set i.target (meaning i.op (r.get i.target) (r.get i.source))

def Program.apply (meaning : Meaning α) : Program → Registers α → Registers α
  | [], r => r
  | i :: rest, r => Program.apply meaning rest (i.apply meaning r)

def Meaning.interpreted [Scalar α] : Meaning α
  | .assign, _, source => source
  | .add, target, source => target.add source
  | .multiply, target, source => target.mul source

theorem Instruction.run_eq_apply [Scalar α] (i : Instruction) (r : Registers α) :
    i.run r = i.apply .interpreted r := by
  obtain ⟨op, source, target⟩ := i
  cases op <;> rfl

theorem Program.run_eq_apply [Scalar α] (p : Program) (r : Registers α) : p.run r = p.apply .interpreted r := by
  induction p generalizing r with
  | nil => rfl
  | cons i rest ih => rw [run, apply, ih, Instruction.run_eq_apply]

section Apply

variable (meaning : Meaning α)

theorem Instruction.get_apply_self (i : Instruction) (r : Registers α) :
    (i.apply meaning r).get i.target = meaning i.op (r.get i.target) (r.get i.source) :=
  Registers.get_set_self r _ _

theorem Instruction.get_apply_ne {name : Register} (i : Instruction) (r : Registers α) (h : name ≠ i.target) :
    (i.apply meaning r).get name = r.get name :=
  Registers.get_set_ne r _ h

theorem Program.apply_append (p q : Program) (r : Registers α) :
    Program.apply meaning (p ++ q) r = q.apply meaning (p.apply meaning r) := by
  induction p generalizing r with
  | nil => rfl
  | cons i rest ih => exact ih (i.apply meaning r)

/-- A register that no instruction writes keeps its value. -/
theorem Program.get_apply_of_not_target {name : Register} (p : Program) (r : Registers α)
    (h : ∀ i ∈ p, i.target ≠ name) : (p.apply meaning r).get name = r.get name := by
  induction p generalizing r with
  | nil => rfl
  | cons i rest ih =>
    have hi : name ≠ i.target := (h i List.mem_cons_self).symm
    have hrest : ∀ j ∈ rest, j.target ≠ name := fun j hj => h j (List.mem_cons_of_mem i hj)
    rw [apply, ih _ hrest, i.get_apply_ne meaning r hi]

end Apply

/-- A register that no instruction writes keeps its value in any number of runs. -/
theorem Program.get_iterate_run_of_not_target [Scalar α] {name : Register} (p : Program)
    (h : ∀ i ∈ p, i.target ≠ name) (n : Nat) (r : Registers α) : (p.run^[n] r).get name = r.get name := by
  induction n generalizing r with
  | zero => rfl
  | succ n ih => rw [Function.iterate_succ_apply, ih, run_eq_apply, p.get_apply_of_not_target _ r h]

/-! ## Agreement on a set of registers -/

/-- Equal values in the registers of `S`. -/
def Registers.AgreeOn (S : Finset Register) (r s : Registers α) : Prop := ∀ name ∈ S, r.get name = s.get name

namespace Registers.AgreeOn

variable {S : Finset Register} {r s : Registers α} (meaning : Meaning α)

theorem refl (r : Registers α) : AgreeOn S r r := fun _ _ => rfl

/-- An instruction that writes outside of `S` changes nothing in `S`. -/
theorem apply_left {i : Instruction} (hi : i.target ∉ S) (h : AgreeOn S r s) : AgreeOn S (i.apply meaning r) s := by
  intro name hname
  have hne : name ≠ i.target := fun heq => hi (heq ▸ hname)
  rw [i.get_apply_ne meaning r hne, h name hname]

/-- An instruction that reads and writes in `S` writes the same value from registers that agree on `S`. -/
theorem apply_both {i : Instruction} (hsource : i.source ∈ S) (htarget : i.target ∈ S) (h : AgreeOn S r s) :
    AgreeOn S (i.apply meaning r) (i.apply meaning s) := by
  intro name hname
  by_cases heq : name = i.target
  · rw [heq, i.get_apply_self, i.get_apply_self, h _ htarget, h _ hsource]
  · rw [i.get_apply_ne meaning r heq, i.get_apply_ne meaning s heq, h name hname]

theorem bounded_eq [Scalar α] (hb : .b ∈ S) (h : AgreeOn S r s) : r.bounded = s.bounded := by
  have hvalue : r.b = s.b := h .b hb
  rw [bounded, bounded, hvalue]

end Registers.AgreeOn

/-! ## Slices -/

/-- No instruction carries a value into `S` from outside. -/
def Program.Closed (p : Program) (S : Finset Register) : Prop := ∀ i ∈ p, i.target ∈ S → i.source ∈ S

instance (p : Program) (S : Finset Register) : Decidable (p.Closed S) :=
  inferInstanceAs (Decidable (∀ i ∈ p, i.target ∈ S → i.source ∈ S))

/-- The instructions that write a register of `S`. -/
def Program.slice (p : Program) (S : Finset Register) : Program := p.filter fun i => i.target ∈ S

/-- **A program and its slice** take registers that agree on `S` to registers that agree on `S`. -/
theorem Registers.AgreeOn.slice (meaning : Meaning α) {S : Finset Register} {p : Program} (hclosed : p.Closed S)
    {r s : Registers α} (h : AgreeOn S r s) : AgreeOn S (p.apply meaning r) ((p.slice S).apply meaning s) := by
  induction p generalizing r s with
  | nil => exact h
  | cons i rest ih =>
    have hrest : Program.Closed rest S := fun j hj => hclosed j (List.mem_cons_of_mem i hj)
    by_cases hi : i.target ∈ S
    · have hslice : Program.slice (i :: rest) S = i :: Program.slice rest S :=
        List.filter_cons_of_pos (decide_eq_true hi)
      have hsource : i.source ∈ S := hclosed i List.mem_cons_self hi
      rw [hslice]
      exact ih hrest (h.apply_both meaning hsource hi)
    · have hslice : Program.slice (i :: rest) S = Program.slice rest S :=
        List.filter_cons_of_neg (by simpa using hi)
      rw [hslice]
      exact ih hrest (h.apply_left meaning hi)

theorem Registers.AgreeOn.slice_run [Scalar α] {S : Finset Register} {p : Program} (hclosed : p.Closed S)
    {r s : Registers α} (h : AgreeOn S r s) : AgreeOn S (p.run r) ((p.slice S).run s) := by
  rw [p.run_eq_apply, (p.slice S).run_eq_apply]
  exact h.slice .interpreted hclosed

/-! ## The result -/

/-- **What is written outside of a closed set leaves no trace in it.** Let no instruction of a program carry a value
into `S` from outside. From registers that agree on `S`, any number of runs of the program and as many runs of its
slice, the instructions that write `S`, end with registers that agree on `S`. Registers that are no instruction's
target keep their values. If `b` is in `S`, every point has the same escape time under the program and under its
slice. -/
theorem slice_leaves_no_trace [Scalar α] (p : Program) (S : Finset Register) (hclosed : p.Closed S) :
    (∀ (n : Nat) (r s : Registers α), r.AgreeOn S s → (p.run^[n] r).AgreeOn S ((p.slice S).run^[n] s)) ∧
    (∀ (n : Nat) (r : Registers α) (name : Register),
      ((∀ i ∈ p, i.target ≠ name) → (p.run^[n] r).get name = r.get name) ∧
      ((∀ i ∈ p.slice S, i.target ≠ name) → ((p.slice S).run^[n] r).get name = r.get name)) ∧
    (.b ∈ S → ∀ (point : Complex α) (cap : UInt32),
      escapeTime (Kernel.interpreted p).step point cap =
        escapeTime (Kernel.interpreted (p.slice S)).step point cap) := by
  refine ⟨fun n r s h => ?_, fun n r name => ⟨fun h => ?_, fun h => ?_⟩, fun hb point cap => ?_⟩
  · exact iterate_related (fun h => h.slice_run hclosed) h n
  · exact p.get_iterate_run_of_not_target h n r
  · exact (p.slice S).get_iterate_run_of_not_target h n r
  · exact escapeTime_eq_of_related (fun h => h.slice_run hclosed) (fun h => h.bounded_eq hb)
      (Registers.AgreeOn.refl _) cap

/-- The step `b := b² + a` with two instructions behind it that only write `c` and `d`, from registers that differ
there. -/
theorem slice_leaves_no_trace_quadratic :
    let p : Program := [⟨.multiply, .b, .b⟩, ⟨.assign, .b, .c⟩, ⟨.add, .a, .b⟩, ⟨.multiply, .c, .d⟩]
    let q : Program := [⟨.multiply, .b, .b⟩, ⟨.add, .a, .b⟩]
    let r : Registers Float := ⟨⟨0.25, -0.5⟩, ⟨1, 2⟩, ⟨3, 4⟩, ⟨5, 6⟩⟩
    let s : Registers Float := ⟨⟨0.25, -0.5⟩, ⟨1, 2⟩, ⟨0, 0⟩, ⟨0 / 0, 7⟩⟩
    p.Closed {.a, .b} ∧ p.slice {.a, .b} = q ∧ r.AgreeOn {.a, .b} s ∧ (∀ i ∈ p, i.target ≠ .a) ∧
      (p.run^[3] r).AgreeOn {.a, .b} (q.run^[3] s) ∧ (p.run^[3] r).get .a = r.get .a ∧
      escapeTime (Kernel.interpreted p).step (⟨0.25, -0.5⟩ : Complex Float) 256 =
        escapeTime (Kernel.interpreted q).step ⟨0.25, -0.5⟩ 256 := by
  intro p q r s
  have hclosed : p.Closed {.a, .b} := by decide
  have hagree : r.AgreeOn {.a, .b} s := by
    intro name hname
    rcases Finset.mem_insert.1 hname with rfl | hname
    · rfl
    · rw [Finset.mem_singleton.1 hname]
      rfl
  have hkeep : ∀ i ∈ p, i.target ≠ .a := by decide
  obtain ⟨hruns, hframe, htimes⟩ := slice_leaves_no_trace (α := Float) p {.a, .b} hclosed
  exact ⟨hclosed, rfl, hagree, hkeep, hruns 3 r s hagree, (hframe 3 r .a).1 hkeep, htimes (by decide) _ _⟩

end Orbit
