import Orbit.Proofs.Routine.Listing

/-!
# Routines in a buffer of any size

How many bytes a routine takes is known from how often each operation occurs. A buffer with that much room left takes
the whole routine; any other takes the machine instructions up to the first that does not fit, and the fault tells
where that one would have ended.

* `Program.uses`, `Program.routineLength` : how often an operation occurs, and the bytes of a routine (`length_code`);
* `Program.routineLength_le_sizeBound` : the bound on the size is no less, so that nothing that asks for it overflows
  (`Host.fault?_ne_codeOverflow`);
* `Program.emit_exact` : what emitting a routine into a buffer does, whatever the buffer holds and has room for.
-/

namespace Orbit

open X86

namespace Program

/-! ## Lengths -/

def uses (p : Program) (op : Operation) : Nat := (p.map Instruction.op).count op

theorem uses_cons (i : Instruction) (p : Program) (op : Operation) :
    uses (i :: p) op = p.uses op + if i.op = op then 1 else 0 := by
  rw [uses, List.map_cons, List.count_cons, uses]
  simp only [beq_iff_eq]

/-- The bytes of a routine: those of its instructions, a `ret`, and under the second convention five bytes to save, set
and restore `rdi`. -/
def routineLength (p : Program) (convention : Convention) : Nat :=
  10 * p.uses .assign + 15 * p.uses .add + 62 * p.uses .multiply +
    match convention with
    | .systemV => 1
    | .win64 => 6

theorem length_encodeAll_body (p : Program) :
    (encodeAll (p.flatMap Instruction.lower)).length =
      10 * p.uses .assign + 15 * p.uses .add + 62 * p.uses .multiply := by
  induction p with
  | nil => rfl
  | cons i p ih =>
    rw [List.flatMap_cons, encodeAll_append, List.length_append, length_encodeAll_lower, ih, uses_cons, uses_cons,
      uses_cons]
    cases i.op <;> simp [Operation.codeLength] <;> omega

theorem length_code (p : Program) (convention : Convention) :
    (p.code convention).length = p.routineLength convention := by
  have hbody := length_encodeAll_body p
  have hframe := length_encodeAll_frame convention
  unfold code lower routineLength
  rw [encodeAll_append, encodeAll_append, List.length_append, List.length_append, hbody]
  cases convention <;> simp only [Convention.frameSize] at hframe ⊢ <;> omega

theorem routineLength_le_sizeBound (p : Program) (convention : Convention) :
    p.routineLength convention ≤ p.sizeBound convention := by
  rw [← length_code]
  exact p.length_code_le convention

end Program

/-- A system that has no memory does not blame the code. -/
theorem Host.fault?_ne_codeOverflow (host : Host) (size capacity required : Nat) :
    host.fault? size ≠ some (.codeOverflow capacity required) := by
  unfold Host.fault?
  split
  · simp
  · split <;> simp

namespace Program

theorem compile_ne_codeOverflow (host : Host) (p : Program) (live capacity required : Nat) :
    (p.compile host live).1 ≠ .error (.codeOverflow capacity required) := by
  rcases p.compile_cases host live with ⟨fault, hfault, hcompile⟩ | ⟨-, u, hcompile, -⟩
  · rw [hcompile]
    rintro ⟨⟩
    exact host.fault?_ne_codeOverflow _ capacity required hfault
  · rw [hcompile]
    rintro ⟨⟩

/-! ## Emission -/

/-- What comes before a machine instruction of a routine is a proper part of the routine's code. -/
theorem encodeAll_prefix_code {p : Program} {convention : Convention} {before : List Instr} {next : Instr}
    (h : before ++ [next] <+: p.lower convention) :
    encodeAll before <+: p.code convention ∧ encodeAll before ≠ p.code convention := by
  obtain ⟨after, hafter⟩ := h
  have hcode : p.code convention = encodeAll before ++ (next.encode ++ encodeAll after) := by
    rw [code, ← hafter, List.append_assoc, encodeAll_append]
    rfl
  refine ⟨⟨_, hcode.symm⟩, fun heq => ?_⟩
  have hlen := congrArg List.length hcode
  have hpos := encode_length_pos next
  rw [← heq, List.length_append, List.length_append] at hlen
  omega

theorem emit_of_le {p : Program} {convention : Convention} {b : CodeBuffer}
    (h : b.length + p.routineLength convention ≤ b.capacity) :
    ∃ b' : CodeBuffer, p.emit convention b = (b', none) ∧ b'.Extends b (p.code convention) := by
  rw [← length_code] at h
  exact b.emitAll_of_le (p.lower convention) h

theorem emit_of_lt {p : Program} {convention : Convention} {b : CodeBuffer}
    (h : b.capacity < b.length + p.routineLength convention) :
    ∃ (b' : CodeBuffer) (before : List Instr) (refused : Instr), b.Cut (p.lower convention) before refused ∧
      p.emit convention b =
        (b', some (.codeOverflow b.capacity (b.length + (encodeAll (before ++ [refused])).length))) ∧
      b'.Extends b (encodeAll before) := by
  rw [← length_code] at h
  obtain ⟨before, refused, hcut⟩ := b.exists_cut (p.lower convention) h
  obtain ⟨b', hextends, hemit⟩ := CodeBuffer.emitAll_of_cut hcut
  exact ⟨b', before, refused, hcut, hemit, hextends⟩

/-- **Emitting a routine is exact for every capacity.** A routine is emitted into a buffer exactly if its length and
what was emitted before are within the capacity together, and then the assembled routine is appended. Otherwise the
fault names the capacity and the end of the first machine instruction that does not fit, and appended are the
encodings of those before it, a proper beginning of the assembled routine. The length is within the bound on the size,
so that assembling, listing and compiling never overflow. -/
theorem emit_exact (p : Program) (convention : Convention) (b : CodeBuffer) :
    let size := p.routineLength convention
    ((p.emit convention b).2 = none ↔ b.length + size ≤ b.capacity) ∧
    (b.length + size ≤ b.capacity → ∃ b' code, p.assemble convention = .ok code ∧ code.length = size ∧
      p.emit convention b = (b', none) ∧ b'.Extends b code) ∧
    (b.capacity < b.length + size → ∃ b' code before refused, p.assemble convention = .ok code ∧
      b.Cut (p.lower convention) before refused ∧
      p.emit convention b =
        (b', some (.codeOverflow b.capacity (b.length + (encodeAll (before ++ [refused])).length))) ∧
      b'.Extends b (encodeAll before) ∧ encodeAll before <+: code ∧ encodeAll before ≠ code) ∧
    size ≤ p.sizeBound convention ∧
    ∀ capacity required, p.assemble convention ≠ .error (.codeOverflow capacity required) ∧
      p.listing convention ≠ .error (.codeOverflow capacity required) ∧
      ∀ host live, (p.compile host live).1 ≠ .error (.codeOverflow capacity required) := by
  intro size
  refine ⟨⟨fun hnone => ?_, fun hle => ?_⟩, fun hle => ?_, fun hlt => ?_, p.routineLength_le_sizeBound convention,
    fun capacity required => ⟨?_, ?_, fun host live => p.compile_ne_codeOverflow host live capacity required⟩⟩
  · by_contra hlt
    obtain ⟨b', before, refused, -, hemit, -⟩ := emit_of_lt (Nat.lt_of_not_le hlt)
    rw [hemit] at hnone
    cases hnone
  · obtain ⟨b', hemit, -⟩ := emit_of_le hle
    rw [hemit]
  · obtain ⟨b', hemit, hextends⟩ := emit_of_le hle
    exact ⟨b', _, p.assemble_eq convention, p.length_code convention, hemit, hextends⟩
  · obtain ⟨b', before, refused, hcut, hemit, hextends⟩ := emit_of_lt hlt
    exact ⟨b', _, before, refused, p.assemble_eq convention, hcut, hemit, hextends, encodeAll_prefix_code hcut.begins⟩
  · rw [p.assemble_eq convention]
    rintro ⟨⟩
  · rw [p.listing_eq convention]
    rintro ⟨⟩

/-- A square takes 63 bytes. Behind a `ret` it fits into 64 of them; into sixteen go three loads, and the fourth would
have ended at the twentieth byte. -/
theorem emit_exact_square :
    let p : Program := [⟨.multiply, .b, .b⟩]
    let full := (CodeBuffer.zeroed 64).append .ret (by decide)
    let small := CodeBuffer.zeroed 16
    p.routineLength .systemV = 63 ∧ full.length + 63 ≤ full.capacity ∧ small.capacity < small.length + 63 ∧
      (∃ b code, p.assemble .systemV = .ok code ∧ code.length = 63 ∧ p.emit .systemV full = (b, none) ∧
        b.Extends full code) ∧
      ∃ b code before refused, p.assemble .systemV = .ok code ∧ small.Cut (p.lower .systemV) before refused ∧
        p.emit .systemV small = (b, some (.codeOverflow 16 20)) ∧ b.Extends small (encodeAll before) ∧
        encodeAll before <+: code ∧ encodeAll before ≠ code := by
  intro p full small
  have hfull : full.length + 63 ≤ full.capacity := by decide
  have hsmall : small.capacity < small.length + 63 := by decide
  have hfault : (p.emit .systemV small).2 = some (.codeOverflow 16 20) := by decide
  obtain ⟨b, code, before, refused, hcode, hcut, hemit, hrest⟩ := (emit_exact p .systemV small).2.2.1 hsmall
  have hend : some _ = some (Fault.codeOverflow 16 20) := (congrArg Prod.snd hemit).symm.trans hfault
  rw [hend] at hemit
  exact ⟨rfl, hfull, hsmall, (emit_exact p .systemV full).2.1 hfull, b, code, before, refused, hcode, hcut, hemit,
    hrest⟩

end Program

end Orbit
