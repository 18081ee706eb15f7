import Mathlib.Data.List.GetD
import Orbit.Proofs.Routine.Region
import Orbit.Proofs.X86.Emission
import Orbit.Routine.Compile

/-!
# Routines fit where they are emitted

The bound on the size of a routine is never too small, so assembling a program succeeds and gives the encodings of
its machine instructions one after the other, and compiling fails only if the system refuses memory.

* `Program.assemble_eq` : the bytes of a routine;
* `Host.fault?` : why the system has no sealed region for some bytes, if it has none;
* `Routine.Holds u p` : the routine `u` is the compiled program `p`;
* `Program.compile_cases` : what compiling can do.
-/

namespace Orbit

open X86

/-! ## Sizes -/

/-- Displacements of the complex registers take one byte. -/
theorem length_encode_reDisp (op : MemoryOp) (x : Xmm) (r : Register) :
    (Instr.memory op x r.reDisp).encode.length = 5 := by cases r <;> rfl

theorem length_encode_imDisp (op : MemoryOp) (x : Xmm) (r : Register) :
    (Instr.memory op x r.imDisp).encode.length = 5 := by cases r <;> rfl

theorem length_encode_vector (op : VectorOp) (target source : Xmm) :
    (Instr.vector op target source).encode.length = 4 := rfl

def Operation.codeLength : Operation → Nat
  | assign => 10
  | add => 15
  | multiply => 62

theorem length_encodeAll_lower (i : Instruction) : (encodeAll i.lower).length = i.op.codeLength := by
  obtain ⟨op, source, target⟩ := i
  cases op <;>
    simp [Instruction.lower, Operation.codeLength, length_encode_reDisp, length_encode_imDisp, length_encode_vector]

theorem Operation.codeLength_le (op : Operation) : op.codeLength ≤ Program.instructionBound := by
  cases op <;> decide

theorem length_encodeAll_flatMap_le (p : Program) :
    (encodeAll (p.flatMap Instruction.lower)).length ≤ p.length * Program.instructionBound := by
  induction p with
  | nil => exact Nat.zero_le _
  | cons i p ih =>
    have hi := i.op.codeLength_le
    rw [List.flatMap_cons, encodeAll_append, List.length_append, length_encodeAll_lower, List.length_cons,
      Nat.succ_mul]
    omega

theorem length_encodeAll_frame (convention : Convention) :
    (encodeAll convention.opening).length + (encodeAll convention.closing).length = convention.frameSize + 1 := by
  cases convention <;> rfl

namespace Program

def code (p : Program) (convention : Convention) : List UInt8 := encodeAll (p.lower convention)

theorem length_code_le (p : Program) (convention : Convention) :
    (p.code convention).length ≤ p.sizeBound convention := by
  have hbody := length_encodeAll_flatMap_le p
  have hframe := length_encodeAll_frame convention
  rw [code, lower, encodeAll_append, encodeAll_append, List.length_append, List.length_append, sizeBound]
  omega

/-! ## Emission -/

/-- A routine emitted into an empty buffer of the size of the bound or more. -/
theorem emit_ofBytes (p : Program) (convention : Convention) (bytes : Array UInt8)
    (h : p.sizeBound convention ≤ bytes.size) :
    ∃ b : CodeBuffer, p.emit convention (CodeBuffer.ofBytes bytes) = (b, none) ∧ b.code = p.code convention ∧
      b.bytes.toList = p.code convention ++ bytes.toList.drop (p.code convention).length := by
  have hfit := Nat.le_trans (length_code_le p convention) h
  obtain ⟨b, hemit, hcode, hdrop, -⟩ := CodeBuffer.emitAll_of_le (CodeBuffer.ofBytes bytes) (p.lower convention)
    (by rw [CodeBuffer.length_ofBytes, CodeBuffer.capacity_ofBytes, Nat.zero_add]; exact hfit)
  rw [CodeBuffer.code_ofBytes, List.nil_append] at hcode
  refine ⟨b, hemit, hcode, ?_⟩
  have hlen : b.length = (p.code convention).length := by
    rw [← CodeBuffer.length_code, hcode]
    rfl
  calc b.bytes.toList = b.code ++ b.bytes.toList.drop b.length := (List.take_append_drop _ _).symm
    _ = p.code convention ++ bytes.toList.drop (p.code convention).length := by rw [hcode, hdrop, hlen]; rfl

/-- **Assembling never fails**, and gives the encodings of the machine instructions. -/
theorem assemble_eq (p : Program) (convention : Convention) : p.assemble convention = .ok (p.code convention) := by
  obtain ⟨b, hemit, hcode, -⟩ := emit_ofBytes p convention (Array.replicate (p.sizeBound convention) 0) (by simp)
  rw [assemble, CodeBuffer.zeroed, hemit]
  exact congrArg Except.ok hcode

end Program

/-! ## Compiling -/

/-- Why the system has no sealed region for `size` bytes, if it has none. -/
def Host.fault? (host : Host) (size : Nat) : Option Fault :=
  match pagesFor? size with
  | none => some (.noMemory (.tooLarge size))
  | some pages =>
    match host.map pages, host.protect pages with
    | some reason, _ => some (.noMemory (.unmapped reason))
    | none, some reason => some (.noMemory (.unprotected reason))
    | none, none => none

/-- A routine is a compiled program: its region starts with the machine code, and zeros fill the rest of the least
whole pages for the bound on its size. -/
structure Routine.Holds (u : Routine) (p : Program) : Prop where
  program : u.program = p
  pages : pagesFor? (p.sizeBound .native) = some u.region.size
  codeLength : u.codeLength = (p.code .native).length
  byteAt : ∀ i, u.region.region.byteAt i = (p.code .native).getD i 0

theorem Routine.Holds.code_eq {u : Routine} {p : Program} (h : u.Holds p) : u.code = p.code .native := by
  have hle : (p.code .native).length ≤ u.region.size :=
    Nat.le_trans (p.length_code_le .native) (le_of_pagesFor? h.pages)
  rw [Routine.code, SealedRegion.bytes, SealedRegion.available, h.codeLength, Nat.min_eq_left hle]
  apply List.ext_getElem
  · simp
  · intro i h1 h2
    simp [h.byteAt, h2]

theorem Routine.Holds.isLeast_size {u : Routine} {p : Program} (h : u.Holds p) :
    IsLeast {n | 4096 ∣ n ∧ p.sizeBound .native ≤ n} u.region.size := by
  have hbound : max (p.sizeBound .native) 1 = p.sizeBound .native := Nat.max_eq_left (Nat.le_add_left _ _)
  have hleast := (pagesFor?_eq_some.1 h.pages).1
  rw [wholePages, hbound] at hleast
  exact hleast

/-- A routine that was emitted into a blank region of enough pages. -/
theorem Routine.holds_of_emit {p : Program} {pages : Nat} {b : CodeBuffer}
    (hpages : pagesFor? (p.sizeBound .native) = some pages) (hcode : b.code = p.code .native)
    (hbytes : b.bytes.toList = p.code .native ++ (List.replicate pages 0).drop (p.code .native).length) :
    Routine.Holds ⟨p, ⟨Region.ofBytes b.bytes⟩, b.length⟩ p := by
  have hle : (p.code .native).length ≤ pages := Nat.le_trans (p.length_code_le .native) (le_of_pagesFor? hpages)
  have hsize : b.bytes.size = pages := by
    rw [← Array.length_toList, hbytes, List.length_append, List.length_drop, List.length_replicate]
    omega
  refine ⟨rfl, ?_, ?_, fun i => ?_⟩
  · rw [hpages]
    exact congrArg some hsize.symm
  · rw [← hcode, CodeBuffer.length_code]
  · -- behind the code there are zeros, and zero is what a byte outside the region counts as
    have hget : b.bytes.getD i 0 = b.bytes.toList.getD i 0 := by
      rw [Array.getD_eq_getD_getElem?, List.getD_eq_getElem?_getD, Array.getElem?_toList]
    show b.bytes.getD i 0 = _
    rw [hget, hbytes, List.drop_replicate]
    by_cases hi : i < (p.code .native).length
    · rw [List.getD_append _ _ _ _ hi]
    · rw [List.getD_append_right _ _ _ _ (by omega), List.getD_eq_default (p.code .native) _ (by omega),
        List.getD_eq_getElem?_getD, List.getElem?_replicate]
      split <;> rfl

/-- What compiling can do: it fails as the system does and leaves the count alone, or it gives the compiled program
and counts one region more. -/
theorem Program.compile_cases (host : Host) (p : Program) (live : Nat) :
    (∃ fault, host.fault? (p.sizeBound .native) = some fault ∧ p.compile host live = (.error fault, live)) ∨
    (host.fault? (p.sizeBound .native) = none ∧
      ∃ u : Routine, p.compile host live = (.ok u, live + 1) ∧ u.Holds p) := by
  cases hpages : pagesFor? (p.sizeBound .native) with
  | none =>
    refine Or.inl ⟨.noMemory (.tooLarge (p.sizeBound .native)), ?_, ?_⟩
    · simp only [Host.fault?, hpages]
    · simp only [compile, Region.allocate, hpages]
  | some pages =>
    cases hmap : host.map pages with
    | some reason =>
      refine Or.inl ⟨.noMemory (.unmapped reason), ?_, ?_⟩
      · simp only [Host.fault?, hpages, hmap]
      · simp only [compile, Region.allocate, hpages, hmap]
    | none =>
      have hsize : p.sizeBound .native ≤ (Region.blank pages).bytes.size := by
        rw [Region.size_bytes]
        exact le_of_pagesFor? hpages
      -- the region is large enough, so that only the system can still refuse
      obtain ⟨b, hemit, hcode, hbytes⟩ := p.emit_ofBytes .native _ hsize
      rw [Region.toList_bytes_blank] at hbytes
      have hholds := Routine.holds_of_emit hpages hcode hbytes
      have hregion : (Region.ofBytes b.bytes).size = pages := by
        have h := hholds.pages
        rw [hpages] at h
        exact (Option.some.inj h).symm
      cases hprotect : host.protect pages with
      | some reason =>
        refine Or.inl ⟨.noMemory (.unprotected reason), ?_, ?_⟩
        · simp only [Host.fault?, hpages, hmap, hprotect]
        · simp only [compile, Region.allocate, hpages, hmap, hemit, Region.close, hregion, hprotect,
            Region.release_add_one]
      | none =>
        refine Or.inr ⟨?_, _, ?_, hholds⟩
        · simp only [Host.fault?, hpages, hmap, hprotect]
        · simp only [compile, Region.allocate, hpages, hmap, hemit, Region.close, hregion, hprotect]

theorem Program.exists_compile_of_granted {host : Host} {p : Program}
    (h : host.fault? (p.sizeBound .native) = none) (live : Nat) :
    ∃ u : Routine, p.compile host live = (.ok u, live + 1) := by
  rcases p.compile_cases host live with ⟨fault, hfault, -⟩ | ⟨-, u, hu, -⟩
  · rw [h] at hfault
    cases hfault
  · exact ⟨u, hu⟩

theorem Program.holds_of_compile {host : Host} {p : Program} {live live' : Nat} {u : Routine}
    (h : p.compile host live = (.ok u, live')) : u.Holds p := by
  rcases p.compile_cases host live with ⟨fault, -, hfault⟩ | ⟨-, u', hu', hholds⟩
  · rw [hfault] at h
    cases h
  · rw [hu'] at h
    cases h
    exact hholds

end Orbit
