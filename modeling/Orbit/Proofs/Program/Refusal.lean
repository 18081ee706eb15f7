import Mathlib.Data.Nat.Find
import Mathlib.Order.Bounds.Basic
import Orbit.Proofs.Program.Text
import Orbit.Proofs.Text.Repair

/-!
# Where reading a program fails

The fault of a text that is no program names the first byte that no program has at its place. In front of it is the
longest beginning of the text with which a program can begin.

* `IsViable bytes` : some program text begins with these bytes;
* `FitsAt bytes k` : the byte at position `k` is one that its place in a triple asks for. A missing byte counts as
  zero and fits nowhere (`FitsAt.lt_length`);
* `isViable_iff` : bytes are viable exactly if each fits, so that viability ends at the first misfit
  (`isGreatest_viable_iff`);
* `Program.parseFrom_eq_error` : the reader reports the first misfit;
* `Program.parse_error_iff_longest_viable` : the fault of a text.
-/

namespace Orbit

/-- Bytes with which the text of a program can begin. -/
def IsViable (bytes : List UInt8) : Prop := ∃ more, IsProgramText (bytes ++ more)

/-- A byte that may stand at a place of a triple: a sign at the first, a letter at the others. -/
def FitsPlace (place : Nat) (x : UInt8) : Prop :=
  if place = 0 then ∃ op : Operation, x = op.byte else ∃ r : Register, x = r.byte

def FitsAt (bytes : List UInt8) (k : Nat) : Prop := FitsPlace (k % 3) (bytes.getD k 0)

/-- All bytes before a position fit, and the one at the position does not. -/
structure FirstMisfit (bytes : List UInt8) (k : Nat) : Prop where
  fits : ∀ j < k, FitsAt bytes j
  misfit : ¬ FitsAt bytes k

/-! ## Single positions -/

theorem not_fits_zero (place : Nat) : ¬ FitsPlace place 0 := by
  unfold FitsPlace
  split
  · rintro ⟨op, h⟩
    cases op <;> cases h
  · rintro ⟨r, h⟩
    exact r.byte_ne_zero h.symm

theorem not_fits_of_no_sign {x : UInt8} (h : Operation.ofByte? x = none) : ¬ FitsPlace 0 x := by
  rintro ⟨op, rfl⟩
  rw [Operation.ofByte?_byte] at h
  cases h

theorem not_fits_of_no_letter {place : Nat} {x : UInt8} (hplace : place ≠ 0) (h : Register.ofByte? x = none) :
    ¬ FitsPlace place x := by
  rw [FitsPlace, if_neg hplace]
  rintro ⟨r, rfl⟩
  rw [Register.ofByte?_byte] at h
  cases h

theorem FitsAt.lt_length {bytes : List UInt8} {k : Nat} (h : FitsAt bytes k) : k < bytes.length := by
  refine Nat.lt_of_not_le fun hle => not_fits_zero (k % 3) ?_
  have hzero : bytes.getD k 0 = 0 := by
    rw [List.getD_eq_getElem?_getD, List.getElem?_eq_none hle]
    rfl
  rwa [FitsAt, hzero] at h

theorem fitsAt_append_of_lt {bytes : List UInt8} {k : Nat} (h : k < bytes.length) (more : List UInt8) :
    FitsAt (bytes ++ more) k ↔ FitsAt bytes k := by
  unfold FitsAt
  rw [List.getD_eq_getElem?_getD, List.getElem?_append_left h, List.getD_eq_getElem?_getD]

theorem getD_take_of_lt {n k : Nat} (h : k < n) (bytes : List UInt8) : (bytes.take n).getD k 0 = bytes.getD k 0 := by
  rw [List.getD_eq_getElem?_getD, List.getElem?_take_of_lt h, List.getD_eq_getElem?_getD]

theorem fitsAt_take_of_lt {n k : Nat} (h : k < n) (bytes : List UInt8) : FitsAt (bytes.take n) k ↔ FitsAt bytes k := by
  rw [FitsAt, getD_take_of_lt h, FitsAt]

theorem fitsAt_add_three (x y z : UInt8) (rest : List UInt8) (k : Nat) :
    FitsAt (x :: y :: z :: rest) (k + 3) ↔ FitsAt rest k := by
  unfold FitsAt
  rw [Nat.add_mod_right]
  rfl

/-! ## Viable beginnings -/

theorem fitsAt_of_isProgramText {bytes : List UInt8} (h : IsProgramText bytes) :
    ∀ k < bytes.length, FitsAt bytes k := by
  induction h with
  | nil =>
    intro k hk
    cases hk
  | cons hsign hsource htarget hrest ih =>
    intro k hk
    match k with
    | 0 => exact Operation.mem_signs.1 hsign
    | 1 => exact Register.mem_letters.1 hsource
    | 2 => exact Register.mem_letters.1 htarget
    | k + 3 => exact (fitsAt_add_three ..).2 (ih k (by simpa using hk))

/-- Bytes that fit are completed by letters up to the end of the triple. -/
theorem isViable_of_fitsAt : ∀ bytes : List UInt8, (∀ k < bytes.length, FitsAt bytes k) → IsViable bytes
  | [], _ => ⟨[], .nil⟩
  | [_], h =>
    have hsign := Operation.mem_signs.2 (h 0 (by simp))
    ⟨[0x61, 0x61], .cons hsign (by decide) (by decide) .nil⟩
  | [_, _], h =>
    have hsign := Operation.mem_signs.2 (h 0 (by simp))
    have hsource := Register.mem_letters.2 (h 1 (by simp))
    ⟨[0x61], .cons hsign hsource (by decide) .nil⟩
  | x :: y :: z :: rest, h => by
    have hsign := Operation.mem_signs.2 (h 0 (by simp))
    have hsource := Register.mem_letters.2 (h 1 (by simp))
    have htarget := Register.mem_letters.2 (h 2 (by simp))
    obtain ⟨more, hmore⟩ := isViable_of_fitsAt rest fun k hk =>
      (fitsAt_add_three x y z rest k).1 (h (k + 3) (by simpa using hk))
    exact ⟨more, .cons hsign hsource htarget hmore⟩

theorem isViable_iff {bytes : List UInt8} : IsViable bytes ↔ ∀ k < bytes.length, FitsAt bytes k := by
  constructor
  · rintro ⟨more, hmore⟩ k hk
    rw [← fitsAt_append_of_lt hk more]
    apply fitsAt_of_isProgramText hmore
    rw [List.length_append]
    omega
  · exact isViable_of_fitsAt bytes

namespace FirstMisfit

variable {bytes : List UInt8} {k : Nat}

theorem le_length (h : FirstMisfit bytes k) : k ≤ bytes.length :=
  Nat.le_of_not_lt fun hlt => Nat.lt_irrefl _ (h.fits _ hlt).lt_length

/-- Up to the first misfit bytes are viable, and no further. -/
theorem isGreatest (h : FirstMisfit bytes k) :
    IsGreatest {n | n ≤ bytes.length ∧ IsViable (bytes.take n)} k := by
  refine ⟨⟨h.le_length, isViable_iff.2 fun j hj => ?_⟩, ?_⟩
  · have hjk : j < k := by
      rw [List.length_take] at hj
      omega
    exact (fitsAt_take_of_lt hjk bytes).2 (h.fits j hjk)
  · rintro n ⟨hn, hviable⟩
    refine Nat.le_of_not_lt fun hkn => h.misfit ?_
    rw [← fitsAt_take_of_lt hkn bytes]
    apply isViable_iff.1 hviable
    rw [List.length_take]
    omega

theorem of_take {n : Nat} (hk : k < n) (h : FirstMisfit (bytes.take n) k) : FirstMisfit bytes k :=
  ⟨fun j hj => (fitsAt_take_of_lt (Nat.lt_trans hj hk) bytes).1 (h.fits j hj),
    (fitsAt_take_of_lt hk bytes).not.1 h.misfit⟩

theorem add_three (x y z : UInt8) (hfits : ∀ j < 3, FitsAt (x :: y :: z :: bytes) j) (h : FirstMisfit bytes k) :
    FirstMisfit (x :: y :: z :: bytes) (k + 3) := by
  refine ⟨fun j hj => ?_, (fitsAt_add_three x y z bytes k).not.2 h.misfit⟩
  match j with
  | 0 | 1 | 2 => exact hfits _ (by omega)
  | j + 3 => exact (fitsAt_add_three x y z bytes j).2 (h.fits j (by omega))

end FirstMisfit

/-- There is a first misfit, if only behind the last byte. -/
theorem exists_firstMisfit (bytes : List UInt8) : ∃ k, FirstMisfit bytes k := by
  classical
  have hend : ∃ k, ¬ FitsAt bytes k := ⟨bytes.length, fun h => Nat.lt_irrefl _ h.lt_length⟩
  exact ⟨Nat.find hend, fun j hj => Classical.not_not.1 (Nat.find_min hend hj), Nat.find_spec hend⟩

theorem isGreatest_viable_iff {bytes : List UInt8} {k : Nat} :
    IsGreatest {n | n ≤ bytes.length ∧ IsViable (bytes.take n)} k ↔ FirstMisfit bytes k := by
  constructor
  · intro h
    obtain ⟨k', hk'⟩ := exists_firstMisfit bytes
    rwa [h.unique hk'.isGreatest]
  · exact FirstMisfit.isGreatest

/-! ## Faults -/

/-- The fault at position `k` of bytes that start at `offset` of a text: it names the byte and the triple it is in. -/
def faultAt (offset : Nat) (bytes : List UInt8) (k : Nat) : Fault :=
  .undefinedInstruction (offset + k) (Text.ofBytesLossy ((bytes.drop (3 * (k / 3))).take 3)) (bytes.getD k 0)

theorem undefinedAt_take (offset : Nat) (bytes : List UInt8) {place : Nat} (h : place < 3) :
    undefinedAt offset place (bytes.take 3) = faultAt offset bytes place := by
  have hdiv : place / 3 = 0 := Nat.div_eq_of_lt h
  rw [undefinedAt, faultAt, hdiv, getD_take_of_lt h, Nat.mul_zero, List.drop_zero]

theorem faultAt_add_three (offset : Nat) (x y z : UInt8) (rest : List UInt8) (k : Nat) :
    faultAt (offset + 3) rest k = faultAt offset (x :: y :: z :: rest) (k + 3) := by
  have hstart : 3 * ((k + 3) / 3) = 3 * (k / 3) + 3 := by omega
  have hoffset : offset + 3 + k = offset + (k + 3) := by omega
  unfold faultAt
  rw [hstart, hoffset]
  rfl

namespace Instruction

/-- A triple is refused at its first misfit. -/
theorem exists_firstMisfit_of_decode {offset : Nat} {triple : List UInt8} {fault : Fault}
    (h : decode offset triple = .error fault) :
    ∃ place < 3, FirstMisfit triple place ∧ fault = undefinedAt offset place triple := by
  unfold decode at h
  cases hop : Operation.ofByte? (triple.getD 0 0) with
  | none =>
    rw [hop] at h
    cases h
    exact ⟨0, by decide, ⟨fun j hj => absurd hj (Nat.not_lt_zero j), not_fits_of_no_sign hop⟩, rfl⟩
  | some op =>
    rw [hop] at h
    have hsign : FitsAt triple 0 := ⟨op, Operation.ofByte?_eq_some.1 hop⟩
    cases hsource : Register.ofByte? (triple.getD 1 0) with
    | none =>
      simp only [hsource] at h
      cases h
      refine ⟨1, by decide, ⟨fun j hj => ?_, not_fits_of_no_letter (by decide) hsource⟩, rfl⟩
      obtain rfl : j = 0 := by omega
      exact hsign
    | some source =>
      have hletter : FitsAt triple 1 := ⟨source, Register.ofByte?_eq_some.1 hsource⟩
      cases htarget : Register.ofByte? (triple.getD 2 0) with
      | none =>
        simp only [hsource, htarget] at h
        cases h
        refine ⟨2, by decide, ⟨fun j hj => ?_, not_fits_of_no_letter (by decide) htarget⟩, rfl⟩
        obtain rfl | rfl : j = 0 ∨ j = 1 := by omega
        · exact hsign
        · exact hletter
      | some target =>
        simp only [hsource, htarget] at h
        cases h

theorem exists_firstMisfit_of_decode_take {offset : Nat} {bytes : List UInt8} {fault : Fault}
    (h : decode offset (bytes.take 3) = .error fault) :
    ∃ k, FirstMisfit bytes k ∧ fault = faultAt offset bytes k := by
  obtain ⟨place, hplace, hmisfit, rfl⟩ := exists_firstMisfit_of_decode h
  exact ⟨place, hmisfit.of_take hplace, undefinedAt_take offset bytes hplace⟩

theorem fitsAt_of_decode {offset : Nat} {x y z : UInt8} {i : Instruction} (h : decode offset [x, y, z] = .ok i)
    (rest : List UInt8) : ∀ j < 3, FitsAt (x :: y :: z :: rest) j := by
  obtain ⟨hsign, hsource, htarget⟩ := decode_eq_ok.1 h
  intro j hj
  match j with
  | 0 => exact ⟨i.op, hsign⟩
  | 1 => exact ⟨i.source, hsource⟩
  | 2 => exact ⟨i.target, htarget⟩

end Instruction

namespace Program

theorem exists_firstMisfit_of_parseFrom {offset : Nat} {bytes : List UInt8} {fault : Fault}
    (h : parseFrom offset bytes = .error fault) : ∃ k, FirstMisfit bytes k ∧ fault = faultAt offset bytes k := by
  fun_induction parseFrom offset bytes with
  | case1 | case4 | case6 => cases h
  | case2 offset x y z rest fault' hdecode =>
    cases h
    exact Instruction.exists_firstMisfit_of_decode_take hdecode
  | case3 offset x y z rest i hdecode fault' hrest ih =>
    cases h
    obtain ⟨k, hk, rfl⟩ := ih hrest
    exact ⟨k + 3, hk.add_three x y z (Instruction.fitsAt_of_decode hdecode rest), faultAt_add_three ..⟩
  | case5 offset short hnil hcons fault' hdecode =>
    cases h
    rw [← List.take_of_length_le (Nat.le_of_lt (length_lt_of_short hcons))] at hdecode
    exact Instruction.exists_firstMisfit_of_decode_take hdecode

theorem exists_parseFrom_of_isProgramText {bytes : List UInt8} (h : IsProgramText bytes) (offset : Nat) :
    ∃ p, parseFrom offset bytes = .ok p := by
  obtain ⟨p, rfl⟩ := isProgramText_iff.1 h
  exact ⟨p, parseFrom_bytes offset p⟩

/-- The reader refuses what is no program text, and reports the first misfit. -/
theorem parseFrom_eq_error {offset : Nat} {bytes : List UInt8} {fault : Fault} :
    parseFrom offset bytes = .error fault ↔
      ¬ IsProgramText bytes ∧ ∃ k, FirstMisfit bytes k ∧ fault = faultAt offset bytes k := by
  constructor
  · intro h
    refine ⟨fun htext => ?_, exists_firstMisfit_of_parseFrom h⟩
    obtain ⟨p, hp⟩ := exists_parseFrom_of_isProgramText htext offset
    rw [hp] at h
    cases h
  · rintro ⟨htext, k, hk, rfl⟩
    cases hparse : parseFrom offset bytes with
    | ok p => exact absurd (isProgramText_iff.2 ⟨p, parseFrom_eq_ok.1 hparse⟩) htext
    | error fault =>
      obtain ⟨k', hk', rfl⟩ := exists_firstMisfit_of_parseFrom hparse
      rw [hk.isGreatest.unique hk'.isGreatest]

/-- **A fault points at the first byte that cannot belong to a program.** A text is refused exactly if its bytes are
no program text. The offset of the fault is then the length of the longest beginning with which a program can begin;
its byte is the one that follows there, or zero where the text ends; and its fragment is the repaired text of the
triple in which this byte is, or of what there is of this triple. -/
theorem parse_error_iff_longest_viable (t : String) (fault : Fault) :
    parse t = .error fault ↔ ¬ IsProgramText (Text.utf8 t) ∧
      ∃ offset fragment, IsGreatest {n | n ≤ (Text.utf8 t).length ∧ IsViable ((Text.utf8 t).take n)} offset ∧
        Text.Repaired (((Text.utf8 t).drop (3 * (offset / 3))).take 3) fragment.toList ∧
        fault = .undefinedInstruction offset fragment ((Text.utf8 t).getD offset 0) := by
  have hfault (k : Nat) : faultAt 0 (Text.utf8 t) k = .undefinedInstruction k
      (Text.ofBytesLossy (((Text.utf8 t).drop (3 * (k / 3))).take 3)) ((Text.utf8 t).getD k 0) := by
    rw [faultAt, Nat.zero_add]
  simp only [parse, parseFrom_eq_error, isGreatest_viable_iff, hfault, Text.repaired_toList_iff, exists_and_left,
    exists_eq_left]

/-- The triple ends within a character, whose first byte is the misfit. -/
example : parse "*bb=aé" = .error (.undefinedInstruction 5 "=a�" 0xC3) := rfl

end Program

end Orbit
