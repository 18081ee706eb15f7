import Mathlib.Order.Bounds.Basic
import Orbit.Routine.Region

/-!
# Pages and bytes of a region

* `wholePages size` : the lengths in whole pages that hold `size` bytes and are not zero. A region has the least of
  them (`pagesFor?_eq_some`), and none has a length that is no 64-bit number (`pagesFor?_eq_none`);
* `splice bytes position new` : a list of bytes with others in place of some of them, which is what writing to a
  region does to its bytes (`toList_bytes_write`).
-/

namespace Orbit

/-! ## Pages -/

/-- The lengths in whole pages that hold `size` bytes, and at least one byte. -/
def wholePages (size : Nat) : Set Nat := {n | 4096 ∣ n ∧ max size 1 ≤ n}

theorem isLeast_wholePages (size : Nat) :
    IsLeast (wholePages size) ((max size 1 + (pageSize - 1)) / pageSize * pageSize) := by
  have hpage : pageSize = 4096 := rfl
  rw [hpage]
  constructor
  · refine ⟨Nat.dvd_mul_left _ _, ?_⟩
    omega
  · rintro n ⟨⟨k, rfl⟩, hle⟩
    omega

theorem pagesFor?_eq_some {size n : Nat} : pagesFor? size = some n ↔ IsLeast (wholePages size) n ∧ n < UInt64.size := by
  have hleast := isLeast_wholePages size
  unfold pagesFor?
  rw [Option.ite_none_right_eq_some, Option.some.injEq]
  constructor
  · rintro ⟨hlt, rfl⟩
    exact ⟨hleast, hlt⟩
  · rintro ⟨hn, hlt⟩
    have heq := hleast.unique hn
    exact ⟨by rw [heq]; exact hlt, heq⟩

theorem pagesFor?_eq_none {size n : Nat} (h : IsLeast (wholePages size) n) :
    pagesFor? size = none ↔ UInt64.size ≤ n := by
  constructor
  · intro hnone
    by_contra hlt
    have hsome := pagesFor?_eq_some.2 ⟨h, by omega⟩
    rw [hnone] at hsome
    cases hsome
  · intro hle
    cases hpages : pagesFor? size with
    | none => rfl
    | some m =>
      obtain ⟨hm, hlt⟩ := pagesFor?_eq_some.1 hpages
      have heq := hm.unique h
      omega

theorem le_of_pagesFor? {size n : Nat} (h : pagesFor? size = some n) : size ≤ n := by
  have hle := (pagesFor?_eq_some.1 h).1.1.2
  omega

/-! ## Bytes -/

/-- The bytes with others from a position on. -/
def splice (bytes : List UInt8) (position : Nat) (new : List UInt8) : List UInt8 :=
  bytes.take position ++ new ++ bytes.drop (position + new.length)

namespace Region

@[simp] theorem size_bytes (r : Region) : r.bytes.size = r.size := by simp [bytes]

@[simp] theorem getElem_bytes (r : Region) {i : Nat} (h : i < r.bytes.size) : r.bytes[i] = r.byteAt i := by
  simp [bytes]

theorem toList_bytes_blank (size : Nat) : (blank size).bytes.toList = List.replicate size 0 := by
  apply List.ext_getElem
  · simp [blank]
  · intro i h1 h2
    simp [blank]

theorem byteAt_write_of_ge (r : Region) {position i : Nat} {new : List UInt8} (h : position + new.length ≤ i) :
    (r.write position new).byteAt i = r.byteAt i := by
  simp only [write]
  rw [if_pos (by omega), Array.getD_eq_getD_getElem?, Array.getElem?_eq_none]
  · rfl
  · rw [List.size_toArray]
    omega

/-- Writing to a region puts the new bytes in the place of the old ones. -/
theorem toList_bytes_write (r : Region) {position : Nat} {new : List UInt8} (h : position + new.length ≤ r.size) :
    (r.write position new).bytes.toList = splice r.bytes.toList position new := by
  have hsize : (r.write position new).size = r.size := rfl
  have hmin : min position r.size = position := by omega
  unfold splice
  apply List.ext_getElem
  · simp only [List.length_append, List.length_take, List.length_drop, Array.length_toList, size_bytes, hsize, hmin]
    omega
  · intro i h1 h2
    -- before, in and after the part that is written
    rcases Nat.lt_or_ge i position with hlt | hge
    · rw [List.getElem_append_left (by simp; omega), List.getElem_append_left (by simp; omega)]
      simp [byteAt_write_of_lt r new hlt]
    · obtain ⟨j, rfl⟩ := Nat.exists_eq_add_of_le hge
      rcases Nat.lt_or_ge j new.length with hj | hj
      · rw [List.getElem_append_left (by simp; omega), List.getElem_append_right (by simp)]
        simp [byteAt_write_add r position hj, hmin, hj]
      · rw [List.getElem_append_right (by simp; omega)]
        have hle : position + new.length ≤ position + j := by omega
        have hindex : position + new.length + (position + j - (position + new.length)) = position + j := by omega
        simp [byteAt_write_of_ge r hle, hmin, hindex]

end Region

theorem SealedRegion.bytes_eq_take (r : SealedRegion) (count : Nat) :
    r.bytes count = r.region.bytes.toList.take count := by
  rw [bytes, Region.bytes, Array.toList_map, Array.toList_range, ← List.map_take, List.take_range]
  rfl

end Orbit
