import Orbit.Fault

/-!
# Executable memory

A region is a whole number of pages that the system mapped for code. It is written first and sealed
afterwards; a sealed region is read and executed only. How many regions are held is counted: mapping one adds
to the count, releasing one takes from it, and sealing that fails releases the region.

* `Host` : what the system answers to requests for pages.
* `Region`, `SealedRegion` : a region before and after sealing.
* `Region.allocate`, `Region.write`, `Region.close`, `Region.release` : the life of a region.
-/

namespace Orbit

/-- The answers of the system: nothing, or the reason why a request failed. -/
structure Host where
  /-- The answer to a request for this many bytes of memory. -/
  map : Nat → Option String
  /-- The answer to a request to make this many bytes read-only and executable. -/
  protect : Nat → Option String
  /-- What is shown when a process stops with a message: the message, and around it where that was. -/
  notice : String → String := fun message => message ++ "\n"

namespace Host

def memory : Nat := 0x800000000

/-- A system that maps whatever is less than all its memory. -/
def standard : Host where
  map size := if size < memory then none else some "Cannot allocate memory (os error 12)"
  protect _ := none

end Host

def pageSize : Nat := 4096

/-- The whole pages that hold `size` bytes, at least one, if their size is a 64-bit number. -/
def pagesFor? (size : Nat) : Option Nat :=
  let rounded := (max size 1 + (pageSize - 1)) / pageSize * pageSize
  if rounded < UInt64.size then some rounded else none

structure Region where
  size : Nat
  /-- The byte at each position. -/
  byteAt : Nat → UInt8

/-- A region that can be read and executed only. -/
structure SealedRegion where
  region : Region

namespace Region

def blank (size : Nat) : Region := ⟨size, fun _ => 0⟩

def ofBytes (bytes : Array UInt8) : Region := ⟨bytes.size, fun i => bytes.getD i 0⟩

def bytes (r : Region) : Array UInt8 := (Array.range r.size).map r.byteAt

/-- A new region for `size` bytes, and the count of regions afterwards. -/
def allocate (host : Host) (size live : Nat) : Except Fault Region × Nat :=
  match pagesFor? size with
  | none => (.error (.noMemory (.tooLarge size)), live)
  | some rounded =>
    match host.map rounded with
    | some reason => (.error (.noMemory (.unmapped reason)), live)
    | none => (.ok (blank rounded), live + 1)

def write (r : Region) (position : Nat) (bytes : List UInt8) : Region :=
  let new := bytes.toArray
  { r with byteAt := fun i => if position ≤ i then new.getD (i - position) (r.byteAt i) else r.byteAt i }

theorem byteAt_write_of_lt (r : Region) {position i : Nat} (bytes : List UInt8) (h : i < position) :
    (r.write position bytes).byteAt i = r.byteAt i := by
  simp only [write]
  rw [if_neg (by omega)]

theorem byteAt_write_add (r : Region) (position : Nat) {bytes : List UInt8} {i : Nat} (h : i < bytes.length) :
    (r.write position bytes).byteAt (position + i) = bytes.getD i 0 := by
  simp only [write]
  rw [if_pos (by omega), show position + i - position = i by omega]
  simp [h]

/-- The count of regions after one is given back. It is a 64-bit number, so below zero it starts again from the
top. -/
def release (live : Nat) : Nat := if live = 0 then UInt64.size - 1 else live - 1

@[simp] theorem release_add_one (live : Nat) : release (live + 1) = live := by simp [release]

/-- The sealed region and the count of regions; a region that cannot be sealed is released. -/
def close (host : Host) (r : Region) (live : Nat) : Except Fault SealedRegion × Nat :=
  match host.protect r.size with
  | some reason => (.error (.noMemory (.unprotected reason)), release live)
  | none => (.ok ⟨r⟩, live)

end Region

namespace SealedRegion

def size (r : SealedRegion) : Nat := r.region.size

/-- How many of the first `count` bytes there are. -/
def available (r : SealedRegion) (count : Nat) : Nat := min count r.size

/-- The first `count` bytes, or all if there are fewer. -/
def bytes (r : SealedRegion) (count : Nat) : List UInt8 := (List.range (r.available count)).map r.region.byteAt

end SealedRegion

end Orbit
