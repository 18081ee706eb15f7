import Orbit.Picture.Sink
import Orbit.Proofs.Picture.Netpbm

/-!
# Pictures in limited room

A sink is filled from the front and never beyond its room, and writing goes wrong as soon as something does not fit.
That the file comes in many pieces makes no difference.

* `Sink.free s` : how many bytes still fit;
* `Sink.writeAll_eq` : the offers of one piece: what fits is taken, and there is a fault if that is not all of it;
* `Sink.writePieces_eq` : pieces one after the other are the same as all of them at once;
* `Picture.flatten_pieces` : the pieces of a picture make up its file.
-/

namespace Orbit

namespace Sink

def free (s : Sink) : Nat := s.room - s.held.length

theorem accept_eq (s : Sink) (bytes : List UInt8) :
    s.accept bytes = (min bytes.length s.free, { s with held := s.held ++ bytes.take s.free }) := by
  have htake : bytes.take (min bytes.length s.free) = bytes.take s.free := by
    rw [Nat.min_comm, ← List.take_eq_take_min]
  show (min bytes.length s.free, ({ s with held := s.held ++ bytes.take (min bytes.length s.free) } : Sink)) = _
  rw [htake]

theorem writeAll_nil (s : Sink) : s.writeAll [] = (s, none) := by
  unfold writeAll
  rfl

theorem writeAll_of_le {s : Sink} {bytes : List UInt8} (h : bytes.length ≤ s.free) :
    s.writeAll bytes = ({ s with held := s.held ++ bytes }, none) := by
  cases bytes with
  | nil => rw [writeAll_nil, List.append_nil]
  | cons b bytes =>
    unfold writeAll
    rw [accept_eq, List.take_of_length_le h, Nat.min_eq_left h]
    -- one offer is enough
    rw [if_neg (by simp), dif_pos (by simp), List.drop_length]
    exact writeAll_nil _

theorem writeAll_of_full {s : Sink} {bytes : List UInt8} (hfull : s.free = 0) (hne : bytes ≠ []) :
    s.writeAll bytes = (s, some .noRoom) := by
  unfold writeAll
  rw [accept_eq, hfull, Nat.min_zero, List.take_zero, List.append_nil, if_neg (by simpa using hne), dif_neg (by simp)]

theorem writeAll_of_lt {s : Sink} {bytes : List UInt8} (h : s.free < bytes.length) :
    s.writeAll bytes = ({ s with held := s.held ++ bytes.take s.free }, some .noRoom) := by
  have hne : bytes ≠ [] := by
    rintro rfl
    exact absurd h (Nat.not_lt_zero _)
  by_cases hfull : s.free = 0
  · rw [writeAll_of_full hfull hne, hfull, List.take_zero, List.append_nil]
  · -- the first offer fills the sink, and nothing is taken of the second
    have hmin : min bytes.length s.free = s.free := Nat.min_eq_right (Nat.le_of_lt h)
    unfold writeAll
    rw [accept_eq, hmin, if_neg (by simpa using hne), dif_pos ⟨Nat.pos_of_ne_zero hfull, Nat.le_of_lt h⟩]
    apply writeAll_of_full
    · unfold free at *
      simp only [List.length_append, List.length_take]
      omega
    · intro hnil
      rw [List.drop_eq_nil_iff] at hnil
      omega

/-- **A piece is taken as far as it fits**, and there is a fault if it does not fit whole. -/
theorem writeAll_eq (s : Sink) (bytes : List UInt8) :
    s.writeAll bytes =
      ({ s with held := s.held ++ bytes.take s.free }, if bytes.length ≤ s.free then none else some .noRoom) := by
  by_cases h : bytes.length ≤ s.free
  · rw [writeAll_of_le h, if_pos h, List.take_of_length_le h]
  · rw [writeAll_of_lt (Nat.lt_of_not_le h), if_neg h]

theorem writeAll_append_of_le {s : Sink} {xs : List UInt8} (ys : List UInt8) (h : xs.length ≤ s.free) :
    s.writeAll (xs ++ ys) = Sink.writeAll { s with held := s.held ++ xs } ys := by
  have hfree : free { s with held := s.held ++ xs } = s.free - xs.length := by
    unfold free
    simp only [List.length_append]
    omega
  have hfits : (xs ++ ys).length ≤ s.free ↔ ys.length ≤ s.free - xs.length := by
    rw [List.length_append]
    omega
  rw [writeAll_eq, writeAll_eq, hfree, List.take_append, List.take_of_length_le h, List.append_assoc]
  simp only [hfits]

theorem writeAll_append_of_lt {s : Sink} {xs : List UInt8} (ys : List UInt8) (h : s.free < xs.length) :
    s.writeAll (xs ++ ys) = s.writeAll xs := by
  have hlt : s.free < (xs ++ ys).length := by
    rw [List.length_append]
    omega
  rw [writeAll_of_lt h, writeAll_of_lt hlt, List.take_append_of_le_length (Nat.le_of_lt h)]

/-- **Pieces one after the other, up to the first that does not fit, are the same as all of them at once.** -/
theorem writePieces_eq (s : Sink) (pieces : List (List UInt8)) : s.writePieces pieces = s.writeAll pieces.flatten := by
  induction pieces generalizing s with
  | nil => exact (writeAll_nil s).symm
  | cons piece rest ih =>
    unfold writePieces
    rw [List.flatten_cons]
    by_cases h : piece.length ≤ s.free
    · rw [writeAll_of_le h, writeAll_append_of_le _ h]
      exact ih _
    · rw [writeAll_append_of_lt _ (Nat.lt_of_not_le h), writeAll_of_lt (Nat.lt_of_not_le h)]

end Sink

namespace Picture

variable (p : Picture)

theorem flatten_headerPieces (format : Format) :
    ((p.headerPieces format).map Text.utf8).flatten = Text.utf8 (p.header format) := by
  rw [Netpbm.utf8_header]
  unfold headerPieces
  simp only [List.map_cons, List.map_nil, List.flatten_cons, List.flatten_nil, List.append_nil, Text.utf8_append,
    List.append_assoc]
  rfl

theorem flatten_rowPieces (format : Format) (counts : List UInt32) :
    (p.rowPieces format counts).flatten = p.rowBytes format counts := by
  cases format with
  | pgm | ppm => exact List.append_nil _
  | pgmAscii =>
    unfold rowPieces rowBytes
    rw [Text.utf8_append, List.flatten_cons, List.flatten_singleton]

/-- **The pieces make up the file.** -/
theorem flatten_pieces (format : Format) : (p.pieces format).flatten = p.file format := by
  unfold pieces file parts
  rw [List.flatten_append, List.flatten_cons, flatten_headerPieces, List.flatMap_def, List.flatten_flatten,
    List.map_map]
  congr 2
  apply List.map_congr_left
  intro counts _
  exact p.flatten_rowPieces format counts

theorem writeTo_eq (format : Format) (s : Sink) : p.writeTo format s = s.writeAll (p.file format) := by
  unfold writeTo
  rw [Sink.writePieces_eq, flatten_pieces]

end Picture

theorem Sink.free_empty (room : Nat) : (Sink.empty room).free = room := rfl

/-- **Limited room holds the beginning of the file.** With room to spare a picture is written as its file. With any
room, the sink holds as much of the beginning of the file as there is room for, and there is a fault if that is not
the whole file, and none otherwise. -/
theorem writeTo_limited_room (p : Picture) (format : Format) :
    (∀ spare, p.writeTo format (.empty ((p.file format).length + spare)) =
      (⟨(p.file format).length + spare, p.file format⟩, none)) ∧
    ∀ room,
      (p.writeTo format (.empty room)).1.held = (p.file format).take (min room (p.file format).length) ∧
      ((p.writeTo format (.empty room)).2 = none ↔ (p.file format).length ≤ room) ∧
      ((p.writeTo format (.empty room)).2 = some .noRoom ↔ room < (p.file format).length) := by
  constructor
  · intro spare
    rw [p.writeTo_eq, Sink.writeAll_of_le (Nat.le_add_right _ spare)]
    rfl
  · intro room
    rw [p.writeTo_eq, Sink.writeAll_eq, Sink.free_empty, ← List.take_eq_take_min]
    by_cases h : (p.file format).length ≤ room
    · rw [if_pos h]
      exact ⟨rfl, iff_of_true rfl h, iff_of_false (by simp) (Nat.not_lt.2 h)⟩
    · rw [if_neg h]
      exact ⟨rfl, iff_of_false (by simp) h, iff_of_true rfl (Nat.lt_of_not_le h)⟩

end Orbit
