import Orbit.Proofs.Routine.Assembly

/-!
# Listings, assembled code and compiled code

A listing emits a routine part by part and cuts the code at the positions where the cursor stood in between. The parts
are those of the assembled routine, and a compiled routine has the same bytes at the start of its region.

* `spansFrom`, `emitPieces_of_le` : where the parts end up in a buffer with room for all of them. A part without code
  has an empty span and does not move the ones behind it (`filter_spansFrom`);
* `linesFrom` : the lines for parts that follow each other, with `bytes_linesFrom`, `labels_linesFrom` and
  `offset_linesFrom`;
* `Program.listing_eq` : the listing of a program;
* `Program.code_paths_agree` : listing, assembling and compiling give the same code.
-/

namespace Orbit

open X86

theorem X86.encodeAll_eq_nil {instrs : List Instr} : encodeAll instrs = [] ↔ instrs = [] := by
  cases instrs with
  | nil => exact iff_of_true rfl rfl
  | cons i instrs =>
    have hi : i.encode ≠ [] := List.ne_nil_of_length_pos (encode_length_pos i)
    rw [encodeAll_cons]
    exact iff_of_false (fun h => hi (List.append_eq_nil_iff.1 h).1) (List.cons_ne_nil _ _)

namespace X86.CodeBuffer

/-- What lies between two positions of the code. -/
theorem slice_of_code {b : CodeBuffer} {front middle back : List UInt8} (h : b.code = front ++ middle ++ back) :
    b.slice front.length (front.length + middle.length) = middle := by
  have hbytes : b.bytes.toList = b.code ++ b.bytes.toList.drop b.length := (List.take_append_drop _ _).symm
  rw [h, List.append_assoc, List.append_assoc] at hbytes
  rw [slice, Array.toList_extract, List.extract_eq_take_drop, hbytes, List.drop_left, Nat.add_sub_cancel_left,
    List.take_left]

end X86.CodeBuffer

theorem Instruction.lower_ne_nil (i : Instruction) : i.lower ≠ [] := by
  obtain ⟨op, source, target⟩ := i
  cases op <;> exact List.cons_ne_nil _ _

namespace Program

/-! ## Parts in a buffer -/

/-- The places of parts that are emitted one after the other from a position on. -/
def spansFrom (first : Nat) : List (String × List Instr) → List Span
  | [] => []
  | (label, instrs) :: rest =>
    let last := first + (encodeAll instrs).length
    ⟨label, first, last⟩ :: spansFrom last rest

theorem encodeAll_flatMap_cons (label : String) (instrs : List Instr) (rest : List (String × List Instr)) :
    encodeAll (((label, instrs) :: rest).flatMap Prod.snd) = encodeAll instrs ++ encodeAll (rest.flatMap Prod.snd) := by
  rw [List.flatMap_cons, encodeAll_append]

theorem emitPieces_of_le (b : CodeBuffer) (pieces : List (String × List Instr))
    (h : b.length + (encodeAll (pieces.flatMap Prod.snd)).length ≤ b.capacity) :
    ∃ b' : CodeBuffer, emitPieces b pieces = .ok (b', spansFrom b.length pieces) ∧
      b'.code = b.code ++ encodeAll (pieces.flatMap Prod.snd) := by
  induction pieces generalizing b with
  | nil => exact ⟨b, rfl, (List.append_nil _).symm⟩
  | cons piece rest ih =>
    obtain ⟨label, instrs⟩ := piece
    rw [encodeAll_flatMap_cons, List.length_append] at h
    obtain ⟨next, hemit, hcode, -, hcap⟩ := b.emitAll_of_le instrs (by omega)
    have hlength := CodeBuffer.length_of_code_append hcode
    obtain ⟨b', hrest, hcode'⟩ := ih next (by rw [hlength, hcap]; omega)
    refine ⟨b', ?_, ?_⟩
    · simp only [emitPieces, hemit, hrest, hlength, spansFrom]
    · rw [hcode', hcode, encodeAll_flatMap_cons, List.append_assoc]

/-- Parts without code have no line, and the others are where they would be without them. -/
theorem filter_spansFrom (first : Nat) (pieces : List (String × List Instr)) :
    ((spansFrom first pieces).filter fun span => decide (span.first < span.last)) =
      spansFrom first (pieces.filter fun piece => !piece.2.isEmpty) := by
  induction pieces generalizing first with
  | nil => rfl
  | cons piece rest ih =>
    obtain ⟨label, instrs⟩ := piece
    cases instrs with
    | nil =>
      have hspan : ¬ first < first + (encodeAll []).length := Nat.lt_irrefl first
      rw [spansFrom, List.filter_cons_of_neg (by rwa [decide_eq_true_eq]), List.filter_cons_of_neg Bool.false_ne_true]
      exact ih first
    | cons i instrs =>
      have hpos : 0 < (encodeAll (i :: instrs)).length :=
        List.length_pos_iff.2 (encodeAll_eq_nil.not.2 (List.cons_ne_nil _ _))
      have hspan : first < first + (encodeAll (i :: instrs)).length := by omega
      rw [spansFrom, List.filter_cons_of_pos (by rwa [decide_eq_true_eq]),
        List.filter_cons_of_pos rfl, spansFrom, ih]

/-! ## Lines -/

/-- The lines for parts that follow each other from an offset on. -/
def linesFrom (offset : Nat) : List (String × List Instr) → List ListingLine
  | [] => []
  | (label, instrs) :: rest =>
    ⟨label, offset, encodeAll instrs⟩ :: linesFrom (offset + (encodeAll instrs).length) rest

theorem map_spansFrom {b : CodeBuffer} {front : List UInt8} {pieces : List (String × List Instr)}
    (h : b.code = front ++ encodeAll (pieces.flatMap Prod.snd)) :
    ((spansFrom front.length pieces).map fun span =>
      (⟨span.label, span.first, b.slice span.first span.last⟩ : ListingLine)) = linesFrom front.length pieces := by
  induction pieces generalizing front with
  | nil => rfl
  | cons piece rest ih =>
    obtain ⟨label, instrs⟩ := piece
    rw [encodeAll_flatMap_cons, ← List.append_assoc] at h
    -- for the parts that follow, this one belongs to the front
    have hrest := ih h
    rw [List.length_append] at hrest
    simp only [spansFrom, linesFrom, List.map_cons, hrest, CodeBuffer.slice_of_code h]

theorem bytes_linesFrom (offset : Nat) (pieces : List (String × List Instr)) :
    (linesFrom offset pieces).flatMap ListingLine.bytes = encodeAll (pieces.flatMap Prod.snd) := by
  induction pieces generalizing offset with
  | nil => rfl
  | cons piece rest ih => rw [linesFrom, List.flatMap_cons, ih, encodeAll_flatMap_cons]

theorem labels_linesFrom (offset : Nat) (pieces : List (String × List Instr)) :
    (linesFrom offset pieces).map ListingLine.label = pieces.map Prod.fst := by
  induction pieces generalizing offset with
  | nil => rfl
  | cons piece rest ih => rw [linesFrom, List.map_cons, ih, List.map_cons]

theorem offset_linesFrom {offset k : Nat} {pieces : List (String × List Instr)} {line : ListingLine}
    (h : (linesFrom offset pieces)[k]? = some line) :
    line.offset = offset + (((linesFrom offset pieces).take k).flatMap ListingLine.bytes).length := by
  induction pieces generalizing offset k with
  | nil => simp [linesFrom] at h
  | cons piece rest ih =>
    cases k with
    | zero =>
      rw [linesFrom, List.getElem?_cons_zero, Option.some.injEq] at h
      rw [← h]
      rfl
    | succ k =>
      rw [linesFrom, List.getElem?_cons_succ] at h
      rw [linesFrom, List.take_succ_cons, List.flatMap_cons, List.length_append, ih h, Nat.add_assoc]

theorem bytes_ne_nil_of_mem_linesFrom {offset : Nat} {pieces : List (String × List Instr)} {line : ListingLine}
    (hcoded : ∀ piece ∈ pieces, piece.2 ≠ []) (h : line ∈ linesFrom offset pieces) : line.bytes ≠ [] := by
  induction pieces generalizing offset with
  | nil => cases h
  | cons piece rest ih =>
    rw [linesFrom, List.mem_cons] at h
    rcases h with rfl | h
    · exact encodeAll_eq_nil.not.2 (hcoded piece List.mem_cons_self)
    · exact ih (fun other hother => hcoded other (List.mem_cons_of_mem _ hother)) h

/-! ## The listing of a program -/

/-- The parts of a routine that have code. -/
def codedPieces (p : Program) (convention : Convention) : List (String × List Instr) :=
  (p.pieces convention).filter fun piece => !piece.2.isEmpty

theorem codedPieces_eq (p : Program) (convention : Convention) :
    p.codedPieces convention = (if convention = .win64 then [("entry", convention.opening)] else []) ++
      (p.map fun i => (i.text, i.lower)) ++ [("exit", convention.closing)] := by
  have hbody : ((p.map fun i => (i.text, i.lower)).filter fun piece => !piece.2.isEmpty) =
      p.map fun i => (i.text, i.lower) := by
    rw [List.filter_eq_self]
    intro piece hpiece
    obtain ⟨i, -, rfl⟩ := List.mem_map.1 hpiece
    simp [Instruction.lower_ne_nil]
  unfold codedPieces pieces
  rw [List.filter_append, List.filter_cons, hbody]
  cases convention <;> rfl

theorem ne_nil_of_mem_codedPieces {p : Program} {convention : Convention} {piece : String × List Instr}
    (h : piece ∈ p.codedPieces convention) : piece.2 ≠ [] := by
  have hcoded := (List.mem_filter.1 h).2
  intro hnil
  rw [hnil] at hcoded
  cases hcoded

theorem encodeAll_pieces (p : Program) (convention : Convention) :
    encodeAll ((p.pieces convention).flatMap Prod.snd) = p.code convention := by
  have hbody : (p.map fun i => (i.text, i.lower)).flatMap Prod.snd = p.flatMap Instruction.lower := List.flatMap_map ..
  unfold pieces code lower
  rw [List.flatMap_append, List.flatMap_cons, hbody, List.flatMap_singleton]

theorem flatMap_filter_coded (pieces : List (String × List Instr)) :
    (pieces.filter fun piece => !piece.2.isEmpty).flatMap Prod.snd = pieces.flatMap Prod.snd := by
  induction pieces with
  | nil => rfl
  | cons piece rest ih =>
    obtain ⟨label, instrs⟩ := piece
    cases instrs with
    | nil =>
      rw [List.filter_cons_of_neg Bool.false_ne_true, List.flatMap_cons, ih]
      rfl
    | cons i instrs => rw [List.filter_cons_of_pos rfl, List.flatMap_cons, List.flatMap_cons, ih]

theorem encodeAll_codedPieces (p : Program) (convention : Convention) :
    encodeAll ((p.codedPieces convention).flatMap Prod.snd) = p.code convention := by
  rw [codedPieces, flatMap_filter_coded, encodeAll_pieces]

theorem listing_eq (p : Program) (convention : Convention) :
    p.listing convention = .ok (linesFrom 0 (p.codedPieces convention)) := by
  have hfit := p.length_code_le convention
  obtain ⟨b, hemit, hcode⟩ := emitPieces_of_le (.ofBytes (Array.replicate (p.sizeBound convention) 0))
    (p.pieces convention) (by simpa [encodeAll_pieces] using hfit)
  have hlines : b.code = [] ++ encodeAll ((p.codedPieces convention).flatMap Prod.snd) := by
    rw [hcode, encodeAll_pieces, encodeAll_codedPieces, CodeBuffer.code_ofBytes]
  rw [CodeBuffer.length_ofBytes] at hemit
  simp only [listing, CodeBuffer.zeroed, hemit, filter_spansFrom]
  exact congrArg Except.ok (map_spansFrom hlines)

/-! ## Three ways to the same code -/

/-- **Listing, assembling and compiling give the same code.** The listing of a program always succeeds. Its lines have
code, lie one behind the other from offset zero on and together are the assembled routine; their labels are `entry`,
where the convention asks for an opening, the texts of the instructions and `exit`. A compiled routine is the program's,
its code is the assembled routine from the first to the last byte, and its region is the least number of whole pages
for the bound on its size. -/
theorem code_paths_agree (p : Program) (convention : Convention) :
    (∃ lines, p.listing convention = .ok lines ∧ p.assemble convention = .ok (lines.flatMap ListingLine.bytes) ∧
      (∀ k line, lines[k]? = some line →
        line.bytes ≠ [] ∧ line.offset = ((lines.take k).flatMap ListingLine.bytes).length) ∧
      lines.map ListingLine.label =
        (if convention = .win64 then ["entry"] else []) ++ p.map Instruction.text ++ ["exit"]) ∧
      ∀ host live u live', p.compile host live = (.ok u, live') →
        u.program = p ∧ p.assemble .native = .ok u.code ∧ u.code.length = u.codeLength ∧
          IsLeast {n | 4096 ∣ n ∧ p.sizeBound .systemV ≤ n} u.region.size := by
  constructor
  · refine ⟨_, p.listing_eq convention, ?_, ?_, ?_⟩
    · rw [bytes_linesFrom, encodeAll_codedPieces, assemble_eq]
    · intro k line hline
      constructor
      · exact bytes_ne_nil_of_mem_linesFrom (fun _ => ne_nil_of_mem_codedPieces) (List.mem_of_getElem? hline)
      · rw [offset_linesFrom hline, Nat.zero_add]
    · rw [labels_linesFrom, codedPieces_eq, List.map_append, List.map_append, List.map_map]
      cases convention <;> rfl
  · intro host live u live' hcompile
    have hholds := holds_of_compile hcompile
    refine ⟨hholds.program, ?_, ?_, hholds.isLeast_size⟩
    · rw [assemble_eq, hholds.code_eq]
    · rw [hholds.code_eq, hholds.codeLength]

/-- The quadratic step: with a shim for `rdi` its sum starts at offset 66, and compiled it takes one page. -/
theorem code_paths_agree_quadratic :
    let p : Program := [⟨.multiply, .b, .b⟩, ⟨.add, .a, .b⟩]
    (∃ lines line, p.listing .win64 = .ok lines ∧ lines.map ListingLine.label = ["entry", "*bb", "+ab", "exit"] ∧
      lines[2]? = some line ∧ line.bytes ≠ [] ∧ ((lines.take 2).flatMap ListingLine.bytes).length = 66) ∧
      ∃ u, p.compile .standard 0 = (.ok u, 1) ∧ u.program = p ∧ p.assemble .native = .ok u.code ∧
        u.region.size = 4096 := by
  intro p
  obtain ⟨⟨lines, hlisting, -, hlines, hlabels⟩, hcompiled⟩ := code_paths_agree p .win64
  constructor
  · obtain ⟨line, hline, hoffset⟩ :
        ∃ line, (linesFrom 0 (p.codedPieces .win64))[2]? = some line ∧ line.offset = 66 := ⟨_, rfl, rfl⟩
    have heq : lines = linesFrom 0 (p.codedPieces .win64) := Except.ok.inj (hlisting.symm.trans (p.listing_eq .win64))
    rw [← heq] at hline
    obtain ⟨hbytes, hbefore⟩ := hlines 2 line hline
    exact ⟨lines, line, hlisting, hlabels, hline, hbytes, hbefore.symm.trans hoffset⟩
  · have hbound : p.sizeBound .systemV = 161 := rfl
    have hsystem : Host.standard.fault? 161 = none := by decide
    rcases p.compile_cases .standard 0 with ⟨fault, hfault, -⟩ | ⟨-, u, hu, -⟩
    · rw [Convention.native, hbound, hsystem] at hfault
      cases hfault
    · obtain ⟨hprogram, hcode, -, hpages⟩ := hcompiled .standard 0 u 1 hu
      refine ⟨u, hu, hprogram, hcode, hpages.unique ⟨⟨Nat.dvd_refl _, by decide⟩, ?_⟩⟩
      rintro n ⟨⟨k, rfl⟩, hle⟩
      omega

end Program

end Orbit
