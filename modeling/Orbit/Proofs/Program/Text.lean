import Orbit.Program.Parse

/-!
# The texts of programs

A text is read as a program exactly if its bytes are triples of a sign and two letters, and then the program has this
text: reading and writing are inverse to each other.

* `IsProgramText bytes` : the grammar, without regard to the reader;
* `Instruction.decode_eq_ok` : what one triple has to be. A byte that is missing counts as zero, which is no letter, so
  that a triple cut short is never an instruction (`decode_short`);
* `Program.bytes` : the bytes of all instructions, those of the program's text (`utf8_text`);
* `Program.parseFrom_eq_ok`, `Program.parse_eq_ok` : the reader accepts the text of a program and nothing else.
-/

namespace Orbit

/-- Bytes that are triples of a sign, a source and a target, one after the other. -/
inductive IsProgramText : List UInt8 → Prop
  | nil : IsProgramText []
  | cons {sign source target : UInt8} {rest : List UInt8} (hsign : sign ∈ ['=', '+', '*'].map Char.toUInt8)
    (hsource : source ∈ ['a', 'b', 'c', 'd'].map Char.toUInt8)
    (htarget : target ∈ ['a', 'b', 'c', 'd'].map Char.toUInt8) (hrest : IsProgramText rest) :
    IsProgramText (sign :: source :: target :: rest)

/-! ## Signs and letters -/

theorem Operation.mem_signs {x : UInt8} : x ∈ ['=', '+', '*'].map Char.toUInt8 ↔ ∃ op : Operation, x = op.byte := by
  constructor
  · intro h
    rcases List.mem_map.1 h with ⟨sign, hsign, rfl⟩
    simp only [List.mem_cons, List.not_mem_nil, or_false] at hsign
    rcases hsign with rfl | rfl | rfl
    · exact ⟨.assign, rfl⟩
    · exact ⟨.add, rfl⟩
    · exact ⟨.multiply, rfl⟩
  · rintro ⟨op, rfl⟩
    cases op <;> decide

theorem Register.mem_letters {x : UInt8} :
    x ∈ ['a', 'b', 'c', 'd'].map Char.toUInt8 ↔ ∃ r : Register, x = r.byte := by
  constructor
  · intro h
    rcases List.mem_map.1 h with ⟨letter, hletter, rfl⟩
    simp only [List.mem_cons, List.not_mem_nil, or_false] at hletter
    rcases hletter with rfl | rfl | rfl | rfl
    · exact ⟨.a, rfl⟩
    · exact ⟨.b, rfl⟩
    · exact ⟨.c, rfl⟩
    · exact ⟨.d, rfl⟩
  · rintro ⟨r, rfl⟩
    cases r <;> decide

theorem Operation.ofByte?_eq_some {x : UInt8} {op : Operation} : ofByte? x = some op ↔ x = op.byte :=
  ⟨eq_byte_of_ofByte?, fun h => h ▸ ofByte?_byte op⟩

theorem Register.ofByte?_eq_some {x : UInt8} {r : Register} : ofByte? x = some r ↔ x = r.byte :=
  ⟨eq_byte_of_ofByte?, fun h => h ▸ ofByte?_byte r⟩

theorem Register.byte_ne_zero (r : Register) : r.byte ≠ 0 := by cases r <;> decide

/-! ## One triple -/

namespace Instruction

theorem decode_eq_ok {offset : Nat} {triple : List UInt8} {i : Instruction} :
    decode offset triple = .ok i ↔
      triple.getD 0 0 = i.op.byte ∧ triple.getD 1 0 = i.source.byte ∧ triple.getD 2 0 = i.target.byte := by
  rw [← Operation.ofByte?_eq_some, ← Register.ofByte?_eq_some, ← Register.ofByte?_eq_some]
  obtain ⟨op, source, target⟩ := i
  unfold decode
  cases hop : Operation.ofByte? (triple.getD 0 0) with
  | none => simp
  | some op' =>
    cases hsource : Register.ofByte? (triple.getD 1 0) with
    | none => simp
    | some source' =>
      cases htarget : Register.ofByte? (triple.getD 2 0) with
      | none => simp
      | some target' => simp

/-- A triple that is cut short is no instruction. -/
theorem decode_short {offset : Nat} {triple : List UInt8} (h : triple.length < 3) (i : Instruction) :
    decode offset triple ≠ .ok i := by
  intro hok
  obtain ⟨-, -, htarget⟩ := decode_eq_ok.1 hok
  have hzero : triple.getD 2 0 = 0 := by
    rw [List.getD_eq_getElem?_getD, List.getElem?_eq_none (by omega)]
    rfl
  exact i.target.byte_ne_zero (htarget.symm.trans hzero)

theorem decode_triple {offset : Nat} {x y z : UInt8} {i : Instruction} :
    decode offset [x, y, z] = .ok i ↔ [x, y, z] = i.bytes := by
  rw [decode_eq_ok]
  simp [bytes]

theorem utf8_text (i : Instruction) : Text.utf8 i.text = i.bytes := by
  obtain ⟨op, source, target⟩ := i
  cases op <;> cases source <;> cases target <;> rfl

end Instruction

/-! ## Whole texts -/

namespace Text

theorem utf8_inj {s t : String} : utf8 s = utf8 t ↔ s = t := by
  rw [utf8, utf8, Array.toList_inj, ← String.toByteArray_inj]
  exact ⟨ByteArray.ext, congrArg ByteArray.data⟩

theorem utf8_append (s t : String) : utf8 (s ++ t) = utf8 s ++ utf8 t := by
  unfold utf8 String.toUTF8
  rw [String.toByteArray_append, ByteArray.data_append, Array.toList_append]

theorem length_utf8 (s : String) : (utf8 s).length = s.utf8ByteSize := rfl

theorem ofBytes?_eq_some_iff {bytes : List UInt8} {s : String} : ofBytes? bytes = some s ↔ utf8 s = bytes := by
  unfold ofBytes? String.fromUTF8?
  constructor
  · intro h
    split at h
    · cases h
      rfl
    · cases h
  · rintro rfl
    exact dif_pos s.isValidUTF8

theorem ofBytes?_eq_none_iff {bytes : List UInt8} : ofBytes? bytes = none ↔ ∀ s, utf8 s ≠ bytes := by
  simp [Option.eq_none_iff_forall_ne_some, ofBytes?_eq_some_iff]

end Text

namespace Program

def bytes (p : Program) : List UInt8 := p.flatMap Instruction.bytes

theorem bytes_cons (i : Instruction) (p : Program) : bytes (i :: p) = i.bytes ++ p.bytes := List.flatMap_cons

theorem length_bytes (p : Program) : p.bytes.length = 3 * p.length := by
  induction p with
  | nil => rfl
  | cons i p ih =>
    have hi : i.bytes.length = 3 := rfl
    rw [bytes_cons, List.length_append, ih, hi, List.length_cons]
    omega

theorem utf8_text (p : Program) : Text.utf8 p.text = p.bytes := by
  induction p with
  | nil => rfl
  | cons i p ih =>
    have htext : text (i :: p) = i.text ++ text p := String.join_cons
    rw [htext, Text.utf8_append, i.utf8_text, ih, bytes_cons]

theorem isProgramText_iff {bytes : List UInt8} : IsProgramText bytes ↔ ∃ p : Program, bytes = p.bytes := by
  constructor
  · intro h
    induction h with
    | nil => exact ⟨[], rfl⟩
    | cons hsign hsource htarget hrest ih =>
      obtain ⟨op, rfl⟩ := Operation.mem_signs.1 hsign
      obtain ⟨source, rfl⟩ := Register.mem_letters.1 hsource
      obtain ⟨target, rfl⟩ := Register.mem_letters.1 htarget
      obtain ⟨p, rfl⟩ := ih
      exact ⟨⟨op, source, target⟩ :: p, rfl⟩
  · rintro ⟨p, rfl⟩
    induction p with
    | nil => exact .nil
    | cons i p ih =>
      exact .cons (Operation.mem_signs.2 ⟨i.op, rfl⟩) (Register.mem_letters.2 ⟨i.source, rfl⟩)
        (Register.mem_letters.2 ⟨i.target, rfl⟩) ih

/-- What is left over for the reader is shorter than a triple. -/
theorem length_lt_of_short {short : List UInt8} (h : ∀ x y z rest, short = x :: y :: z :: rest → False) :
    short.length < 3 := by
  rcases short with _ | ⟨x, _ | ⟨y, _ | ⟨z, rest⟩⟩⟩
  · simp
  · simp
  · simp
  · exact (h x y z rest rfl).elim

theorem eq_bytes_of_parseFrom {offset : Nat} {bytes : List UInt8} {p : Program} (h : parseFrom offset bytes = .ok p) :
    bytes = p.bytes := by
  fun_induction parseFrom offset bytes generalizing p with
  | case1 offset =>
    cases h
    rfl
  | case2 | case3 | case5 => cases h
  | case4 offset x y z rest i hi q hq ih =>
    cases h
    rw [bytes_cons, ← ih hq, ← Instruction.decode_triple.1 hi]
    rfl
  | case6 offset short hnil hcons i hi =>
    exact absurd hi (Instruction.decode_short (length_lt_of_short hcons) i)

theorem parseFrom_bytes (offset : Nat) (p : Program) : parseFrom offset p.bytes = .ok p := by
  induction p generalizing offset with
  | nil => rfl
  | cons i p ih =>
    have hi : Instruction.decode offset [i.op.byte, i.source.byte, i.target.byte] = .ok i :=
      Instruction.decode_triple.2 rfl
    show parseFrom offset (i.op.byte :: i.source.byte :: i.target.byte :: bytes p) = _
    rw [parseFrom, hi]
    simp only [ih]

theorem parseFrom_eq_ok {offset : Nat} {bytes : List UInt8} {p : Program} :
    parseFrom offset bytes = .ok p ↔ bytes = p.bytes :=
  ⟨eq_bytes_of_parseFrom, fun h => h ▸ parseFrom_bytes offset p⟩

theorem parse_eq_ok {text : String} {p : Program} : parse text = .ok p ↔ p.text = text := by
  rw [parse, parseFrom_eq_ok, ← utf8_text, Text.utf8_inj, eq_comm]

/-- **The reader accepts exactly the grammar, and gives back the text.** A text is a program exactly if its bytes are
triples of a sign and two letters. The program that is read has this text and a third as many instructions as there are
bytes, and every program is read from its own text. -/
theorem parse_iff_isProgramText (t : String) :
    ((∃ p, parse t = .ok p) ↔ IsProgramText (Text.utf8 t)) ∧
      (∀ p, parse t = .ok p ↔ p.text = t ∧ p.length = t.utf8ByteSize / 3) ∧ ∀ p : Program, parse p.text = .ok p := by
  refine ⟨?_, fun p => ?_, fun p => parse_eq_ok.2 rfl⟩
  · rw [isProgramText_iff]
    exact exists_congr fun p => parseFrom_eq_ok
  · have hlength : p.text = t → p.length = t.utf8ByteSize / 3 := by
      rintro rfl
      rw [← Text.length_utf8, utf8_text, length_bytes]
      omega
    rw [parse_eq_ok]
    exact ⟨fun h => ⟨h, hlength h⟩, And.left⟩

end Program

end Orbit
