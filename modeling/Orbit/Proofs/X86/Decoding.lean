import Orbit.Proofs.X86.Emission
import Orbit.X86.Decode

/-!
# Decoding gives back what was encoded

* `decode?_encode` : the first instruction of `i.encode ++ rest` is `i`, and `rest` is what follows it;
* `decodeAll?` : all instructions of some bytes, if the bytes decode to the last one; `decodeAll?_encodeAll`;
* `routine?_encodeAll` : the instructions up to the first `ret`, whatever stands after it;
* `emittedBytes_uniquely_decodable` : bytes in front of other bytes come from instructions in front of the others.

The displacement is the one operand that is not a field of a byte: `shortDisp_of_isShort` for one byte with its
sign, `longDisp_littleEndian` for four.
-/

namespace Orbit.X86

/-! ## Displacements -/

theorem shortDisp_of_isShort {disp : Int32} (h : isShort disp = true) :
    shortDisp disp.toUInt32.toUInt8 = disp := by
  simp only [isShort, decide_eq_true_eq] at h
  have e : disp.toUInt32.toUInt8.toInt8 = disp.toInt8 := by
    apply Int8.toBitVec.inj
    exact (BitVec.signExtend_eq_setWidth_of_le disp.toBitVec (by decide)).symm
  apply Int32.toInt.inj
  rw [shortDisp, e, Int8.toInt_toInt32, Int32.toInt_toInt8]
  exact Int.bmod_eq_of_le (by omega) (by omega)

/-- The bits of the byte at place `k` of a word. -/
theorem getLsbD_byte (w : BitVec 32) (k : Nat) {i : Nat} (hi : i < 32) :
    (((w >>> k).setWidth 8).setWidth 32 <<< k).getLsbD i = (decide (k ≤ i ∧ i < k + 8) && w.getLsbD i) := by
  simp only [BitVec.getLsbD_shiftLeft, BitVec.getLsbD_setWidth, BitVec.getLsbD_ushiftRight]
  by_cases hk : k ≤ i
  · rw [show k + (i - k) = i by omega]
    by_cases h8 : i < k + 8
    · simp [hi, hk, h8, show i - k < 32 by omega, show i - k < 8 by omega]
    · simp [h8, show ¬ i - k < 8 by omega]
  · simp [hk, show i < k by omega]

theorem word_of_bytes (w : BitVec 32) :
    (w.setWidth 8).setWidth 32 ||| ((w >>> 8).setWidth 8).setWidth 32 <<< 8 |||
      ((w >>> 16).setWidth 8).setWidth 32 <<< 16 ||| ((w >>> 24).setWidth 8).setWidth 32 <<< 24 = w := by
  apply BitVec.eq_of_getLsbD_eq
  intro i hi
  have h0 : ((w.setWidth 8).setWidth 32).getLsbD i = (decide (i < 8) && w.getLsbD i) := by
    simpa using getLsbD_byte w 0 hi
  rw [BitVec.getLsbD_or, BitVec.getLsbD_or, BitVec.getLsbD_or, h0, getLsbD_byte w 8 hi, getLsbD_byte w 16 hi,
    getLsbD_byte w 24 hi]
  cases w.getLsbD i with
  | false => simp
  | true =>
    -- every place below 32 lies in one of the four bytes
    simp only [Bool.and_true, Bool.or_eq_true, decide_eq_true_eq]
    omega

theorem longDisp_littleEndian (disp : Int32) :
    longDisp disp.toUInt32.toUInt8 (disp.toUInt32 >>> 8).toUInt8 (disp.toUInt32 >>> 16).toUInt8
      (disp.toUInt32 >>> 24).toUInt8 = disp := by
  apply Int32.toBitVec.inj
  exact word_of_bytes disp.toBitVec

/-! ## Fields of the ModRM byte -/

theorem modRM_memory (x : Xmm) {mode : UInt8} (h : mode = 1 ∨ mode = 2) :
    modRM mode x.number rdiNumber >>> 6 = mode ∧ modRM mode x.number rdiNumber >>> 3 &&& 7 = x.number ∧
      modRM mode x.number rdiNumber &&& 7 = 7 := by
  rcases h with rfl | rfl <;> cases x <;> decide

theorem modRM_vector (x y : Xmm) :
    modRM 3 x.number y.number >>> 6 = 3 ∧ modRM 3 x.number y.number >>> 3 &&& 7 = x.number ∧
      modRM 3 x.number y.number &&& 7 = y.number := by
  cases x <;> cases y <;> decide

@[simp] theorem MemoryOp.ofBytes?_lead_opcode (op : MemoryOp) : ofBytes? op.lead op.opcode = some op := by
  cases op <;> rfl

@[simp] theorem VectorOp.ofBytes?_opcode (op : VectorOp) : ofBytes? 0xF2 op.opcode = some op := by
  cases op <;> rfl

/-! ## One instruction -/

theorem decodeEscaped?_short (op : MemoryOp) (x : Xmm) (b : UInt8) (rest : List UInt8) :
    decodeEscaped? op.lead op.opcode (modRM 1 x.number rdiNumber) (b :: rest) =
      some (.memory op x (shortDisp b), rest) := by
  obtain ⟨hm, hr, ho⟩ := modRM_memory x (Or.inl rfl)
  simp [decodeEscaped?, hm, hr, ho]

theorem decodeEscaped?_long (op : MemoryOp) (x : Xmm) (b0 b1 b2 b3 : UInt8) (rest : List UInt8) :
    decodeEscaped? op.lead op.opcode (modRM 2 x.number rdiNumber) (b0 :: b1 :: b2 :: b3 :: rest) =
      some (.memory op x (longDisp b0 b1 b2 b3), rest) := by
  obtain ⟨hm, hr, ho⟩ := modRM_memory x (Or.inr rfl)
  simp [decodeEscaped?, hm, hr, ho]

theorem decodeEscaped?_vector (op : VectorOp) (target source : Xmm) (rest : List UInt8) :
    decodeEscaped? 0xF2 op.opcode (op.modRM target source) rest = some (.vector op target source, rest) := by
  -- a copy names its source first, so it is read with the fields the other way round
  cases op with
  | copyLow =>
    obtain ⟨hm, hr, ho⟩ := modRM_vector source target
    simp [decodeEscaped?, decodeVector?, VectorOp.modRM, hm, hr, ho]
  | _ =>
    obtain ⟨hm, hr, ho⟩ := modRM_vector target source
    simp [decodeEscaped?, decodeVector?, VectorOp.modRM, hm, hr, ho]

/-- A byte in front of the escape is none of the instructions of one byte. -/
theorem decode?_escape {lead : UInt8} (h : lead = 0x66 ∨ lead = 0xF2) (opcode fields : UInt8) (rest : List UInt8) :
    decode? (lead :: 0x0F :: opcode :: fields :: rest) = decodeEscaped? lead opcode fields rest := by
  rcases h with rfl | rfl <;> rfl

theorem MemoryOp.lead_eq (op : MemoryOp) : op.lead = 0x66 ∨ op.lead = 0xF2 := by cases op <;> decide

/-- **Decoding gives back the instruction** and the bytes after it. -/
theorem decode?_encode (i : Instr) (rest : List UInt8) : decode? (i.encode ++ rest) = some (i, rest) := by
  cases i with
  | memory op x disp =>
    by_cases h : isShort disp = true
    · have e : (Instr.memory op x disp).encode ++ rest =
          op.lead :: 0x0F :: op.opcode :: modRM 1 x.number rdiNumber :: disp.toUInt32.toUInt8 :: rest := by
        simp [Instr.encode, operandBytes, h]
      rw [e, decode?_escape op.lead_eq, decodeEscaped?_short, shortDisp_of_isShort h]
    · have e : (Instr.memory op x disp).encode ++ rest =
          op.lead :: 0x0F :: op.opcode :: modRM 2 x.number rdiNumber :: disp.toUInt32.toUInt8 ::
            (disp.toUInt32 >>> 8).toUInt8 :: (disp.toUInt32 >>> 16).toUInt8 :: (disp.toUInt32 >>> 24).toUInt8 ::
              rest := by
        simp [Instr.encode, operandBytes, littleEndian, h]
      rw [e, decode?_escape op.lead_eq, decodeEscaped?_long, longDisp_littleEndian]
  | vector op target source =>
    have e : (Instr.vector op target source).encode ++ rest =
        0xF2 :: 0x0F :: op.opcode :: op.modRM target source :: rest := rfl
    rw [e, decode?_escape (Or.inr rfl), decodeEscaped?_vector]
  | pushRdi => rfl
  | movRdiRcx => rfl
  | popRdi => rfl
  | ret => rfl

/-! ## Instructions in a row -/

/-- All instructions of some bytes, if the bytes decode to the last one. -/
def decodeAll? (bytes : List UInt8) : Option (List Instr) :=
  if bytes.isEmpty then some []
  else
    match _h : decode? bytes with
    | none => none
    | some (i, rest) => (decodeAll? rest).map (i :: ·)
termination_by bytes.length
decreasing_by exact length_of_decode? _h

theorem decodeAll?_append {i : Instr} {bytes rest : List UInt8} (h : decode? bytes = some (i, rest)) :
    decodeAll? bytes = (decodeAll? rest).map (i :: ·) := by
  have hne : bytes.isEmpty = false := by
    cases bytes with
    | nil => simp [decode?] at h
    | cons b bytes => rfl
  rw [decodeAll?, hne, if_neg Bool.false_ne_true]
  split <;> simp_all

theorem decodeAll?_encodeAll (instrs : List Instr) : decodeAll? (encodeAll instrs) = some instrs := by
  induction instrs with
  | nil => rw [encodeAll_nil, decodeAll?]; rfl
  | cons i instrs ih => rw [encodeAll_cons, decodeAll?_append (decode?_encode i _), ih]; rfl

theorem routine?_ret {bytes rest : List UInt8} (h : decode? bytes = some (.ret, rest)) :
    routine? bytes = some [.ret] := by
  rw [routine?]
  split <;> simp_all

theorem routine?_cons {i : Instr} {bytes rest : List UInt8} (h : decode? bytes = some (i, rest)) (hi : i ≠ .ret) :
    routine? bytes = (routine? rest).map (i :: ·) := by
  rw [routine?]
  split <;> simp_all

/-- A routine is read up to its `ret`, whatever stands after it. -/
theorem routine?_encodeAll {front : List Instr} (h : .ret ∉ front) (rest : List UInt8) :
    routine? (encodeAll (front ++ [.ret]) ++ rest) = some (front ++ [.ret]) := by
  induction front with
  | nil =>
    have e : encodeAll ([] ++ [Instr.ret]) ++ rest = Instr.ret.encode ++ rest := rfl
    rw [e, routine?_ret (decode?_encode .ret rest)]
    rfl
  | cons i front ih =>
    rw [List.mem_cons, not_or] at h
    rw [List.cons_append, encodeAll_cons, List.append_assoc, routine?_cons (decode?_encode i _) (Ne.symm h.1),
      ih h.2]
    rfl

/-! ## One reading -/

/-- Bytes that stand in front of others come from instructions that stand in front of the others. -/
theorem isPrefix_of_encodeAll {xs ys : List Instr} (h : encodeAll xs <+: encodeAll ys) : xs <+: ys := by
  induction xs generalizing ys with
  | nil => exact List.nil_prefix
  | cons x xs ih =>
    obtain ⟨rest, hrest⟩ := h
    cases ys with
    | nil =>
      have hlen := congrArg List.length hrest
      have hpos := encode_length_pos x
      rw [encodeAll_cons, encodeAll_nil, List.length_append, List.length_append, List.length_nil] at hlen
      omega
    | cons y ys =>
      rw [encodeAll_cons, encodeAll_cons, List.append_assoc] at hrest
      -- both are read from the same bytes, so that the first instructions and what follows them agree
      have hread := decode?_encode x (encodeAll xs ++ rest)
      rw [hrest, decode?_encode y (encodeAll ys), Option.some.injEq, Prod.mk.injEq] at hread
      obtain ⟨rfl, htail⟩ := hread
      exact List.cons_prefix_cons.2 ⟨rfl, ih ⟨rest, htail.symm⟩⟩

theorem encodeAll_prefix_iff {xs ys : List Instr} : encodeAll xs <+: encodeAll ys ↔ xs <+: ys := by
  constructor
  · exact isPrefix_of_encodeAll
  · rintro ⟨rest, rfl⟩
    rw [encodeAll_append]
    exact List.prefix_append _ _

theorem encodeAll_inj {xs ys : List Instr} : encodeAll xs = encodeAll ys ↔ xs = ys := by
  constructor
  · intro h
    have hread := decodeAll?_encodeAll xs
    rw [h, decodeAll?_encodeAll ys, Option.some.injEq] at hread
    exact hread.symm
  · rintro rfl
    rfl

theorem length_encode_memory (op : MemoryOp) (x : Xmm) (disp : Int32) :
    (Instr.memory op x disp).encode.length = if -128 ≤ disp.toInt ∧ disp.toInt ≤ 127 then 5 else 8 := by
  have hlen : (Instr.memory op x disp).encode.length = 3 + (operandBytes x disp).length := by
    show (op.lead :: 0x0F :: op.opcode :: operandBytes x disp).length = _
    rw [List.length_cons, List.length_cons, List.length_cons]
    omega
  rw [hlen, operandBytes, isShort]
  by_cases h : -128 ≤ disp.toInt ∧ disp.toInt ≤ 127
  · rw [if_pos h, if_pos (decide_eq_true h)]
    rfl
  · rw [if_neg h, if_neg (by rwa [decide_eq_true_eq])]
    rfl

/-- **Emitted code has one reading.** The bytes for some instructions start with the bytes for others exactly if the
instructions do. The decoder gives back every instruction with its registers and its displacement, whatever follows,
and a displacement takes one byte exactly if it fits in a signed one. -/
theorem emittedBytes_uniquely_decodable (xs ys : List Instr) :
    (emittedBytes xs <+: emittedBytes ys ↔ xs <+: ys) ∧ (emittedBytes xs = emittedBytes ys ↔ xs = ys) ∧
      decodeAll? (emittedBytes xs) = some xs ∧ (∀ i rest, decode? (emittedBytes [i] ++ rest) = some (i, rest)) ∧
      ∀ op x disp, (emittedBytes [.memory op x disp]).length =
        if -128 ≤ disp.toInt ∧ disp.toInt ≤ 127 then 5 else 8 := by
  have hsingle (i : Instr) : emittedBytes [i] = i.encode := by
    rw [emittedBytes_eq, encodeAll_cons, encodeAll_nil, List.append_nil]
  rw [emittedBytes_eq xs, emittedBytes_eq ys]
  refine ⟨encodeAll_prefix_iff, encodeAll_inj, decodeAll?_encodeAll xs, ?_, ?_⟩
  · intro i rest
    rw [hsingle, decode?_encode]
  · intro op x disp
    rw [hsingle, length_encode_memory]

/-- The last short displacement and the first long one have the same lowest byte. -/
example : emittedBytes [.memory .loadPair .xmm0 (-128)] = [0x66, 0x0F, 0x10, 0x47, 0x80] ∧
    emittedBytes [.memory .loadPair .xmm0 128] = [0x66, 0x0F, 0x10, 0x87, 0x80, 0, 0, 0] := by
  decide

end Orbit.X86
