import Orbit.X86.Instr

/-!
# Decoding

The reader of machine code: it looks at the mandatory byte, the escape, the opcode and the fields of the
ModRM byte, extends the sign of a one-byte displacement and puts a four-byte one together. It knows the
instructions of `Instr` and nothing else.

* `decode?` : the first instruction of some bytes, and the bytes after it.
* `routine?` : the instructions up to the first `ret`.
-/

namespace Orbit.X86

/-- The memory instruction with a mandatory byte and an opcode. -/
def MemoryOp.ofBytes? (lead opcode : UInt8) : Option MemoryOp :=
  if lead = 0x66 then
    if opcode = 0x10 then some .loadPair
    else if opcode = 0x11 then some .storePair
    else if opcode = 0x58 then some .addPair
    else none
  else if lead = 0xF2 then
    if opcode = 0x10 then some .loadLow
    else if opcode = 0x11 then some .storeLow
    else none
  else none

def VectorOp.ofBytes? (lead opcode : UInt8) : Option VectorOp :=
  if lead = 0xF2 then
    if opcode = 0x11 then some .copyLow
    else if opcode = 0x59 then some .mulLow
    else if opcode = 0x58 then some .addLow
    else if opcode = 0x5C then some .subLow
    else none
  else none

/-- The displacement in one signed byte. -/
def shortDisp (b : UInt8) : Int32 := b.toInt8.toInt32

/-- The displacement in four bytes, lowest first. -/
def longDisp (b0 b1 b2 b3 : UInt8) : Int32 :=
  (b0.toUInt32 ||| b1.toUInt32 <<< 8 ||| b2.toUInt32 <<< 16 ||| b3.toUInt32 <<< 24).toInt32

def decodeVector? (lead opcode reg operand : UInt8) : Option Instr := do
  let op ← VectorOp.ofBytes? lead opcode
  let first ← Xmm.ofNumber? reg
  let second ← Xmm.ofNumber? operand
  match op with
  | .copyLow => some (.vector op second first)
  | _ => some (.vector op first second)

/-- An instruction on vector registers, from the bytes that follow the escape. -/
def decodeEscaped? (lead opcode fields : UInt8) (rest : List UInt8) : Option (Instr × List UInt8) :=
  let mode := fields >>> 6
  let reg := fields >>> 3 &&& 7
  let operand := fields &&& 7
  if mode = 3 then (decodeVector? lead opcode reg operand).map fun i => (i, rest)
  else if operand = 7 then do
    let op ← MemoryOp.ofBytes? lead opcode
    let x ← Xmm.ofNumber? reg
    if mode = 1 then
      match rest with
      | b :: rest => some (.memory op x (shortDisp b), rest)
      | _ => none
    else if mode = 2 then
      match rest with
      | b0 :: b1 :: b2 :: b3 :: rest => some (.memory op x (longDisp b0 b1 b2 b3), rest)
      | _ => none
    else none
  else none

/-- The first instruction of some bytes and the bytes after it. -/
def decode? : List UInt8 → Option (Instr × List UInt8)
  | [] => none
  | b :: rest =>
    if b = 0x57 then some (.pushRdi, rest)
    else if b = 0x5F then some (.popRdi, rest)
    else if b = 0xC3 then some (.ret, rest)
    else if b = 0x48 then
      match rest with
      | 0x89 :: 0xCF :: rest => some (.movRdiRcx, rest)
      | _ => none
    else
      match rest with
      | 0x0F :: opcode :: fields :: rest => decodeEscaped? b opcode fields rest
      | _ => none

theorem length_of_decodeEscaped? {lead opcode fields : UInt8} {bytes rest : List UInt8} {i : Instr}
    (h : decodeEscaped? lead opcode fields bytes = some (i, rest)) : rest.length ≤ bytes.length := by
  unfold decodeEscaped? at h
  simp only at h
  split at h
  · simp only [Option.map_eq_some_iff, Prod.mk.injEq] at h
    obtain ⟨_, _, _, rfl⟩ := h
    exact Nat.le_refl _
  · split at h
    · simp only [Option.bind_eq_bind, Option.bind_eq_some_iff] at h
      obtain ⟨_, _, _, _, h⟩ := h
      split at h
      · split at h
        · simp only [Option.some.injEq, Prod.mk.injEq] at h
          obtain ⟨_, rfl⟩ := h
          simp
        · simp at h
      · split at h
        · split at h
          · simp only [Option.some.injEq, Prod.mk.injEq] at h
            obtain ⟨_, rfl⟩ := h
            simp only [List.length_cons]
            omega
          · simp at h
        · simp at h
    · simp at h

/-- Decoding uses up at least one byte. -/
theorem length_of_decode? {bytes rest : List UInt8} {i : Instr} (h : decode? bytes = some (i, rest)) :
    rest.length < bytes.length := by
  unfold decode? at h
  split at h
  · simp at h
  · split at h
    · simp_all
    · split at h
      · simp_all
      · split at h
        · simp_all
        · split at h
          · split at h
            · simp only [Option.some.injEq, Prod.mk.injEq] at h
              obtain ⟨_, rfl⟩ := h
              simp only [List.length_cons]
              omega
            · simp at h
          · split at h
            · have := length_of_decodeEscaped? h
              simp only [List.length_cons]
              omega
            · simp at h

/-- The instructions in some bytes up to and with the first `ret`, if the bytes decode that far. -/
def routine? (bytes : List UInt8) : Option (List Instr) :=
  match _h : decode? bytes with
  | none => none
  | some (.ret, _) => some [.ret]
  | some (i, rest) => (routine? rest).map (i :: ·)
termination_by bytes.length
decreasing_by exact length_of_decode? _h

end Orbit.X86
