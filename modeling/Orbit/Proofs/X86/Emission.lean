import Orbit.X86.Buffer

/-!
# What a code buffer holds

An instruction that fits is appended to the code, and the bytes behind it stay what they were.

* `toList_overwrite` : the bytes after some of them were overwritten;
* `CodeBuffer.code_append`, `CodeBuffer.drop_append` : the code and the untouched bytes after one instruction;
* `CodeBuffer.Extends` : a buffer is another one with some code more;
* `CodeBuffer.emitAll_of_le` : instructions that fit together are emitted, all of them;
* `CodeBuffer.Cut` : the first of some instructions that does not fit (`exists_cut`). It is refused, and only those
  before it are emitted (`CodeBuffer.emitAll_of_cut`);
* `emittedBytes` : what a buffer with room for all of them holds afterwards, their encodings;
* `Emission` : attempts one after the other where some are refused and the next is made all the same. What a buffer
  holds then are the encodings of those that were not (`Emission.Sound`), and its length alone decides about the next
  (`Emission.buffer_holds_accepted`).
-/

namespace Orbit.X86

theorem toList_overwrite (bytes : Array UInt8) (position : Nat) (new : List UInt8)
    (h : position + new.length ≤ bytes.size) :
    (overwrite bytes position new).toList =
      bytes.toList.take position ++ new ++ bytes.toList.drop (position + new.length) := by
  induction new generalizing bytes position with
  | nil => simp [overwrite]
  | cons b rest ih =>
    rw [List.length_cons] at h
    have hp : position < bytes.toList.length := by
      rw [Array.length_toList]
      omega
    have hset : (bytes.setIfInBounds position b).toList =
        (bytes.toList.take position ++ [b]) ++ bytes.toList.drop (position + 1) := by
      rw [Array.toList_setIfInBounds, List.set_eq_take_append_cons_drop, if_pos hp, List.append_assoc]
      rfl
    have hlen : (bytes.toList.take position ++ [b]).length = position + 1 := by
      rw [List.length_append, List.length_take, Nat.min_eq_left (Nat.le_of_lt hp)]
      rfl
    rw [overwrite, ih _ _ (by rw [Array.size_setIfInBounds]; omega), hset, List.take_left' hlen, ← List.drop_drop,
      List.drop_left' hlen, List.drop_drop, List.length_cons,
      show position + 1 + rest.length = position + (rest.length + 1) by omega]
    simp

namespace CodeBuffer

@[simp] theorem capacity_append (b : CodeBuffer) (i : Instr) (h : b.Fits i) : (b.append i h).capacity = b.capacity :=
  size_overwrite _ _ _

@[simp] theorem length_ofBytes (room : Array UInt8) : (ofBytes room).length = 0 := rfl

@[simp] theorem capacity_ofBytes (room : Array UInt8) : (ofBytes room).capacity = room.size := rfl

@[simp] theorem code_ofBytes (room : Array UInt8) : (ofBytes room).code = [] := rfl

theorem length_code (b : CodeBuffer) : b.code.length = b.length := by
  rw [code, List.length_take, Array.length_toList, Nat.min_eq_left b.length_le]

theorem length_of_code_append {b b' : CodeBuffer} {new : List UInt8} (h : b'.code = b.code ++ new) :
    b'.length = b.length + new.length := by
  rw [← b'.length_code, h, List.length_append, b.length_code]

theorem toList_append (b : CodeBuffer) (i : Instr) (h : b.Fits i) :
    (b.append i h).bytes.toList = b.code ++ i.encode ++ b.bytes.toList.drop (b.length + i.encode.length) :=
  toList_overwrite _ _ _ h

theorem code_append (b : CodeBuffer) (i : Instr) (h : b.Fits i) : (b.append i h).code = b.code ++ i.encode := by
  have hlen : (b.code ++ i.encode).length = (b.append i h).length := by
    rw [List.length_append, length_code]
    rfl
  rw [code, toList_append, List.take_left' hlen]

theorem drop_append (b : CodeBuffer) (i : Instr) (h : b.Fits i) :
    (b.append i h).bytes.toList.drop (b.append i h).length = b.bytes.toList.drop (b.append i h).length := by
  have hlen : (b.code ++ i.encode).length = (b.append i h).length := by
    rw [List.length_append, length_code]
    rfl
  rw [toList_append, List.drop_left' hlen]
  rfl

/-- Bytes that agree from a position on agree from every later one. -/
theorem drop_eq_of_le {xs ys : List UInt8} {m n : Nat} (h : xs.drop m = ys.drop m) (hle : m ≤ n) :
    xs.drop n = ys.drop n := by
  obtain ⟨k, rfl⟩ := Nat.exists_eq_add_of_le hle
  rw [← List.drop_drop, h, List.drop_drop]

/-- The buffer `b'` is `b` with some code more: the code before it and the bytes behind it are as they were. -/
structure Extends (b' b : CodeBuffer) (new : List UInt8) : Prop where
  code : b'.code = b.code ++ new
  untouched : b'.bytes.toList.drop b'.length = b.bytes.toList.drop b'.length
  capacity : b'.capacity = b.capacity

theorem Extends.refl (b : CodeBuffer) : b.Extends b [] := ⟨(List.append_nil _).symm, rfl, rfl⟩

theorem Extends.trans {b b' b'' : CodeBuffer} {xs ys : List UInt8} (h : b'.Extends b xs) (h' : b''.Extends b' ys) :
    b''.Extends b (xs ++ ys) := by
  refine ⟨?_, ?_, h'.capacity.trans h.capacity⟩
  · rw [h'.code, h.code, List.append_assoc]
  · -- the untouched bytes of the later buffer are among those of the earlier one
    have hle : b'.length ≤ b''.length := by
      rw [length_of_code_append h'.code]
      omega
    rw [h'.untouched, drop_eq_of_le h.untouched hle]

theorem append_extends (b : CodeBuffer) (i : Instr) (h : b.Fits i) : (b.append i h).Extends b i.encode :=
  ⟨code_append b i h, drop_append b i h, capacity_append b i h⟩

/-- Instructions that fit together are emitted one after the other; behind them nothing changes. -/
theorem emitAll_of_le (b : CodeBuffer) (instrs : List Instr)
    (h : b.length + (encodeAll instrs).length ≤ b.capacity) :
    ∃ b' : CodeBuffer, b.emitAll instrs = (b', none) ∧ b'.Extends b (encodeAll instrs) := by
  induction instrs generalizing b with
  | nil => exact ⟨b, rfl, .refl b⟩
  | cons i rest ih =>
    rw [encodeAll_cons, List.length_append] at h
    have hfit : b.Fits i := show b.length + i.encode.length ≤ b.capacity by omega
    have hnext : (b.append i hfit).length = b.length + i.encode.length := rfl
    obtain ⟨b', hemit, hextends⟩ := ih (b.append i hfit) (by rw [hnext, capacity_append]; omega)
    refine ⟨b', ?_, (append_extends b i hfit).trans hextends⟩
    rw [emitAll, dif_pos hfit, hemit]

theorem emitAll_append {b b' : CodeBuffer} {xs : List Instr} (h : b.emitAll xs = (b', none)) (ys : List Instr) :
    b.emitAll (xs ++ ys) = b'.emitAll ys := by
  induction xs generalizing b with
  | nil =>
    cases h
    rfl
  | cons i xs ih =>
    by_cases hfit : b.Fits i
    · rw [emitAll, dif_pos hfit] at h
      rw [List.cons_append, emitAll, dif_pos hfit, ih h]
    · rw [emitAll, dif_neg hfit] at h
      cases h

/-- Instructions that do not fit together: those of `before` do, and `refused` behind them is the first that does
not. -/
structure Cut (b : CodeBuffer) (instrs before : List Instr) (refused : Instr) : Prop where
  begins : before ++ [refused] <+: instrs
  fits : b.length + (encodeAll before).length ≤ b.capacity
  overflows : b.capacity < b.length + (encodeAll (before ++ [refused])).length

theorem exists_cut (b : CodeBuffer) (instrs : List Instr) (h : b.capacity < b.length + (encodeAll instrs).length) :
    ∃ before refused, b.Cut instrs before refused := by
  induction instrs generalizing b with
  | nil => exact absurd h (Nat.not_lt_of_le b.length_le)
  | cons i rest ih =>
    rw [encodeAll_cons, List.length_append] at h
    by_cases hfit : b.Fits i
    · have hnext : (b.append i hfit).length = b.length + i.encode.length := rfl
      obtain ⟨before, refused, hbegins, hfits, hoverflows⟩ :=
        ih (b.append i hfit) (by rw [hnext, capacity_append]; omega)
      rw [hnext, capacity_append] at hfits hoverflows
      refine ⟨i :: before, refused, List.cons_prefix_cons.2 ⟨rfl, hbegins⟩, ?_, ?_⟩
      · rw [encodeAll_cons, List.length_append]
        omega
      · rw [List.cons_append, encodeAll_cons, List.length_append]
        omega
    · have hlt : b.capacity < b.length + i.encode.length := Nat.lt_of_not_le hfit
      exact ⟨[], i, List.prefix_append [i] rest, b.length_le, by simpa using hlt⟩

/-- What is before the first instruction that does not fit is emitted, and that instruction is refused. -/
theorem emitAll_of_cut {b : CodeBuffer} {instrs before : List Instr} {refused : Instr}
    (h : b.Cut instrs before refused) :
    ∃ b' : CodeBuffer, b'.Extends b (encodeAll before) ∧ b.emitAll instrs =
      (b', some (.codeOverflow b.capacity (b.length + (encodeAll (before ++ [refused])).length))) := by
  obtain ⟨after, hafter⟩ := h.begins
  obtain ⟨b', hemit, hextends⟩ := b.emitAll_of_le before h.fits
  have hend : b'.length + refused.encode.length = b.length + (encodeAll (before ++ [refused])).length := by
    rw [length_of_code_append hextends.code, encodeAll_append, encodeAll_cons, encodeAll_nil, List.append_nil,
      List.length_append, Nat.add_assoc]
  have hrefused : ¬ b'.Fits refused := by
    have hlt := h.overflows
    rw [← hend, ← hextends.capacity] at hlt
    exact Nat.not_le_of_lt hlt
  refine ⟨b', hextends, ?_⟩
  rw [← hafter, List.append_assoc, emitAll_append hemit, List.cons_append, emitAll, dif_neg hrefused, overflow, hend,
    hextends.capacity]

theorem emitAll_singleton_of_fits {b : CodeBuffer} {i : Instr} (h : b.Fits i) :
    b.emitAll [i] = (b.append i h, none) := by
  rw [emitAll, dif_pos h]
  rfl

theorem emitAll_singleton_of_not_fits {b : CodeBuffer} {i : Instr} (h : ¬ b.Fits i) :
    b.emitAll [i] = (b, some (.codeOverflow b.capacity (b.length + i.encode.length))) := by
  rw [emitAll, dif_neg h]
  rfl

end CodeBuffer

/-! ## Bytes for a sequence of instructions -/

/-- What is in a buffer after instructions were emitted into it, with room for the longest encoding of each. -/
def emittedBytes (instrs : List Instr) : List UInt8 :=
  ((CodeBuffer.zeroed (8 * instrs.length)).emitAll instrs).1.code

theorem length_encodeAll_le (instrs : List Instr) : (encodeAll instrs).length ≤ 8 * instrs.length := by
  induction instrs with
  | nil => exact Nat.le_refl _
  | cons i instrs ih =>
    have hi := encode_length_le i
    rw [encodeAll_cons, List.length_append, List.length_cons]
    omega

theorem emittedBytes_eq (instrs : List Instr) : emittedBytes instrs = encodeAll instrs := by
  have hfit := length_encodeAll_le instrs
  unfold emittedBytes CodeBuffer.zeroed
  obtain ⟨b, hemit, hcode, -, -⟩ := CodeBuffer.emitAll_of_le (.ofBytes (Array.replicate (8 * instrs.length) 0)) instrs
    (by simpa using hfit)
  rw [hemit, hcode, CodeBuffer.code_ofBytes, List.nil_append]

/-! ## Attempts one after the other -/

/-- An instruction that was to be emitted, and the fault if it was refused. -/
structure Attempt where
  instr : Instr
  fault? : Option Fault

structure Emission where
  attempts : List Attempt
  buffer : CodeBuffer

namespace Emission

def start (room : Array UInt8) : Emission := ⟨[], .ofBytes room⟩

/-- The next attempt, whatever came of those before. -/
def step (e : Emission) (i : Instr) : Emission :=
  let (buffer, fault?) := e.buffer.emitAll [i]
  ⟨e.attempts ++ [⟨i, fault?⟩], buffer⟩

def accepted (e : Emission) : List Instr := (e.attempts.filter (·.fault?.isNone)).map Attempt.instr

theorem step_eq_of_emitAll {e : Emission} {i : Instr} {b : CodeBuffer} {fault? : Option Fault}
    (h : e.buffer.emitAll [i] = (b, fault?)) : e.step i = ⟨e.attempts ++ [⟨i, fault?⟩], b⟩ := by
  rw [step, h]

theorem accepted_append (attempts : List Attempt) (a : Attempt) (b b' : CodeBuffer) :
    accepted ⟨attempts ++ [a], b'⟩ = accepted ⟨attempts, b⟩ ++ if a.fault?.isNone then [a.instr] else [] := by
  unfold accepted
  rw [List.filter_append, List.map_append]
  cases h : a.fault?.isNone <;> simp [h]

/-- The buffer holds the encodings of what was accepted, and behind them what it held at the start. -/
structure Sound (room : Array UInt8) (e : Emission) : Prop where
  capacity : e.buffer.capacity = room.size
  code : e.buffer.code = encodeAll e.accepted
  untouched : e.buffer.bytes.toList.drop e.buffer.length = room.toList.drop e.buffer.length

theorem sound_start (room : Array UInt8) : Sound room (start room) := ⟨rfl, rfl, rfl⟩

theorem Sound.step {room : Array UInt8} {e : Emission} (h : Sound room e) (i : Instr) : Sound room (e.step i) := by
  by_cases hfit : e.buffer.Fits i
  · rw [step_eq_of_emitAll (CodeBuffer.emitAll_singleton_of_fits hfit)]
    refine ⟨(e.buffer.capacity_append i hfit).trans h.capacity, ?_, ?_⟩
    · rw [accepted_append e.attempts ⟨i, none⟩ e.buffer, encodeAll_append, ← h.code]
      show (e.buffer.append i hfit).code = e.buffer.code ++ encodeAll [i]
      rw [CodeBuffer.code_append, encodeAll_cons, encodeAll_nil, List.append_nil]
    · -- the cursor only moves forward, over bytes that were as at the start
      have hle : e.buffer.length ≤ (e.buffer.append i hfit).length := Nat.le_add_right _ _
      exact (e.buffer.drop_append i hfit).trans (CodeBuffer.drop_eq_of_le h.untouched hle)
  · rw [step_eq_of_emitAll (CodeBuffer.emitAll_singleton_of_not_fits hfit)]
    refine ⟨h.capacity, ?_, h.untouched⟩
    rw [accepted_append e.attempts _ e.buffer e.buffer, encodeAll_append, ← h.code]
    exact (List.append_nil _).symm

theorem Sound.foldl_step {room : Array UInt8} {e : Emission} (h : Sound room e) (instrs : List Instr) :
    Sound room (instrs.foldl Emission.step e) := by
  induction instrs generalizing e with
  | nil => exact h
  | cons i instrs ih => exact ih (h.step i)

theorem map_instr_foldl_step (e : Emission) (instrs : List Instr) :
    (instrs.foldl step e).attempts.map Attempt.instr = e.attempts.map Attempt.instr ++ instrs := by
  induction instrs generalizing e with
  | nil => exact (List.append_nil _).symm
  | cons i instrs ih =>
    have hstep : (e.step i).attempts.map Attempt.instr = e.attempts.map Attempt.instr ++ [i] := by
      rw [step_eq_of_emitAll rfl, List.map_append]
      rfl
    rw [List.foldl_cons, ih, hstep, List.append_assoc]
    rfl

/-- **What a buffer holds after any attempts.** Whatever it held at first and however many attempts were refused, the
code is the encodings of the accepted ones, in order, and the bytes behind it are as they were. The next instruction is
accepted exactly if its end is within the capacity; otherwise the fault names the capacity and that end, and the
buffer stays as it is. -/
theorem buffer_holds_accepted (room : Array UInt8) (instrs : List Instr) :
    let e := instrs.foldl step (start room)
    let b := e.buffer
    e.attempts.map Attempt.instr = instrs ∧ b.capacity = room.size ∧ b.length ≤ room.size ∧
      b.code = encodeAll e.accepted ∧ (∀ k, b.bytes[b.length + k]? = room[b.length + k]?) ∧
      ∀ i, (b.emit i = .ok (e.step i).buffer ↔ b.length + i.encode.length ≤ room.size) ∧
        (b.emit i = .error (.codeOverflow room.size (b.length + i.encode.length)) ∧ (e.step i).buffer = b ↔
          room.size < b.length + i.encode.length) := by
  intro e b
  have hsound : Sound room e := (sound_start room).foldl_step instrs
  have hcapacity : b.capacity = room.size := hsound.capacity
  have hfits (i : Instr) : b.Fits i ↔ b.length + i.encode.length ≤ room.size := by
    rw [← hcapacity]
    rfl
  refine ⟨map_instr_foldl_step (start room) instrs, hcapacity, ?_, hsound.code, ?_, fun i => ?_⟩
  · rw [← hcapacity]
    exact b.length_le
  · intro k
    rw [← Array.getElem?_toList, ← Array.getElem?_toList, ← List.getElem?_drop, ← List.getElem?_drop,
      hsound.untouched]
  · by_cases hfit : b.Fits i
    · have hemit : b.emit i = .ok (b.append i hfit) := dif_pos hfit
      have hle := (hfits i).1 hfit
      rw [step_eq_of_emitAll (CodeBuffer.emitAll_singleton_of_fits hfit), hemit]
      refine ⟨iff_of_true rfl hle, iff_of_false ?_ (by omega)⟩
      rintro ⟨hrefused, -⟩
      cases hrefused
    · have hemit : b.emit i = .error (.codeOverflow b.capacity (b.length + i.encode.length)) := dif_neg hfit
      rw [step_eq_of_emitAll (CodeBuffer.emitAll_singleton_of_not_fits hfit), hemit, hcapacity]
      rw [hfits i, Nat.not_le] at hfit
      refine ⟨iff_of_false ?_ (by omega), iff_of_true ⟨rfl, rfl⟩ hfit⟩
      intro haccepted
      cases haccepted

/-- Six bytes take a load and no second one, but a `ret` still fits behind the first. -/
example :
    let e := [.memory .loadLow .xmm0 0, .memory .loadLow .xmm1 8, .ret].foldl step (start (.replicate 6 0))
    e.buffer.code = [0xF2, 0x0F, 0x10, 0x47, 0x00, 0xC3] ∧
      e.attempts.map Attempt.fault? = [none, some (.codeOverflow 6 10), none] := by
  decide

end Emission

end Orbit.X86
