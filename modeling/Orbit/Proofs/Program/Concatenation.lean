import Mathlib.Logic.Function.Iterate
import Orbit.Program.Run
import Orbit.Proofs.Program.Refusal
import Orbit.Routine.Compile

/-!
# Texts one after the other

A program text in front of another text is carried out before it, if the other is a program text too; otherwise
nothing is carried out at all, and the fault is the one of the other text, as many bytes further on.

* `Program.parseFrom_bytes_append` : behind a program the reader goes on as from there. A program ends where a triple
  ends, so that the triples of what follows stay what they are;
* `Program.parseFrom_error_add` : a fault moves with the place where the bytes start;
* `Program.run_append` : one program after the other;
* `Program.runText_append_all_or_nothing` : what follows for texts.
-/

namespace Orbit.Program

variable {s t : String} {p q : Program}

/-! ## Reading -/

theorem parseFrom_bytes_append (offset : Nat) (p : Program) (rest : List UInt8) :
    parseFrom offset (p.bytes ++ rest) = (parseFrom (offset + p.bytes.length) rest).map (p ++ ·) := by
  induction p generalizing offset with
  | nil =>
    show parseFrom offset rest = (parseFrom offset rest).map ([] ++ ·)
    cases parseFrom offset rest <;> rfl
  | cons i p ih =>
    have hi : Instruction.decode offset [i.op.byte, i.source.byte, i.target.byte] = .ok i :=
      Instruction.decode_triple.2 rfl
    have hend : offset + (bytes (i :: p)).length = offset + 3 + (bytes p).length := by
      rw [length_bytes, length_bytes, List.length_cons]
      omega
    show parseFrom offset (i.op.byte :: i.source.byte :: i.target.byte :: (bytes p ++ rest)) = _
    rw [parseFrom, hi, hend]
    simp only [ih]
    cases parseFrom (offset + 3 + (bytes p).length) rest <;> rfl

theorem parseFrom_error_add {offset place : Nat} {bytes : List UInt8} {fragment : String} {byte : UInt8}
    (h : parseFrom offset bytes = .error (.undefinedInstruction place fragment byte)) (distance : Nat) :
    parseFrom (offset + distance) bytes = .error (.undefinedInstruction (place + distance) fragment byte) := by
  obtain ⟨htext, k, hk, hfault⟩ := parseFrom_eq_error.1 h
  refine parseFrom_eq_error.2 ⟨htext, k, hk, ?_⟩
  rw [faultAt, Fault.undefinedInstruction.injEq] at hfault
  obtain ⟨rfl, rfl, rfl⟩ := hfault
  rw [faultAt, Nat.add_right_comm]

theorem utf8_of_parse (h : parse s = .ok p) : Text.utf8 s = p.bytes := parseFrom_eq_ok.1 h

theorem parse_append (h : parse s = .ok p) (t : String) :
    parse (s ++ t) = (parseFrom s.utf8ByteSize (Text.utf8 t)).map (p ++ ·) := by
  rw [parse, Text.utf8_append, utf8_of_parse h, parseFrom_bytes_append, ← utf8_of_parse h, Text.length_utf8,
    Nat.zero_add]

theorem parse_append_ok (hs : parse s = .ok p) (ht : parse t = .ok q) : parse (s ++ t) = .ok (p ++ q) := by
  have hq : parseFrom s.utf8ByteSize (Text.utf8 t) = .ok q := parseFrom_eq_ok.2 (utf8_of_parse ht)
  rw [parse_append hs, hq]
  rfl

theorem parse_append_error {place : Nat} {fragment : String} {byte : UInt8} (hs : parse s = .ok p)
    (ht : parse t = .error (.undefinedInstruction place fragment byte)) :
    parse (s ++ t) = .error (.undefinedInstruction (place + s.utf8ByteSize) fragment byte) := by
  have hfault := parseFrom_error_add ht s.utf8ByteSize
  rw [Nat.zero_add] at hfault
  rw [parse_append hs, hfault]
  rfl

theorem exists_undefinedInstruction_of_parse {fault : Fault} (h : parse t = .error fault) :
    ∃ place fragment byte, fault = .undefinedInstruction place fragment byte := by
  obtain ⟨-, k, -, hfault⟩ := parseFrom_eq_error.1 h
  exact ⟨_, _, _, hfault⟩

theorem parse_join_replicate (h : parse s = .ok p) (n : Nat) :
    parse (String.join (List.replicate n s)) = .ok (List.replicate n p).flatten := by
  induction n with
  | zero => rfl
  | succ n ih =>
    rw [List.replicate_succ, String.join_cons, List.replicate_succ, List.flatten_cons]
    exact parse_append_ok h ih

/-! ## Running -/

variable {α : Type} [Scalar α]

theorem run_append (p q : Program) (r : Registers α) : run (p ++ q) r = q.run (p.run r) := by
  induction p generalizing r with
  | nil => rfl
  | cons i p ih => exact ih (i.run r)

theorem run_flatten_replicate (p : Program) (n : Nat) (r : Registers α) :
    run (List.replicate n p).flatten r = p.run^[n] r := by
  induction n generalizing r with
  | zero => rfl
  | succ n ih => rw [List.replicate_succ, List.flatten_cons, run_append, ih, Function.iterate_succ_apply]

theorem runText_of_ok (h : parse s = .ok p) (r : Registers α) : runText s r = (.ok (), p.run r) := by
  rw [runText, h]

theorem runText_of_error {fault : Fault} (h : parse s = .error fault) (r : Registers α) :
    runText s r = (.error fault, r) := by
  rw [runText, h]

/-- **Texts one after the other are carried out one after the other, or not at all.** Let the first be a program text.
If the second is one too, carrying out both as one text succeeds and does what carrying out the second after the first
does; so a text repeated `n` times does what it does in `n` runs. If the second is none, no register changes, and the
fault is the one of the second text with its offset moved by the bytes of the first. Compiling both as one text then
fails in the same way, whatever the system would have answered to a request for memory, and no region is mapped. -/
theorem runText_append_all_or_nothing (s t : String) (r : Registers α) (p : Program) (hs : parse s = .ok p) :
    (∀ q, parse t = .ok q →
      (runText (s ++ t) r).1 = .ok () ∧ runText (s ++ t) r = runText t (runText s r).2) ∧
    (∀ n, runText (String.join (List.replicate n s)) r = (.ok (), (fun r => (runText s r).2)^[n] r)) ∧
    ∀ fault, parse t = .error fault → ∃ offset fragment byte,
      fault = .undefinedInstruction offset fragment byte ∧
      runText (s ++ t) r = (.error (.undefinedInstruction (offset + s.utf8ByteSize) fragment byte), r) ∧
      ∀ host live, compileText host (s ++ t) live =
        (.error (.undefinedInstruction (offset + s.utf8ByteSize) fragment byte), live) := by
  refine ⟨fun q ht => ?_, fun n => ?_, fun fault ht => ?_⟩
  · have hboth := runText_of_ok (parse_append_ok hs ht) r
    rw [run_append] at hboth
    rw [hboth, runText_of_ok hs, runText_of_ok ht]
    exact ⟨rfl, rfl⟩
  · have hstep : (fun r : Registers α => (runText s r).2) = p.run := by
      funext r
      rw [runText_of_ok hs]
    rw [hstep, runText_of_ok (parse_join_replicate hs n), run_flatten_replicate]
  · obtain ⟨offset, fragment, byte, rfl⟩ := exists_undefinedInstruction_of_parse ht
    have hboth := parse_append_error hs ht
    refine ⟨offset, fragment, byte, rfl, runText_of_error hboth r, fun host live => ?_⟩
    rw [compileText, hboth]

/-- A square with a sum behind it, and with a triple behind it that has no register. -/
theorem runText_append_square :
    let r : Registers Float := Registers.atPoint ⟨0.25, -0.5⟩
    let square : Program := [⟨.multiply, .b, .b⟩]
    parse "*bb" = .ok square ∧ parse "+ab" = .ok [⟨.add, .a, .b⟩] ∧
      parse "=é" = .error (.undefinedInstruction 1 "=é" 0xC3) ∧
      runText "*bb+ab" r = runText "+ab" (runText "*bb" r).2 ∧
      runText "*bb=é" r = (.error (.undefinedInstruction 4 "=é" 0xC3), r) ∧
      ∀ host live, compileText host "*bb=é" live = (.error (.undefinedInstruction 4 "=é" 0xC3), live) := by
  intro r square
  have hsquare : parse "*bb" = .ok square := rfl
  have hsum : parse "+ab" = .ok [⟨.add, .a, .b⟩] := rfl
  have hnone : parse "=é" = .error (.undefinedInstruction 1 "=é" 0xC3) := rfl
  have hboth := (runText_append_all_or_nothing "*bb" "+ab" r square hsquare).1 _ hsum
  obtain ⟨offset, fragment, byte, hfault, hrun, hcompile⟩ :=
    (runText_append_all_or_nothing "*bb" "=é" r square hsquare).2.2 _ hnone
  cases hfault
  exact ⟨hsquare, hsum, hnone, hboth.2, hrun, hcompile⟩

end Orbit.Program
