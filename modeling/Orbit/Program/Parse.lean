import Orbit.Fault
import Orbit.Program.Basic
import Orbit.Text.Bytes

/-!
# Reading programs

A program text is read as bytes, three at a time. The first byte of a triple that is not what its place
asks for is reported with its offset; a triple that is cut short counts as filled up with zero bytes,
which no place allows.

* `Instruction.decode` : one triple.
* `Program.parse` : a whole text.
-/

namespace Orbit

/-- The fault at place `place` of the triple that starts at `offset`. -/
def undefinedAt (offset place : Nat) (triple : List UInt8) : Fault :=
  .undefinedInstruction (offset + place) (Text.ofBytesLossy triple) (triple.getD place 0)

/-- The instruction written by a triple of bytes, of which the last may be missing. -/
def Instruction.decode (offset : Nat) (triple : List UInt8) : Except Fault Instruction :=
  match Operation.ofByte? (triple.getD 0 0) with
  | none => .error (undefinedAt offset 0 triple)
  | some op =>
    match Register.ofByte? (triple.getD 1 0) with
    | none => .error (undefinedAt offset 1 triple)
    | some source =>
      match Register.ofByte? (triple.getD 2 0) with
      | none => .error (undefinedAt offset 2 triple)
      | some target => .ok ⟨op, source, target⟩

namespace Program

/-- The program in the bytes that start at `offset` of a text. -/
def parseFrom (offset : Nat) : List UInt8 → Except Fault Program
  | [] => .ok []
  | x :: y :: z :: rest =>
    match Instruction.decode offset [x, y, z] with
    | .error fault => .error fault
    | .ok i =>
      match parseFrom (offset + 3) rest with
      | .error fault => .error fault
      | .ok p => .ok (i :: p)
  | short =>
    match Instruction.decode offset short with
    | .error fault => .error fault
    | .ok i => .ok [i]

def parse (text : String) : Except Fault Program := parseFrom 0 (Text.utf8 text)

end Program

end Orbit
