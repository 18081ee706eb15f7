import Orbit.Registers
import Orbit.Text.Blank
import Orbit.Text.Bytes
import Orbit.Text.Split

/-!
# Assignments

The text `REG=RE,IM` gives a register a value. It is cut at the first equals sign, and what follows at the
first comma; white space around the three parts does not count.

* `AssignmentFault` : the first part that is wrong.
* `parseAssignment` : register and value of an assignment.
-/

namespace Orbit

inductive AssignmentFault where
  | noEquals (text : String)
  | unknownRegister (name : String)
  | noComma (value : String)
  | badReal (text : String)
  | badImaginary (text : String)
deriving DecidableEq, Repr

def AssignmentFault.message : AssignmentFault → String
  | noEquals text => s!"expected REG=RE,IM, got '{text}'"
  | unknownRegister name => s!"unknown register '{name}'"
  | noComma value => s!"expected RE,IM, got '{value}'"
  | badReal text => s!"invalid real part '{text}'"
  | badImaginary text => s!"invalid imaginary part '{text}'"

/-- The register with a name of one letter, white space around it apart. -/
def Register.ofName? (name : String) : Option Register :=
  match Text.utf8 (Text.trim name) with
  | [byte] => Register.ofByte? byte
  | _ => none

def parseAssignment {α : Type} [Written α] (text : String) : Except AssignmentFault (Register × Complex α) :=
  match Text.cut? (· == '=') text with
  | none => .error (.noEquals text)
  | some (name, value) =>
    match Register.ofName? name with
    | none => .error (.unknownRegister name)
    | some register =>
      match Text.cut? (· == ',') value with
      | none => .error (.noComma value)
      | some (re, im) =>
        match Written.read? (Text.trim re) with
        | none => .error (.badReal re)
        | some x =>
          match Written.read? (Text.trim im) with
          | none => .error (.badImaginary im)
          | some y => .ok (register, ⟨x, y⟩)

end Orbit
