import Orbit.Routine.Assembly
import Orbit.Text.Hex

/-!
# Reports of the runner

* `registersText` : the values of the registers, one in a line.
* `listingText` : the machine code of a program, one part in a line.
-/

namespace Orbit.Runner

def registersText {α : Type} [Written α] (r : Registers α) : String :=
  let line (name : Register) : String :=
    let value := r.get name
    "  " ++ name.letter.toString ++ " = (" ++ Written.exact value.re ++ ", " ++ Written.exact value.im ++ ")\n"
  String.join (Register.all.map line)

def padRight (width : Nat) (s : String) : String := s ++ String.ofList (List.replicate (width - s.length) ' ')

def listingLine (l : ListingLine) : String :=
  "  " ++ Text.hex 4 l.offset ++ "  " ++ padRight 6 l.label ++ " " ++ Text.hexBytes " " l.bytes ++ "\n"

/-- The machine code of a program under the convention of compiled programs. -/
def listingText (p : Program) : Except Fault String :=
  match p.listing .native with
  | .error fault => .error fault
  | .ok lines => .ok (s!"machine code ({Convention.native.name}):\n" ++ String.join (lines.map listingLine))

end Orbit.Runner
