import Orbit.Text.Bytes

/-!
# What a command leaves behind

* `Outcome` : exit code, standard output, standard error.
-/

namespace Orbit

structure Outcome where
  exitCode : UInt32
  output : List UInt8
  errors : List UInt8
deriving DecidableEq, Repr

namespace Outcome

def printed (text : String) : Outcome := ⟨0, Text.utf8 text, []⟩

def failed (text errors : String) : Outcome := ⟨1, Text.utf8 text, Text.utf8 errors⟩

/-- A command that stopped in the middle, without an answer. -/
def stopped (errors : String) : Outcome := ⟨101, [], Text.utf8 errors⟩

end Outcome

end Orbit
