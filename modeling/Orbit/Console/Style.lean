/-!
# Labels

The labels in log lines, plain or coloured for a terminal.

* `Style.ofEnvironment` : whether labels are coloured.
* `Style.jitLabel`, `Style.renderLabel`, `Style.engineLabel` : the labels.
-/

namespace Orbit

structure Style where
  coloured : Bool
deriving DecidableEq, Repr

namespace Style

/-- The character that starts a control sequence of a terminal. -/
def escape : String := "\x1b["

def control (number : Nat) : String := escape ++ toString number ++ "m"

/-- The style without a terminal: colours have to be asked for, and a request for none comes first. -/
def ofEnvironment (noColour forceColour : Bool) : Style := ⟨!noColour && forceColour⟩

def tinted (style : Style) (number : Nat) (text : String) : String :=
  if style.coloured then control number ++ text ++ control 39 else text

def boldTinted (style : Style) (number : Nat) (text : String) : String :=
  if style.coloured then control 1 ++ style.tinted number text ++ control 0 else text

def jitLabel (style : Style) : String := style.boldTinted 95 "JIT"

def renderLabel (style : Style) : String := style.boldTinted 96 "RENDER"

def engineLabel (style : Style) (name : String) : String :=
  let number := if name == "jit" then 92 else if name == "hardcoded" then 94 else 93
  style.tinted number name

end Style

end Orbit
