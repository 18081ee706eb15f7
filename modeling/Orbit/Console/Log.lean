import Orbit.Console.Filter
import Orbit.Console.Style
import Orbit.Text.Hex

/-!
# Log lines

The lines in which messages are shown. A message cannot control the terminal: the characters that could are
spelled out in its line.

* `Console` : filter, style and the texts that differ from run to run; `Console.log`.
-/

namespace Orbit

structure Console where
  filter : Filter
  style : Style
  /-- The time at the start of each line. -/
  time : String
  /-- The text of the address of a mapped region. -/
  address : String
  /-- The milliseconds that rendering took. -/
  elapsed : String
deriving DecidableEq, Repr

namespace Console

def shownChar (c : Char) : String :=
  let n := c.toNat
  if n == 0x1B || n == 0x07 || n == 0x08 || n == 0x0C || n == 0x7F then "\\x" ++ Text.hex 2 n
  else if 0x80 ≤ n && n ≤ 0x9F then "\\u\x7b" ++ Text.hex 1 n ++ "\x7d"
  else String.singleton c

def shown (message : String) : String := String.join (message.toList.map shownChar)

/-- The name of a level, five characters wide. -/
def levelName : Level → String
  | .info => " INFO"
  | .debug => "DEBUG"

def levelColour : Level → Nat
  | .info => 32
  | .debug => 34

def line (console : Console) (event : Event) : String :=
  let name := levelName event.level
  let (time, level) :=
    if console.style.coloured then
      (Style.control 2 ++ console.time ++ Style.control 0,
        Style.control (levelColour event.level) ++ name ++ Style.control 0)
    else (console.time, name)
  time ++ " " ++ level ++ " " ++ shown event.message ++ "\n"

/-- The lines of the messages that are shown. -/
def log (console : Console) (events : List Event) : String :=
  String.join ((events.filter console.filter.shows).map console.line)

end Console

end Orbit
