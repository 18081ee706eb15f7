import Orbit.Text.Hidden
import Orbit.Text.Hex

/-!
# Quoted text

A text between double quotes, with every character that would not show up as itself spelled out.

* `Text.quoted` : the quoted form of a text.
-/

namespace Orbit.Text

def quotedChar (c : Char) : String :=
  if c == Char.ofNat 0 then "\\0"
  else if c == '\t' then "\\t"
  else if c == '\r' then "\\r"
  else if c == '\n' then "\\n"
  else if c == '"' then "\\\""
  else if c == '\\' then "\\\\"
  else if isHidden c then "\\u\x7b" ++ hex 1 c.toNat ++ "\x7d"
  else String.singleton c

def quoted (s : String) : String := "\"" ++ String.join (s.toList.map quotedChar) ++ "\""

end Orbit.Text
