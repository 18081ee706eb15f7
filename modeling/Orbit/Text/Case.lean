/-!
# Case of letters

* `Text.lowercase` : a text with the capital letters of ASCII made small; other letters stay.
-/

namespace Orbit.Text

/-- A text with small letters in place of the capital letters of ASCII. -/
def lowercase (s : String) : String := String.ofList (s.toList.map Char.toLower)

end Orbit.Text
