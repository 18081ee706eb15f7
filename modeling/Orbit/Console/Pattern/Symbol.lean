import Orbit.Text.Blank
import Orbit.Text.Hex
import Orbit.Text.Letter

/-!
# Symbols of patterns

The small pieces of a regular expression: switches, single characters, characters behind a backslash, named sets and
the names of groups.

There are no tables for the letters, digits and cases of all scripts. So while patterns are about all of Unicode, what
needs such a table is refused; and while they are about bytes, whatever could match half a character is refused.

* `Modes` : the switches that decide what is refused.
* `Symbol` : a character, a shorthand for some characters, or a place between characters.
* `escaped?` : the symbol behind a backslash.
* `namedSet?`, `groupName?`, `switches?` : a named set, the name of a group, and switches.
-/

namespace Orbit.Pattern

structure Modes where
  ignoreCase : Bool
  unicode : Bool
  /-- Blanks and comments between symbols are passed over. -/
  spacious : Bool
deriving DecidableEq, Repr

namespace Modes

def standard : Modes := ⟨false, true, false⟩

def letters : List Char := ['i', 'm', 's', 'U', 'u', 'R', 'x']

/-- The modes with one switch set; the switches that are not kept matter only for what a pattern matches. -/
def set (m : Modes) (letter : Char) (on : Bool) : Modes :=
  if letter == 'i' then { m with ignoreCase := on }
  else if letter == 'u' then { m with unicode := on }
  else if letter == 'x' then { m with spacious := on }
  else m

/-- Upper and lower case cannot be told to be the same in all scripts. -/
def needsCases (m : Modes) : Bool := m.unicode && m.ignoreCase

end Modes

/-- What is left after blanks, and after comments from a number sign to the end of the line; `inside` says that a
comment has begun. -/
def afterBlanks (inside : Bool) : List Char → List Char
  | [] => []
  | c :: cs =>
    if inside then afterBlanks (c != '\n') cs
    else if c == '#' then afterBlanks true cs
    else if Text.isBlank c then afterBlanks false cs
    else c :: cs

def Modes.skip (m : Modes) (cs : List Char) : List Char := if m.spacious then afterBlanks false cs else cs

/-- The character that decides about a hyphen in a set, after blanks and a single number sign. -/
def Modes.peek? (m : Modes) (cs : List Char) : Option Char :=
  if m.spacious then
    match cs.dropWhile Text.isBlank with
    | '#' :: cs => (cs.dropWhile Text.isBlank).head?
    | cs => cs.head?
  else cs.head?

inductive Symbol where
  /-- The character with a code, which is written by two digits if `byte`. -/
  | character (code : Nat) (byte : Bool)
  /-- A shorthand for some characters. -/
  | shorthand
  /-- A place between characters. -/
  | place
deriving DecidableEq, Repr

namespace Symbol

def standsAlone (m : Modes) : Symbol → Bool
  | character code byte => !m.needsCases && (m.unicode || !byte || code < 0x80)
  | shorthand | place => true

def standsInSet (m : Modes) : Symbol → Bool
  | character code _ => if m.unicode then !m.ignoreCase else code < 0x80
  | shorthand => true
  | place => false

def spans (m : Modes) : Symbol → Symbol → Bool
  | character first _, character last _ =>
    first ≤ last && (if m.unicode then !m.ignoreCase else last < 0x80)
  | _, _ => false

end Symbol

/-- The code that some hexadecimal digits spell, and what follows them. -/
def code? (m : Modes) : Nat → Nat → List Char → Option (Nat × List Char)
  | 0, code, cs => if Nat.isValidChar code then some (code, cs) else none
  | digits + 1, code, cs =>
    match m.skip cs with
    | [] => none
    | c :: cs =>
      match Text.hexDigit? c with
      | none => none
      | some digit => code? m digits (16 * code + digit) cs

def controls : List (Char × Nat) := [('a', 7), ('t', 9), ('n', 10), ('v', 11), ('f', 12), ('r', 13)]

def simpleEscape? (m : Modes) (c : Char) : Option Symbol :=
  if ['d', 's', 'w'].contains c then if m.unicode then none else some .shorthand
  else if ['b', 'B', '<', '>'].contains c then if m.unicode then none else some .place
  else if ['A', 'z'].contains c then some .place
  else if c.toNat < 0x80 && !c.isAlphanum then some (.character c.toNat false)
  else (controls.lookup c).map fun code => .character code false

/-- The symbol behind a backslash, and what follows it. -/
def escaped? (m : Modes) : List Char → Option (Symbol × List Char)
  | [] => none
  | c :: cs =>
    if c == 'x' then (code? m 2 0 cs).map fun (code, rest) => (.character code true, rest)
    else if c == 'u' then (code? m 4 0 cs).map fun (code, rest) => (.character code false, rest)
    else if c == 'U' then (code? m 8 0 cs).map fun (code, rest) => (.character code false, rest)
    else (simpleEscape? m c).map fun symbol => (symbol, cs)

def symbol? (m : Modes) (c : Char) (cs : List Char) : Option (Symbol × List Char) :=
  if c == '\\' then escaped? m cs else some (.character c.toNat false, cs)

def setNames : List String :=
  ["alnum", "alpha", "ascii", "blank", "cntrl", "digit", "graph", "lower", "print", "punct", "space", "upper", "word",
    "xdigit"]

/-- What follows the name of a set, a colon and a bracket. -/
def afterSetName? (cs : List Char) : Option (List Char) :=
  match cs.dropWhile (· != ':') with
  | ':' :: ']' :: rest => if setNames.contains (String.ofList (cs.takeWhile (· != ':'))) then some rest else none
  | _ => none

/-- Whether a named set is negated, and what follows it; the set is between colons. -/
def namedSet? : List Char → Option (Bool × List Char)
  | ':' :: '^' :: cs => (afterSetName? cs).map fun rest => (true, rest)
  | ':' :: cs => (afterSetName? cs).map fun rest => (false, rest)
  | _ => none

def continuesName (c : Char) : Bool := ['_', '.', '[', ']'].contains c || Text.isAlphanumeric c

def isGroupName : List Char → Bool
  | [] => false
  | c :: cs => (c == '_' || Text.isAlphabetic c) && cs.all continuesName

/-- The name of a group up to the angle bracket, and what follows that. -/
def groupName? (cs : List Char) : Option (String × List Char) :=
  let name := cs.takeWhile (· != '>')
  match cs.dropWhile (· != '>') with
  | _ :: rest => if isGroupName name then some (String.ofList name, rest) else none
  | [] => none

/-- The modes after switches, whether a group follows, and what is left. The switches before a hyphen are set and those
after it are cleared; none of them, nor the hyphen, is given twice, and a switch is what follows the hyphen. -/
def switches? (m : Modes) (on : Bool) (seen : List Char) : List Char → Option (Modes × Bool × List Char)
  | [] => none
  | c :: cs =>
    if c == ':' || c == ')' then
      if seen.head? == some '-' || (c == ')' && seen.isEmpty) then none else some (m, c == ':', cs)
    else if seen.contains c then none
    else if c == '-' then switches? m false (c :: seen) cs
    else if Modes.letters.contains c then switches? (m.set c on) on (c :: seen) cs
    else none

end Orbit.Pattern
