import Orbit.Text.Bytes
import Orbit.Text.Split

/-!
# Paths

A path is a way through folders, step by step, from the root or from the working directory. Slashes separate the
steps, and several of them are as good as one.

* `PathFault` : what the system says about a path that is of no use.
* `Path.Step`, `Path` : a step, and a path as its steps.
* `Path.ofText` : the path that a text spells, unless the text is empty or too long.
-/

namespace Orbit

inductive PathFault where
  | absent
  | noDevice
  | denied
  | notDirectory
  | isDirectory
  | busy
  | noSpace
  | nameTooLong
  | outOfMemory
deriving DecidableEq, Repr

def PathFault.message : PathFault → String
  | absent => "No such file or directory (os error 2)"
  | noDevice => "No such device or address (os error 6)"
  | denied => "Permission denied (os error 13)"
  | notDirectory => "Not a directory (os error 20)"
  | isDirectory => "Is a directory (os error 21)"
  | busy => "Text file busy (os error 26)"
  | noSpace => "No space left on device (os error 28)"
  | nameTooLong => "File name too long (os error 36)"
  | outOfMemory => "out of memory"

inductive Path.Step where
  | stay
  | up
  | down (name : String)
deriving DecidableEq, Repr

/-- The step that a part of a path spells; an empty part is none. -/
def Path.Step.ofText? (part : String) : Option Path.Step :=
  if part == "" then none
  else if part == "." then some .stay
  else if part == ".." then some .up
  else some (.down part)

structure Path where
  /-- The way starts at the root. -/
  absolute : Bool
  steps : List Path.Step
  /-- There is a slash after the last step. -/
  closed : Bool
deriving DecidableEq, Repr

namespace Path

/-- The bytes that a path can have, with the zero after it. -/
def lengthLimit : Nat := 4096

def nameLimit : Nat := 255

def ofText (text : String) : Except PathFault Path :=
  if text.isEmpty then .error .absent
  else if lengthLimit ≤ text.utf8ByteSize then .error .nameTooLong
  else .ok {
    absolute := text.toList.head? == some '/'
    steps := (Text.pieces (· == '/') text).filterMap Step.ofText?
    closed := text.toList.getLast? == some '/' }

end Path

end Orbit
