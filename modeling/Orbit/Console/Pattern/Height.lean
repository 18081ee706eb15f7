/-!
# Heights of patterns

A pattern must not be nested too deeply. Its height grows by one with a group, a repetition, a sequence or a choice of
several parts, a set of characters, and inside a set with several items and with each operation between them. The
height is known without the tree: for what is being read it is enough to keep how many parts there are so far and how
high the highest of them is.

* `Parts`, `Choice` : the sequence that is being read, and the choice that it belongs to.
* `Items` : the set of characters that is being read.
* `heightLimit` : the height that a pattern can have.
-/

namespace Orbit.Pattern

def heightLimit : Nat := 250

/-- What has been read of a sequence. -/
structure Parts where
  count : Nat
  tallest : Nat
  /-- The height of the last part, if that part can be repeated. -/
  last : Option Nat
deriving DecidableEq, Repr

namespace Parts

def none : Parts := ⟨0, 0, .none⟩

/-- The height of the sequence; a part alone is no sequence. -/
def height (p : Parts) : Nat := if p.count ≤ 1 then p.tallest else p.tallest + 1

def add (p : Parts) (height : Nat) : Parts := ⟨p.count + 1, max p.tallest height, some height⟩

/-- The sequence with one more part that cannot be repeated. -/
def addSwitch (p : Parts) : Parts := { p with count := p.count + 1, last := .none }

def repeatLast? (p : Parts) : Option Parts :=
  p.last.map fun height => { p with tallest := max p.tallest (height + 1), last := some (height + 1) }

end Parts

/-- What has been read of a choice. -/
structure Choice where
  /-- The greatest height of the finished alternatives, if there are any. -/
  finished : Option Nat
  parts : Parts
deriving DecidableEq, Repr

namespace Choice

def start : Choice := ⟨none, Parts.none⟩

/-- The height of the choice; an alternative alone is no choice. -/
def height (c : Choice) : Nat :=
  match c.finished with
  | none => c.parts.height
  | some tallest => max tallest c.parts.height + 1

/-- The choice with its last alternative finished. -/
def next (c : Choice) : Choice := ⟨some (max (c.finished.getD 0) c.parts.height), Parts.none⟩

def add (c : Choice) (height : Nat) : Choice := { c with parts := c.parts.add height }

end Choice

/-- What has been read of a set of characters. -/
structure Items where
  /-- Only hyphens have been read, so a hyphen stands for itself. -/
  atStart : Bool
  count : Nat
  tallest : Nat
  /-- The height of what is before the last operation, if there is one. -/
  left : Option Nat
deriving DecidableEq, Repr

namespace Items

def start : Items := ⟨true, 0, 0, none⟩

def add (s : Items) (height : Nat) : Items :=
  { s with atStart := false, count := s.count + 1, tallest := max s.tallest height }

def addHyphen (s : Items) : Items := { s with count := s.count + 1 }

/-- The height of what is between the brackets. -/
def height (s : Items) : Nat :=
  let right := if s.count ≤ 1 then s.tallest else s.tallest + 1
  match s.left with
  | none => right
  | some left => max left right + 1

/-- The set with an operation after what has been read. -/
def operate (s : Items) : Items := ⟨false, 0, 0, some s.height⟩

end Items

end Orbit.Pattern
