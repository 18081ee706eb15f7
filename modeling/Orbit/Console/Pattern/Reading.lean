import Orbit.Console.Pattern.Height
import Orbit.Console.Pattern.Symbol

/-!
# Well-formed patterns

A value in a log filter can be a regular expression. There is nothing that it could match, so all that counts is
whether it is one.

A pattern is read from left to right. What is open at a point is kept on two stacks: the groups, and inside a set of
characters the sets. Each step takes at least one character, so the length of the text bounds the steps.

* `Reader` : what has been read and what is left.
* `Reader.step?` : the reader after the next piece, unless no pattern has it there.
* `wellFormed` : whether a text is a pattern.
-/

namespace Orbit.Pattern

structure Group where
  /-- What was read before the group. -/
  outside : Choice
  /-- The modes after the group. -/
  modes : Modes
deriving DecidableEq, Repr

/-- What has been read of a pattern and what is left of it. -/
structure Reader where
  rest : List Char
  modes : Modes
  choice : Choice
  /-- The open groups, the innermost first. -/
  groups : List Group
  /-- The open sets, the innermost first. -/
  sets : List Items
  /-- The names of groups so far. -/
  names : List String
deriving DecidableEq, Repr

namespace Reader

def start (text : List Char) : Reader := ⟨text, .standard, .start, [], [], []⟩

def part (r : Reader) (height : Nat) (rest : List Char) : Reader :=
  { r with rest := rest, choice := r.choice.add height }

/-! ## Groups -/

def enter (r : Reader) (modes : Modes) (rest : List Char) : Reader :=
  { r with rest := rest, modes := modes, choice := .start, groups := ⟨r.choice, r.modes⟩ :: r.groups }

def enterNamed? (r : Reader) (rest : List Char) : Option Reader :=
  match groupName? rest with
  | none => none
  | some (name, rest) =>
    if r.names.contains name then none else some { r.enter r.modes rest with names := name :: r.names }

/-- The reader after switches, which are for a group or for what follows. -/
def switch? (r : Reader) (rest : List Char) : Option Reader :=
  match switches? r.modes true [] rest with
  | none => none
  | some (modes, true, rest) => some (r.enter modes rest)
  | some (modes, false, rest) =>
    some { r with rest := rest, modes := modes, choice := { r.choice with parts := r.choice.parts.addSwitch } }

/-- The reader after a parenthesis opens; conditions on what is before or after a place are no part of a pattern. -/
def open? (r : Reader) (rest : List Char) : Option Reader :=
  match r.modes.skip rest with
  | '?' :: '=' :: _ | '?' :: '!' :: _ | '?' :: '<' :: '=' :: _ | '?' :: '<' :: '!' :: _ => none
  | '?' :: 'P' :: '<' :: rest => r.enterNamed? rest
  | '?' :: '<' :: rest => r.enterNamed? rest
  | '?' :: rest => r.switch? rest
  | rest => some (r.enter r.modes rest)

def close? (r : Reader) (rest : List Char) : Option Reader :=
  match r.groups with
  | [] => none
  | group :: groups =>
    some { r with
      rest := rest, modes := group.modes, choice := group.outside.add (r.choice.height + 1), groups := groups }

/-! ## Repetitions and symbols -/

/-- The reader after a sign of repetition and a question mark that may follow it. -/
def repeat? (r : Reader) (rest : List Char) : Option Reader :=
  let rest :=
    match rest with
    | '?' :: rest => rest
    | rest => rest
  r.choice.parts.repeatLast?.map fun parts => { r with rest := rest, choice := { r.choice with parts := parts } }

def symbol? (r : Reader) (c : Char) (rest : List Char) : Option Reader :=
  match Pattern.symbol? r.modes c rest with
  | none => none
  | some (symbol, rest) => if symbol.standsAlone r.modes then some (r.part 0 rest) else none

/-! ## Sets of characters -/

/-- The reader inside a set; in a set of bytes nothing is excluded, as half a character would be left. -/
def openSet? (r : Reader) (rest : List Char) : Option Reader :=
  match r.modes.skip rest with
  | '^' :: rest => if r.modes.unicode then some { r with rest := rest, sets := .start :: r.sets } else none
  | rest => some { r with rest := rest, sets := .start :: r.sets }

def item (r : Reader) (set : Items) (outer : List Items) (rest : List Char) : Reader :=
  { r with rest := rest, sets := set.add 0 :: outer }

def closeSet (r : Reader) (set : Items) (outer : List Items) (rest : List Char) : Reader :=
  match outer with
  | [] => { r.part (set.height + 1) rest with sets := [] }
  | next :: outer => { r with rest := rest, sets := next.add (set.height + 1) :: outer }

/-- The reader after an opening bracket inside a set: a named set, or a set in the set. -/
def bracket? (r : Reader) (set : Items) (outer : List Items) (rest : List Char) : Option Reader :=
  match namedSet? rest with
  | none => r.openSet? rest
  | some (negated, rest) =>
    if r.modes.needsCases || (negated && !r.modes.unicode) then none else some (r.item set outer rest)

def rangeEnd? (r : Reader) (set : Items) (outer : List Items) (first : Symbol) (rest : List Char) : Option Reader :=
  match r.modes.skip rest with
  | [] => none
  | c :: rest =>
    match Pattern.symbol? r.modes c rest with
    | none => none
    | some (last, rest) => if first.spans r.modes last then some (r.item set outer rest) else none

/-- The reader after a symbol or a range in a set. A hyphen makes a range unless it is the last one or one of two. -/
def range? (r : Reader) (set : Items) (outer : List Items) (c : Char) (rest : List Char) : Option Reader :=
  match Pattern.symbol? r.modes c rest with
  | none => none
  | some (first, rest) =>
    let single := if first.standsInSet r.modes then some (r.item set outer rest) else none
    match r.modes.skip rest with
    | '-' :: after =>
      match r.modes.peek? after with
      | some ']' | some '-' => single
      | _ => r.rangeEnd? set outer first after
    | _ => single

def stepInSet? (r : Reader) (set : Items) (outer : List Items) (c : Char) (rest : List Char) : Option Reader :=
  if c == '-' && set.atStart then
    if r.modes.needsCases then none else some { r with rest := rest, sets := set.addHyphen :: outer }
  else if c == ']' then
    if set.atStart && set.count == 0 then
      if r.modes.needsCases then none else some (r.item set outer rest)
    else some (r.closeSet set outer rest)
  else if c == '[' then r.bracket? set outer rest
  else if ['&', '-', '~'].contains c && rest.head? == some c then
    some { r with rest := rest.tail, sets := set.operate :: outer }
  else r.range? set outer c rest

/-! ## The whole pattern -/

/-- The reader after a piece outside sets. Braces count repetitions, and a number of them cannot be closed here. -/
def stepOutside? (r : Reader) (c : Char) (rest : List Char) : Option Reader :=
  if c == '(' then r.open? rest
  else if c == ')' then r.close? rest
  else if c == '|' then some { r with rest := rest, choice := r.choice.next }
  else if c == '[' then r.openSet? rest
  else if ['*', '+', '?'].contains c then r.repeat? rest
  else if c == '\x7b' then none
  else if c == '.' then if r.modes.unicode then some (r.part 0 rest) else none
  else if c == '^' || c == '$' then some (r.part 0 rest)
  else r.symbol? c rest

def step? (r : Reader) (c : Char) (rest : List Char) : Option Reader :=
  match r.sets with
  | [] => r.stepOutside? c rest
  | set :: outer => r.stepInSet? set outer c rest

def complete (r : Reader) : Bool := r.groups.isEmpty && r.sets.isEmpty && r.choice.height ≤ heightLimit

/-- Whether what is left completes the pattern, within a number of steps. -/
def finishes : Nat → Reader → Bool
  | 0, _ => false
  | steps + 1, r =>
    match r.modes.skip r.rest with
    | [] => r.complete
    | c :: rest =>
      match r.step? c rest with
      | none => false
      | some next => finishes steps next

end Reader

/-- Whether a text is a pattern. -/
def wellFormed (text : String) : Bool := Reader.finishes (text.length + 1) (Reader.start text.toList)

end Orbit.Pattern
