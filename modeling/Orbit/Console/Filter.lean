import Orbit.Console.Event
import Orbit.Console.Pattern.Reading
import Orbit.Decimal.Reading
import Orbit.Text.Blank
import Orbit.Text.Bytes
import Orbit.Text.Case
import Orbit.Text.Letter
import Orbit.Text.Split

/-!
# Log filters

A filter says which messages are shown. It is written as directives with commas between them:

* a level is for every message;
* the start of the name of an origin, alone or followed by `=` and a level, is for the messages from there, and
  without a level it shows them all;
* a name in brackets after the origin is about spans of work, and so is a field with a value, which is a number or a
  pattern; there are no spans, so these decide nothing;
* a field in braces in brackets, without a value, is for the messages that have the field.

The most specific directive for a message decides, and of two for the same messages the later one.

* `Verbosity` : the level up to which messages are shown.
* `Directive`, `Filter` : one directive that is about messages, and all of them.
* `Filter.ofText?` : the filter that is written in a text, unless a directive is none.
* `Filter.shows` : whether a message is shown.
-/

namespace Orbit

/-- The level up to which messages are shown. -/
inductive Verbosity where
  | off
  | error
  | warn
  | info
  | debug
  | trace
deriving DecidableEq, Repr

namespace Verbosity

/-- The verbosity with a name, in any case of letters, or with a number from zero to five. -/
def ofText? (s : String) : Option Verbosity :=
  match Numeral.word? s with
  | some n => [off, error, warn, info, debug, trace][n.toNat]?
  | none =>
    [("off", off), ("error", error), ("warn", warn), ("info", info), ("debug", debug), ("trace", trace)].lookup
      (Text.lowercase s)

def shows : Verbosity → Level → Bool
  | off, _ | error, _ | warn, _ => false
  | info, level => level == .info
  | debug, _ | trace, _ => true

end Verbosity

structure Directive where
  /-- The start of the name of the origin, or nothing for every origin. -/
  origin : Option String
  /-- A field that the messages have. -/
  field : Option String
  verbosity : Verbosity
deriving DecidableEq, Repr

namespace Directive

def covers (d : Directive) (event : Event) : Bool :=
  d.origin.all (fun start => start.toList.isPrefixOf event.origin.name.toList) &&
    d.field.all (fun name => event.fields.contains name)

/-- How specific the directive is: the length of the origin counts first, then the field. -/
def weight (d : Directive) : Nat :=
  2 * (d.origin.map fun start => start.utf8ByteSize + 1).getD 0 + (if d.field.isSome then 1 else 0)

end Directive

inductive Rule where
  | messages (directive : Directive)
  | spans
deriving DecidableEq, Repr

namespace Rule

/-! ## Reading a directive

The parts of a directive are found in its text without the blanks at both ends, and cut from the whole text at the
positions where they were found. Blanks in front therefore shift every part. -/

/-- Characters with the positions of their first bytes. -/
def placed (position : Nat) : List Char → List (Nat × Char)
  | [] => []
  | c :: cs => (position, c) :: placed (position + c.utf8Size) cs

/-- The first character with a property, its position, and what follows it. -/
def seek (p : Char → Bool) : List (Nat × Char) → Option (Nat × Char × List (Nat × Char))
  | [] => none
  | (position, c) :: rest => if p c then some (position, c, rest) else seek p rest

/-- The text between two positions, unless one of them is inside a character. -/
def between? (text : String) (first last : Nat) : Option String :=
  Text.ofBytes? (((Text.utf8 text).take last).drop first)

def from? (text : String) (first : Nat) : Option String := Text.ofBytes? ((Text.utf8 text).drop first)

/-- The verbosity that is written from a position on; nothing shows everything. -/
def verbosityFrom? (text : String) (first : Nat) : Option Verbosity :=
  match from? text first with
  | none => none
  | some "" => some .trace
  | some level => Verbosity.ofText? level

/-- Whether a text can be the value of a field: a number or a pattern. -/
def isValue (text : String) : Bool := (Numeral.real? text).isSome || Pattern.wellFormed text

/-- Whether a field is a name, or a name, an equals sign and a value; what follows a second equals sign is of no
interest. -/
def isField (text : String) : Bool :=
  match Text.pieces (· == '=') text with
  | _ :: value :: _ => isValue value
  | _ => !text.isEmpty

/-- The rule for messages with a field, if it is given by its name only. -/
def ofField (origin : Option String) (field : String) (verbosity : Verbosity) : Rule :=
  if field.toList.contains '=' then .spans else .messages ⟨origin, some field, verbosity⟩

/-- What follows the brackets: nothing, or an equals sign and a verbosity. -/
def ending? (text : String) (rule : Verbosity → Rule) : List (Nat × Char) → Option Rule
  | [] => some (rule .trace)
  | (position, c) :: _ => if c == '=' then (verbosityFrom? text (position + 1)).map rule else none

/-- A field in braces, from its first position on, where `named` says that the brackets start with a name. -/
def braced? (text : String) (origin : Option String) (named : Bool) (first : Nat) (rest : List (Nat × Char)) :
    Option Rule :=
  match seek (· == '\x7d') rest with
  | none => none
  | some (position, _, rest) =>
    match between? text first position, rest with
    | some field, (_, ']') :: rest =>
      if isField field then ending? text (if named then fun _ => .spans else ofField origin field) rest
      else none
    | _, _ => none

def bracketed? (text : String) (origin : Option String) (first : Nat) (rest : List (Nat × Char)) : Option Rule :=
  match seek (fun c => c == ']' || c == '\x7b') rest with
  | none => none
  | some (position, c, rest) =>
    if c == ']' then (between? text first position).bind fun _ => ending? text (fun _ => .spans) rest
    else (between? text first position).bind fun name => braced? text origin (!name.isEmpty) (position + 1) rest

def canStart (c : Char) : Bool := c == '-' || c == ':' || c == '_' || Text.isAlphanumeric c

/-- A directive without a mark in it: a level or an origin. -/
def plain (text : String) : Rule :=
  match Verbosity.ofText? text with
  | some verbosity => .messages ⟨none, none, verbosity⟩
  | none => .messages ⟨some text, none, .trace⟩

def ofText? (text : String) : Option Rule :=
  match placed 0 (Text.trimChars text.toList) with
  | [] => none
  | (_, c) :: rest =>
    if c == '[' then bracketed? text none 1 rest
    else if !canStart c then none
    else
      match seek (fun c => c == '=' || c == '[') rest with
      | none => some (plain text)
      | some (position, c, rest) =>
        (between? text 0 position).bind fun origin =>
          if c == '=' then
            (verbosityFrom? text (position + 1)).map fun verbosity => .messages ⟨some origin, none, verbosity⟩
          else bracketed? text (some origin) (position + 1) rest

def directive? : Rule → Option Directive
  | messages d => some d
  | spans => none

end Rule

/-- The directives about messages, in the order in which they are written. -/
structure Filter where
  directives : List Directive
deriving DecidableEq, Repr

namespace Filter

def upTo (verbosity : Verbosity) : Filter := ⟨[⟨none, none, verbosity⟩]⟩

/-- The filter that is written in a text; empty parts of it are passed over. -/
def ofText? (s : String) : Option Filter :=
  let parts := (Text.pieces (· == ',') s).filter fun part => !part.isEmpty
  (parts.mapM Rule.ofText?).map fun rules => ⟨rules.filterMap Rule.directive?⟩

/-- The filter of a setting. Without a setting, or if it is no filter, messages are shown up to `info`. -/
def ofSetting (setting : Option String) : Filter := (setting.bind ofText?).getD (upTo .info)

def decisive? (f : Filter) (event : Event) : Option Directive :=
  f.directives.foldl
    (fun best d => if d.covers event && best.all (fun other => other.weight ≤ d.weight) then some d else best) none

def shows (f : Filter) (event : Event) : Bool := (f.decisive? event).any fun d => d.verbosity.shows event.level

end Filter

end Orbit
