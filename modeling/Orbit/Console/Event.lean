/-!
# Messages of the log

* `Level` : how much a message matters.
* `Origin` : the part of the command that a message comes from; `Origin.name`.
* `Event` : a message with its level and origin.
-/

namespace Orbit

inductive Level where
  | info
  | debug
deriving DecidableEq, Repr

/-- The part of the command that a message comes from. -/
inductive Origin where
  | command
  | engine
  | picture
  | compiler
  | memory
deriving DecidableEq, Repr

/-- The name of a part, which starts with the name of the part that it belongs to. -/
def Origin.name : Origin → String
  | command => "mandel_render"
  | engine => "render::engine"
  | picture => "render::image"
  | compiler => "jit::jit"
  | memory => "jit::jit::memory"

structure Event where
  level : Level
  origin : Origin
  message : String
deriving DecidableEq, Repr

def Event.fields (_ : Event) : List String := ["message"]

end Orbit
