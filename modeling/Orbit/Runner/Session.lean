import Orbit.Program.Run
import Orbit.Routine.Compile
import Orbit.Runner.Assignment
import Orbit.Runner.Report

/-!
# Interactive sessions

A session keeps its registers from entry to entry. An entry that starts with a dot is a command; everything
else is a program, which is compiled, called once, and checked against the interpreter. A program that is
entered again right away is not compiled again. An entry that fails changes nothing.

* `Session` : the state.
* `Session.command` : a command, with what it prints and whether the session goes on.
* `Session.run` : a program, with what it prints.
-/

namespace Orbit.Runner

structure Session (α : Type) where
  initial : Registers α
  registers : Registers α
  /-- The routine called last. -/
  last : Option Routine

inductive Action where
  | proceed
  | leave
deriving DecidableEq, Repr

namespace Session

variable {α : Type}

def start [Scalar α] (assignments : List (Register × Complex α)) : Session α :=
  let initial := (Registers.cleared : Registers α).assign assignments
  ⟨initial, initial, none⟩

def helpText : String :=
  ".regs              show registers\n" ++
  ".reset             restore the initial registers\n" ++
  ".set REG=RE,IM     assign a register\n" ++
  ".quit              leave the REPL\n" ++
  "anything else is compiled and run for one step\n"

/-- A command and its argument: what stands before and after the first blank. -/
def splitCommand (line : String) : String × String := (Text.cut? (· == ' ') line).getD (line, "")

/-- What a command prints, whether the session goes on, and its state. -/
def command [Written α] (s : Session α) (line : String) : String × Action × Session α :=
  let (word, rest) := splitCommand line
  if word == ".quit" || word == ".exit" then ("", .leave, s)
  else if word == ".help" then (helpText, .proceed, s)
  else if word == ".regs" then (registersText s.registers, .proceed, s)
  else if word == ".reset" then (registersText s.initial, .proceed, { s with registers := s.initial })
  else if word == ".set" then
    match parseAssignment rest with
    | .error fault => (fault.message ++ "\n", .proceed, s)
    | .ok (name, value) =>
      let registers := s.registers.set name value
      (registersText registers, .proceed, { s with registers := registers })
  else (s!"unknown command '{word}', try .help\n", .proceed, s)

/-- The routine for a program: the last one if it is for the same program. -/
def routineFor (host : Host) (s : Session α) (p : Program) : Except Fault Routine :=
  match s.last with
  | some routine => if routine.program = p then .ok routine else (p.compile host 0).1
  | none => (p.compile host 0).1

/-- What is printed when the routine and the interpreter disagree. -/
def warning : String := "warning: native result differs from the interpreter\n"

/-- What a program prints, or why it did not run, and the state afterwards. -/
def run [Scalar α] [Written α] [DecidableEq α] (host : Host) (s : Session α) (text : String) :
    Except Fault String × Session α :=
  match Program.parse text with
  | .error fault => (.error fault, s)
  | .ok p =>
    match s.routineFor host p with
    | .error fault => (.error fault, s)
    | .ok routine =>
      let registers := routine.call s.registers
      let differs := if registers = p.run s.registers then "" else warning
      (.ok (differs ++ registersText registers), { s with registers := registers, last := some routine })

end Session

end Orbit.Runner
