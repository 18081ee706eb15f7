import Orbit.Console.Outcome
import Orbit.Runner.Options
import Orbit.Runner.Session
import Orbit.Text.Typed

/-!
# The runner as a command

`mandel-jit-run` runs a program with the interpreter and as compiled code and compares the results, or opens a
session that reads its entries from standard input.

* `Runner.entry` : what a line of input says.
* `Runner.converse` : a session fed with lines.
* `Runner.process` : the command: arguments and standard input in, outcome out.
-/

namespace Orbit.Runner

def usage : String :=
  "Usage:\n" ++
  "  mandel-jit-run [--set REG=RE,IM]... [--steps N] [--dump] <program>\n" ++
  "  mandel-jit-run --repl [--set REG=RE,IM]...\n" ++
  "\n" ++
  "Programs are flat OP SRC DST triples, e.g. '*bb+ab'.\n" ++
  "  OP:  '=' assign, '+' add, '*' multiply\n" ++
  "  REG: a, b, c, d\n"

def greeting : String :=
  "mandel-jit REPL\n" ++
  "history: up/down arrows, commands: .help, .regs, .reset, .set REG=RE,IM, .quit\n" ++
  "state: registers persist across entries\n"

inductive ProcessFault where
  | badOptions (fault : OptionsFault)
  | noProgram
  | badProgram (fault : Fault)
  | badInput
  | results
deriving DecidableEq, Repr

/-- A record with named fields, as it is shown after a failure. -/
def recordText (name : String) (fields : List (String × String)) : String :=
  name ++ " \x7b " ++ ", ".intercalate (fields.map fun (field, value) => field ++ ": " ++ value) ++ " \x7d"

def faultText : Fault → String
  | .undefinedInstruction offset fragment byte =>
    recordText "InvalidInstruction"
      [("offset", toString offset), ("fragment", Text.quoted fragment), ("byte", toString byte)]
  | .codeOverflow capacity required =>
    recordText "CodeBufferOverflow" [("capacity", toString capacity), ("required", toString required)]
  | .noMemory cause => "ResourceExhaustion(" ++ Text.quoted cause.message ++ ")"

def sentenceText (sentence : String) : String :=
  recordText "Custom" [("kind", "Other"), ("error", Text.quoted sentence)]

/-- The last line of a command that failed. -/
def ProcessFault.text : ProcessFault → String
  | badOptions fault => sentenceText fault.message
  | noProgram => sentenceText "missing program text (see --help)"
  | badProgram fault => faultText fault
  | badInput => sentenceText "stream did not contain valid UTF-8"
  | results => sentenceText "parity: interpreted and native results differ"

def failure (printed : String) (fault : ProcessFault) : Outcome :=
  .failed printed ("Error: " ++ fault.text ++ "\n")

/-- The lines of some bytes, without their ends. -/
def lines : List UInt8 → List (List UInt8)
  | [] => []
  | b :: bytes =>
    if b = 0x0A then [] :: lines bytes
    else
      match lines bytes with
      | [] => [[b]]
      | line :: rest => (b :: line) :: rest

/-- What one line prints in a session, and the session if it goes on. -/
def answer (host : Host) (s : Session Float) (line : String) : String × Option (Session Float) :=
  if line.isEmpty then ("", some s)
  else if line.startsWith "." then
    match s.command line with
    | (printed, .leave, _) => (printed, none)
    | (printed, .proceed, next) => (printed, some next)
  else
    match s.run host line with
    | (.error fault, next) => (fault.message ++ "\n", some next)
    | (.ok printed, next) => (printed, some next)

/-- The entry in a line of input: as it was meant, without blanks around it. A carriage return at the end of the
line is one of these blanks. -/
def entry (line : String) : String := Text.trim (Text.typed line)

/-- What a session prints for lines of input, and why it broke off, if it did. -/
def converse (host : Host) (s : Session Float) : List (List UInt8) → String × Option ProcessFault
  | [] => ("bye\n", none)
  | line :: rest =>
    match Text.ofBytes? line with
    | none => ("", some .badInput)
    | some text =>
      match answer host s (entry text) with
      | (printed, none) => (printed, none)
      | (printed, some next) =>
        let (more, fault) := converse host next rest
        (printed ++ more, fault)

def interact (host : Host) (assignments : List (Register × Complex Float)) (input : List UInt8) : Outcome :=
  match converse host (Session.start assignments) (lines input) with
  | (printed, none) => .printed (greeting ++ printed)
  | (printed, some fault) => failure (greeting ++ printed) fault

/-- A program run by the interpreter and as compiled code, after `printed` was printed. -/
def runBoth (host : Host) (options : Options) (p : Program) (printed : String) : Outcome :=
  let initial := (Registers.cleared : Registers Float).assign options.assignments
  let steps := options.steps.toNat
  let interpreted := Nat.repeat p.run steps initial
  let printed := printed ++ s!"interpreted after {steps} step(s):\n" ++ registersText interpreted
  match (p.compile host 0).1 with
  | .error fault => failure printed (.badProgram fault)
  | .ok routine =>
    let body := routine.body
    let native := Nat.repeat (callBody body) steps initial
    let printed := printed ++ s!"native after {steps} step(s):\n" ++ registersText native
    if interpreted = native then .printed (printed ++ "parity: bit-identical\n") else failure printed .results

/-- The program of the options, listed if asked for and then run. -/
def execute (host : Host) (options : Options) : Outcome :=
  match options.program with
  | none => failure "" .noProgram
  | some text =>
    match Program.parse text with
    | .error fault => failure "" (.badProgram fault)
    | .ok p =>
      if options.dump then
        match listingText p with
        | .error fault => failure "" (.badProgram fault)
        | .ok listing => runBoth host options p listing
      else runBoth host options p ""

def process (host : Host) (args : List String) (input : List UInt8) : Outcome :=
  match parseOptions args with
  | .error fault => failure "" (.badOptions fault)
  | .ok options =>
    if options.help then .printed usage
    else if options.repl then interact host options.assignments input
    else execute host options

end Orbit.Runner
