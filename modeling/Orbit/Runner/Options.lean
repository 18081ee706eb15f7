import Orbit.Decimal.Reading
import Orbit.Runner.Assignment

/-!
# Options of the runner

An argument list is read from left to right: words that stand alone, words with the argument after them as
their value, and at most one program text. The first argument that is wrong decides, whatever comes before it.

* `Runner.Options` : the settings.
* `Runner.OptionsFault` : why an argument list is refused.
* `Runner.parseOptions` : the settings of an argument list.
-/

namespace Orbit.Runner

structure Options where
  program : Option String
  /-- Values of registers, in the order in which they are assigned. -/
  assignments : List (Register × Complex Float)
  steps : UInt32
  dump : Bool
  repl : Bool
  help : Bool
deriving DecidableEq, Repr

def Options.standard : Options := ⟨none, [], 1, false, false, false⟩

inductive OptionsFault where
  | missingValue (flag : String)
  | badAssignment (fault : AssignmentFault)
  | badSteps (text : String)
  | unknownFlag (flag : String)
  | manyPrograms
deriving DecidableEq, Repr

def OptionsFault.message : OptionsFault → String
  | missingValue flag => s!"missing value for {flag}"
  | badAssignment fault => fault.message
  | badSteps text => s!"invalid --steps value '{text}'"
  | unknownFlag flag => s!"unknown flag '{flag}'"
  | manyPrograms => "multiple programs provided"

/-- Whether an argument looks like a flag: a dash and something after it. -/
def isFlag (arg : String) : Bool :=
  match arg.toList with
  | '-' :: _ :: _ => true
  | _ => false

/-- The settings after the arguments that follow `options`. -/
def parseOptionsFrom (options : Options) : List String → Except OptionsFault Options
  | [] => .ok options
  | arg :: rest =>
    if arg == "-h" || arg == "--help" then parseOptionsFrom { options with help := true } rest
    else if arg == "--dump" then parseOptionsFrom { options with dump := true } rest
    else if arg == "--repl" then parseOptionsFrom { options with repl := true } rest
    else if arg == "--set" then
      match rest with
      | [] => .error (.missingValue "--set")
      | text :: rest =>
        match parseAssignment text with
        | .error fault => .error (.badAssignment fault)
        | .ok assignment =>
          parseOptionsFrom { options with assignments := options.assignments ++ [assignment] } rest
    else if arg == "--steps" then
      match rest with
      | [] => .error (.missingValue "--steps")
      | text :: rest =>
        match Numeral.word? text with
        | none => .error (.badSteps text)
        | some steps => parseOptionsFrom { options with steps := steps } rest
    else if isFlag arg then .error (.unknownFlag arg)
    else if options.program.isSome then .error .manyPrograms
    else parseOptionsFrom { options with program := some arg } rest

def parseOptions (args : List String) : Except OptionsFault Options := parseOptionsFrom .standard args

end Orbit.Runner
