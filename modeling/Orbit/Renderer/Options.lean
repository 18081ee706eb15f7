import Orbit.Engine
import Orbit.Picture.Netpbm
import Orbit.Text.Blank
import Orbit.Text.Split

/-!
# Options of the renderer

An argument list is read from left to right as groups: an option with the argument after it as its value, or a
program text. A request for help or for the version ends the reading, and so does the first group that is
wrong; otherwise every group sets its setting, and of several for the same setting the last one counts.

* `Renderer.Options`, `Renderer.Request` : the settings, and what is asked for.
* `Renderer.Setting` : what a single group says.
* `Renderer.OptionsFault` : why an argument list is refused.
* `parseSize?`, `parseBounds?` : the values of two options.
* `Renderer.parseOptions` : what an argument list asks for.
-/

namespace Orbit.Renderer

structure Options where
  program : Option String
  programFile : Option String
  engine : Engine
  viewport : Viewport Float
  cap : UInt32
  format : Format
  output : Option String
deriving DecidableEq, Repr

def Options.standard : Options where
  program := none
  programFile := none
  engine := .standard
  viewport := .standard
  cap := standardCap
  format := .standard
  output := none

inductive Request where
  | help
  | version
  | render (options : Options)
deriving DecidableEq, Repr

inductive OptionsFault where
  | missingValue (flag : String)
  | emptyValue (flag : String)
  | unknownEngine (fault : UnknownEngine)
  | unknownFormat (fault : UnknownFormat)
  | badSize (text : String)
  | badBounds (text : String)
  | badCap (text : String)
  | unknownFlag (flag : String)
  | manyPrograms
deriving DecidableEq, Repr

def OptionsFault.message : OptionsFault → String
  | missingValue flag => s!"missing value for {flag}"
  | emptyValue flag => s!"value for {flag} cannot be empty"
  | unknownEngine fault => fault.message
  | unknownFormat fault => fault.message
  | badSize text => s!"invalid --size: {text} (expected WxH)"
  | badBounds text => s!"invalid --bounds: {text} (expected RE_MIN,RE_MAX,IM_MIN,IM_MAX)"
  | badCap text => s!"invalid --max-iterations: {text}"
  | unknownFlag flag => s!"unknown flag '{flag}'"
  | manyPrograms => "multiple programs provided"

/-! ## Values -/

/-- Width and height, both positive, with an `x` between them. -/
def parseSize? (text : String) : Option (UInt32 × UInt32) := do
  let (left, right) ← Text.cut? (fun c => c == 'x' || c == 'X') text
  let width ← Numeral.word? (Text.trim left)
  let height ← Numeral.word? (Text.trim right)
  if width = 0 ∨ height = 0 then none else some (width, height)

structure Bounds where
  reMin : Float
  reMax : Float
  imMin : Float
  imMax : Float
deriving DecidableEq, Repr

/-- Four finite numbers with commas between them. -/
def parseBounds? (text : String) : Option Bounds := do
  let numbers ← (Text.pieces (· == ',') text).mapM fun piece => Numeral.real? (Text.trim piece)
  match numbers with
  | [reMin, reMax, imMin, imMax] =>
    if numbers.all Float.isFinite then some ⟨reMin, reMax, imMin, imMax⟩ else none
  | _ => none

/-- A positive number of steps. -/
def parseCap? (text : String) : Option UInt32 := do
  let cap ← Numeral.word? text
  if cap = 0 then none else some cap

/-! ## Groups -/

inductive Flag where
  | engine
  | size
  | bounds
  | cap
  | format
  | output
  | programFile
deriving DecidableEq, Repr

def Flag.name : Flag → String
  | engine => "--engine"
  | size => "--size"
  | bounds => "--bounds"
  | cap => "--max-iterations"
  | format => "--format"
  | output => "--output"
  | programFile => "--program-file"

/-- What an argument is where an option may stand. -/
inductive Word where
  | help
  | version
  | flag (flag : Flag)
  | unknown
  | program
deriving DecidableEq, Repr

def Word.ofArgument (arg : String) : Word :=
  if arg == "-h" || arg == "--help" then help
  else if arg == "-V" || arg == "--version" then version
  else if arg == "--engine" then flag .engine
  else if arg == "--size" then flag .size
  else if arg == "--bounds" then flag .bounds
  else if arg == "--max-iterations" then flag .cap
  else if arg == "--format" then flag .format
  else if arg == "--output" || arg == "-o" then flag .output
  else if arg == "--program-file" then flag .programFile
  else
    match arg.toList with
    | '-' :: _ :: _ => unknown
    | _ => program

inductive Setting where
  | engine (engine : Engine)
  | size (width height : UInt32)
  | bounds (bounds : Bounds)
  | cap (cap : UInt32)
  | format (format : Format)
  | output (path : String)
  | programFile (path : String)
  | program (text : String)
deriving DecidableEq, Repr

def settingOf (value : String) : Flag → Except OptionsFault Setting
  | .engine =>
    match Engine.ofText value with
    | .error fault => .error (.unknownEngine fault)
    | .ok engine => .ok (.engine engine)
  | .size =>
    match parseSize? value with
    | none => .error (.badSize value)
    | some (width, height) => .ok (.size width height)
  | .bounds =>
    match parseBounds? value with
    | none => .error (.badBounds value)
    | some bounds => .ok (.bounds bounds)
  | .cap =>
    match parseCap? value with
    | none => .error (.badCap value)
    | some cap => .ok (.cap cap)
  | .format =>
    match Format.ofText value with
    | .error fault => .error (.unknownFormat fault)
    | .ok format => .ok (.format format)
  | .output => .ok (.output value)
  | .programFile => .ok (.programFile value)

def Flag.setting (flag : Flag) (value : String) : Except OptionsFault Setting :=
  if (Text.trim value).isEmpty then .error (.emptyValue flag.name) else settingOf value flag

/-- The settings with one more; a second program is refused. -/
def Options.apply (options : Options) : Setting → Except OptionsFault Options
  | .engine engine => .ok { options with engine := engine }
  | .size width height => .ok { options with viewport := options.viewport.withSize width height }
  | .bounds b =>
    .ok { options with viewport := options.viewport.withBounds b.reMin b.reMax b.imMin b.imMax }
  | .cap cap => .ok { options with cap := cap }
  | .format format => .ok { options with format := format }
  | .output path => .ok { options with output := some path }
  | .programFile path => .ok { options with programFile := some path }
  | .program text =>
    if options.program.isSome then .error .manyPrograms else .ok { options with program := some text }

/-- What the arguments ask for that follow `options`. -/
def parseOptionsFrom (options : Options) : List String → Except OptionsFault Request
  | [] => .ok (.render options)
  | arg :: rest =>
    match Word.ofArgument arg with
    | .help => .ok .help
    | .version => .ok .version
    | .unknown => .error (.unknownFlag arg)
    | .program =>
      match options.apply (.program arg) with
      | .error fault => .error fault
      | .ok options => parseOptionsFrom options rest
    | .flag flag =>
      match rest with
      | [] => .error (.missingValue flag.name)
      | value :: rest =>
        match flag.setting value with
        | .error fault => .error fault
        | .ok setting =>
          match options.apply setting with
          | .error fault => .error fault
          | .ok options => parseOptionsFrom options rest

def parseOptions (args : List String) : Except OptionsFault Request := parseOptionsFrom .standard args

end Orbit.Renderer
