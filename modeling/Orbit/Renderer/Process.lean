import Orbit.Console.Log
import Orbit.Console.Outcome
import Orbit.Files.Tree
import Orbit.Picture.Sink
import Orbit.Renderer.Options

/-!
# The renderer as a command

`mandel-render` renders the picture of a program and writes it to standard output or to a file. Everything that
can fail before the picture exists fails before anything is written.

* `Renderer.programText` : the program, from the arguments or from a file.
* `Renderer.prepare` : the kernel, with the messages about it.
* `Renderer.paint` : the picture or the first fault.
* `Renderer.process` : the command: arguments and files in, outcome and files out.
-/

namespace Orbit.Renderer

def helpText : String :=
  "Usage: mandel-render [options] <PROGRAM>\n\n" ++
  "Renders the escape-time image of a MandelASM program, e.g. '*bb+ab'.\n\n" ++
  "Options:\n" ++
  "  --engine <jit|interpret|hardcoded>        Execution engine (default: jit)\n" ++
  "  --size <WxH>                              Image size in pixels (default: 1600x900)\n" ++
  "  --bounds <RE_MIN,RE_MAX,IM_MIN,IM_MAX>    Complex-plane window (default: -1.6,1.6,-0.9,0.9)\n" ++
  "  --max-iterations <N>                      Escape-time cap (default: 256)\n" ++
  "  --format <pgm|pgm-ascii|ppm>              Output image format (default: pgm)\n" ++
  "  -o, --output <PATH>                       Write the image to PATH (default: stdout)\n" ++
  "  --program-file <PATH>                     Read the program text from PATH\n" ++
  "  -V, --version                             Show version with git metadata\n" ++
  "  -h, --help                                Show this help\n\n" ++
  "Logs go to stderr; filter them with RUST_LOG (default: info).\n\n"

def versionText : String := "mandel-render untagged (unknown)"

/-! ## The program text -/

inductive SourceFault where
  | both
  | neither
  | unreadable (path reason : String)
deriving DecidableEq, Repr

def SourceFault.message : SourceFault → String
  | both => "pass either <PROGRAM> or --program-file, not both"
  | neither => "missing program text"
  | unreadable path reason => s!"failed to read {path}: {reason}"

def fileText (path : String) (contents : Except String (List UInt8)) : Except SourceFault String :=
  match contents with
  | .error reason => .error (.unreadable path reason)
  | .ok bytes =>
    match Text.ofBytes? bytes with
    | none => .error (.unreadable path "stream did not contain valid UTF-8")
    | some text => .ok (Text.trim text)

/-- The program text, where `read` gives the contents of a file or the reason why it cannot be read. -/
def programText (options : Options) (read : String → Except String (List UInt8)) : Except SourceFault String :=
  match options.program, options.programFile with
  | some _, some _ => .error .both
  | some text, none => .ok text
  | none, some path => fileText path (read path)
  | none, none => .error .neither

/-! ## The picture -/

inductive RenderFault where
  | program (fault : Fault)
  | viewport (fault : ViewportFault Float)
  | overflow
  | output (reason : String)
deriving DecidableEq, Repr

def RenderFault.message : RenderFault → String
  | program fault => fault.message
  | viewport fault => fault.message
  | overflow => "capacity overflow"
  | output reason => reason

def RenderFault.ofPicture : PictureFault Float → RenderFault
  | .viewport fault => viewport fault
  | .overflow => overflow

def mappedEvent (console : Console) (size : Nat) : Event :=
  ⟨.debug, .memory, s!"mapped executable region len={size} at {console.address}"⟩

def compiledEvents (console : Console) (routine : Routine) : List Event :=
  let p := routine.program
  let size := routine.region.size
  [mappedEvent console size,
    ⟨.debug, .compiler, s!"compiled program={p.text} instructions={p.length} " ++
      s!"code_len={routine.codeLength} region_len={size}"⟩,
    ⟨.info, .engine,
      s!"{console.style.jitLabel} compiled {p.length} instruction(s) into {routine.code.length} bytes"⟩]

/-- The messages about a program that could not be compiled: the region may have been mapped. -/
def abandonedEvents (console : Console) (p : Program) : Fault → List Event
  | .noMemory (.tooLarge _) | .noMemory (.unmapped _) => []
  | _ => [mappedEvent console ((pagesFor? (p.sizeBound .native)).getD 0)]

def engineEvent (console : Console) (engine : Engine) : Event :=
  ⟨.info, .engine, s!"{console.style.jitLabel} engine={console.style.engineLabel engine.name}"⟩

def prepare (console : Console) (host : Host) (engine : Engine) (p : Program) : List Event × Except Fault Kernel :=
  let kernel := engine.kernel host p
  match engine with
  | .jit =>
    match (p.compile host 0).1 with
    | .error fault => (abandonedEvents console p fault, kernel)
    | .ok routine => (compiledEvents console routine ++ [engineEvent console engine], kernel)
  | _ => ([engineEvent console engine], kernel)

/-- The rows after which progress is reported: every tenth of the height. -/
def reportedRows (height : Nat) : List Nat :=
  ((List.range height).map (· + 1)).filter fun row => row % max (height / 10) 1 == 0

def startEvent (console : Console) (options : Options) : Event :=
  ⟨.info, .picture, s!"{console.style.renderLabel} rendering {options.viewport.text} max_iterations={options.cap}"⟩

def renderEvents (console : Console) (options : Options) (picture : Picture) : List Event :=
  let label := console.style.renderLabel
  let height := picture.height
  [startEvent console options] ++
    (reportedRows height.toNat).map (fun row => ⟨.debug, .picture, s!"rendered rows={row}/{height}"⟩) ++
    [⟨.info, .picture,
      s!"{label} rendered {picture.counts.size} pixels steps={picture.totalSteps} elapsed_ms={console.elapsed}"⟩]

/-- The picture of a program text, or the first fault, with the messages about the kernel. -/
def paint (console : Console) (host : Host) (options : Options) (text : String) :
    List Event × Except RenderFault Picture :=
  match Program.parse text with
  | .error fault => ([], .error (.program fault))
  | .ok p =>
    match options.viewport.check with
    | some fault => ([], .error (.viewport fault))
    | none =>
      match prepare console host options.engine p with
      | (events, .error fault) => (events, .error (.program fault))
      | (events, .ok kernel) =>
        match render kernel.step options.viewport options.cap with
        | .error fault => (events, .error (.ofPicture fault))
        | .ok picture => (events, .ok picture)

def writtenEvent (console : Console) (options : Options) (path : String) : Event :=
  ⟨.info, .command, s!"{console.style.renderLabel} wrote {options.format.name} image to {path}"⟩

/-! ## The command -/

def lastLine (sentence : String) : String := "Error: " ++ Text.quoted sentence ++ "\n"

/-- What is shown when the arguments or the program source are refused. -/
def refusal (sentence : String) : Outcome :=
  .failed "" (s!"error: {sentence}\n\n" ++ helpText ++ lastLine sentence)

/-- What is shown when rendering or writing failed after some messages. -/
def breakdown (console : Console) (events : List Event) (fault : RenderFault) : Outcome :=
  .failed "" (console.log events ++ s!"error: {fault.message}\n" ++ lastLine fault.message)

def greetingEvent : Event := ⟨.info, .command, versionText⟩

/-- What is shown when there is no picture, after the messages about the kernel. Too many pixels are noticed once
rendering has started, and then the process stops. -/
def pictureless (console : Console) (host : Host) (options : Options) (events : List Event) : RenderFault → Outcome
  | .overflow =>
    .stopped (console.log (greetingEvent :: events ++ [startEvent console options]) ++
      host.notice RenderFault.overflow.message)
  | fault => breakdown console (greetingEvent :: events) fault

def progress (console : Console) (options : Options) (events : List Event) (picture : Picture) : List Event :=
  greetingEvent :: events ++ renderEvents console options picture

/-- What is shown when a picture went to standard output. -/
def shown (console : Console) (options : Options) (events : List Event) (picture : Picture) : Outcome :=
  ⟨0, picture.file options.format, Text.utf8 (console.log (progress console options events picture))⟩

def filed (console : Console) (options : Options) (events : List Event) (picture : Picture) (path : String)
    (attempt : Except String Unit) : Outcome :=
  let events := progress console options events picture
  match attempt with
  | .error reason => breakdown console events (.output reason)
  | .ok _ => ⟨0, [], Text.utf8 (console.log (events ++ [writtenEvent console options path]))⟩

/-- What is shown when a picture went to a device, which leaves nothing behind in the files. -/
def taken (console : Console) (options : Options) (events : List Event) (picture : Picture) (path : String) :
    Device → Outcome
  | .null => filed console options events picture path (.ok ())
  | .full => filed console options events picture path (.error PathFault.noSpace.message)
  | .output =>
    { filed console options events picture path (.ok ()) with output := picture.file options.format }
  | .errors =>
    ⟨0, [], Text.utf8 (console.log (progress console options events picture)) ++ picture.file options.format ++
      Text.utf8 (console.log [writtenEvent console options path])⟩

/-- The command once its options and its program text are there. -/
def produce (console : Console) (host : Host) (options : Options) (text : String) (t : FileTree) :
    Outcome × FileTree :=
  match paint console host options text with
  | (events, .error fault) => (pictureless console host options events fault, t)
  | (events, .ok picture) =>
    match options.output with
    | none => (shown console options events picture, t)
    | some path =>
      match t.destination path with
      | .error fault => (filed console options events picture path (.error fault.message), t)
      | .ok (.device d) => (taken console options events picture path d, t)
      | .ok (.file slot) =>
        (filed console options events picture path (.ok ()), t.put slot (picture.file options.format))

/-- The command with its arguments, among the files of a system. -/
def process (console : Console) (host : Host) (args : List String) (t : FileTree) : Outcome × FileTree :=
  match parseOptions args with
  | .error fault => (refusal fault.message, t)
  | .ok .help => (⟨0, [], Text.utf8 helpText⟩, t)
  | .ok .version => (.printed (versionText ++ "\n"), t)
  | .ok (.render options) =>
    match programText options fun path => (t.read path).mapError PathFault.message with
    | .error fault => (refusal fault.message, t)
    | .ok text => produce console host options text t

end Orbit.Renderer
