import Orbit.Renderer.Process
import Orbit.Runner.Process

/-!
# The two commands

The name under which the executable is called decides which command it is: `mandel-jit-run` runs programs,
everything else renders pictures.
-/

namespace Orbit

/-- Everything on standard input. -/
partial def readInput (input : IO.FS.Stream) (read : ByteArray) : IO ByteArray := do
  let chunk ← input.read 65536
  if chunk.isEmpty then return read else readInput input (read ++ chunk)

def systemSentence : IO.Error → String
  | .noFileOrDirectory _ code details | .permissionDenied _ code details | .inappropriateType _ code details
  | .invalidArgument _ code details => s!"{details} (os error {code})"
  | .otherError code details | .resourceExhausted _ code details => s!"{details} (os error {code})"
  | error => toString error

def readFile (path : String) : IO (Except String (List UInt8)) := do
  match ← (IO.FS.withFile path .read fun handle => handle.readBinToEnd).toBaseIO with
  | .ok bytes => return .ok bytes.data.toList
  | .error error => return .error (systemSentence error)

def writeFile (path : String) (bytes : List UInt8) : IO (Except String Unit) := do
  let put (handle : IO.FS.Handle) : IO Unit := do
    handle.write ⟨bytes.toArray⟩
    handle.flush
  match ← (IO.FS.withFile path .write put).toBaseIO with
  | .ok _ => return .ok ()
  | .error error => return .error (systemSentence error)

def deliver (outcome : Outcome) : IO UInt32 := do
  (← IO.getStdout).write ⟨outcome.output.toArray⟩
  (← IO.getStdout).flush
  (← IO.getStderr).write ⟨outcome.errors.toArray⟩
  return outcome.exitCode

def runnerMain (args : List String) : IO UInt32 := do
  let interactive := match Runner.parseOptions args with
    | .ok options => options.repl && !options.help
    | .error _ => false
  let input ← if interactive then readInput (← IO.getStdin) ByteArray.empty else pure ByteArray.empty
  deliver (Runner.process .standard args input.data.toList)

def rendererConsole : IO Console := do
  let isSet (name : String) : IO Bool := return (← IO.getEnv name).isSome
  return {
    filter := Filter.ofSetting (← IO.getEnv "RUST_LOG")
    style := Style.ofEnvironment (← isSet "NO_COLOR") (← isSet "FORCE_COLOR")
    time := toString (← IO.monoMsNow)
    address := "0x" ++ Text.hex 1 registersBase.toNat
    elapsed := "0" }

/-- A rendering whose program text is there, with the time it takes. -/
def renderMain (console : Console) (options : Renderer.Options) (text : String) : IO UInt32 := do
  let started ← IO.monoMsNow
  let (events, result) ← IO.lazyPure fun _ => Renderer.paint console .standard options text
  let console := { console with elapsed := toString ((← IO.monoMsNow) - started) }
  match result, options.output with
  | .error fault, _ => deliver (Renderer.pictureless console .standard options events fault)
  | .ok picture, none => deliver (Renderer.shown console options events picture)
  | .ok picture, some path =>
    let attempt ← writeFile path (picture.file options.format)
    deliver (Renderer.filed console options events picture path attempt)

def rendererMain (args : List String) : IO UInt32 := do
  let console ← rendererConsole
  match Renderer.parseOptions args with
  | .ok (.render options) =>
    let contents ← match options.programFile with
      | some path => readFile path
      | none => pure (.ok [])
    match Renderer.programText options fun _ => contents with
    | .error fault => deliver (Renderer.refusal fault.message)
    | .ok text => renderMain console options text
  | _ => deliver (Renderer.process console .standard args .bare).1

end Orbit

/-- The command under whose name the executable was called. -/
def main (args : List String) : IO UInt32 := do
  let name := (← IO.appPath).fileName.getD ""
  if name.startsWith "mandel-jit-run" then Orbit.runnerMain args else Orbit.rendererMain args
