import DubCheck.Dub.Settings
import DubCheck.Text.Line
/-!
# Building with dub

A build prints lines while it runs, and each line is handed to a receiver.  If the receiver fails,
the build is killed and that is how it ends.  Otherwise it ends as dub does; when dub fails, the
last line in which it reports a failure of the compiler says why, or else the last line that is
not blank.

An `Engine` is anything that can build; `Engine.dub` runs dub in the directory of the project.
-/

namespace DubCheck.Dub

/-- What a build prints, and how it ends once all of that has been received. -/
structure Transcript where
  /-- The lines, without their line ends. -/
  lines : List (List Char)
  /-- The failure it ends in, if there is one. -/
  ending : Option Failure

/-- Whoever builds projects. -/
structure Engine where
  /-- Start a build. -/
  start : Settings → Act Host Transcript
  /-- Kill the build that was started last. -/
  kill : Act Host Unit

/-- Whether a text reports that the compiler failed, which only means that it found errors. -/
def reportsCompiler (text : List Char) : Bool :=
  Text.occursIn "failed with exit code".toList text

/-- What has been heard in a build so far about why it may fail.  A text is empty if there is
nothing of its kind. -/
structure Remarks where
  /-- The last line in which dub reports a failure of the compiler, without the blanks around it. -/
  compiler : List Char := []
  /-- The last line that is not blank, without the blanks around it. -/
  last : List Char := []

/-- The remarks when another line has been heard. -/
def Remarks.hear (r : Remarks) (line : List Char) : Remarks :=
  let said := Text.trim line
  { compiler := if reportsCompiler line then said else r.compiler
    last := if said.isEmpty then r.last else said }

/-- Why a run of dub failed that ended with the given status. -/
def Remarks.blame (r : Remarks) (status : Int) : BuildError :=
  if !r.compiler.isEmpty then .failed (String.ofList r.compiler)
  else if !r.last.isEmpty then .failed (String.ofList r.last)
  else .exited status

/-- The text that is read from a run of dub that printed the given bytes. -/
def printedText (output : List UInt8) : List Char :=
  Text.translateNewlines (Text.Utf8.decodeLossy output)

/-- The lines that are read from a run of dub that printed the given bytes. -/
def printedLines (output : List UInt8) : List (List Char) :=
  Text.linesOf (printedText output)

/-- The transcript of a run of dub that printed the given bytes and ended with the given status. -/
def transcriptOf (output : List UInt8) (status : Int) : Transcript :=
  let lines := (printedLines output).map Text.dropLineEnd
  let remarks := lines.foldl Remarks.hear {}
  ⟨lines, if status = 0 then none else some (.build (remarks.blame status))⟩

/-- The value of the variable with the flags for the compiler: the flags in force, and then those
of the settings. -/
def flagsVariable (h : Host) (settings : Settings) : Option String :=
  let inherited := h.setting? "DFLAGS"
  let flags := settings.compilerFlags
  if flags.isEmpty then inherited
  else some (Text.trimmed (Text.trimmed (inherited.getD "") ++ " " ++ flags))

/-- dub, run in the directory of a project.  Settings with a null character in them are left out as
they are in `Host.runDub`. -/
def Engine.dub (program : String) (directory : Location) : Engine where
  start settings := do
    let command := program :: settings.buildArguments
    Host.note .debug ("Running " ++ " ".intercalate command ++ " in " ++ directory.text)
    let flags := flagsVariable (← get) settings
    match ← Host.runDub ⟨command, directory.text, .build flags false⟩ with
    | .noProgram => throw (.build (.noProgram program))
    | .denied => throw (.build (.denied program))
    | .timedOut => throw (.build (.exited 124))
    | .interrupted => throw .interrupted
    | .finished stdout stderr status => return transcriptOf (stdout ++ stderr) status
  kill := Host.amendRun Run.kill

/-- Hand lines to a receiver until it fails. -/
def feed {τ : Type} (receive : τ → List Char → Except Failure τ) (received : τ) :
    List (List Char) → τ × Option Failure
  | [] => (received, none)
  | line :: rest =>
    match receive received line with
    | .ok received => feed receive received rest
    | .error e => (received, some e)

/-- Build, handing the output to a receiver.  The result is what has been received, and how the
build failed if it did. -/
def Engine.generate {τ : Type} (engine : Engine) (settings : Settings)
    (receive : τ → List Char → Except Failure τ) (start : τ) : Act Host (τ × Option Failure) := do
  match ← (engine.start settings).outcome with
  | .error e => return (start, some e)
  | .ok transcript =>
    match feed receive start transcript.lines with
    | (received, some e) => do
      engine.kill
      return (received, some e)
    | (received, none) => return (received, transcript.ending)

end DubCheck.Dub
