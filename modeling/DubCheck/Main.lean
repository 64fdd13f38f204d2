import DubCheck.CommandLine.Commands
import DubCheck.Dub.Recording
/-!
# The program

The outer layer: it finds out what there is around the program, runs the command line there, and
prints what comes of it.  Of the file system only the places are looked at that a command may ask
about.  The input is read to its end before requests are served.

dub itself is not run from here.  Its answers are taken from the recording in the file that
`DUBSENSE_RECORDING` names; without one, dub counts as a program that is not there.
-/

namespace DubCheck.Surroundings

/-- The variables of the environment that matter. -/
def variableNames : List String :=
  ["PATH", "HOME", "COLUMNS", "DC", "DFLAGS", "DUBSENSE_HOME", "DUBSENSE_DUB", "DUBSENSE_LOG_LEVEL"]

/-- The variable that names the file with the recording. -/
def recordingName : String := "DUBSENSE_RECORDING"

/-- The files of a project that a command may ask about. -/
def projectFiles (directory : Path) : List Path :=
  (Recipe.fileNames ++ applicationFiles).map fun name => directory.join (Path.ofText name)

/-- The places where a compiler may be. -/
def programPlaces (searchPath compiler : String) : List Path :=
  if compiler.contains '/' then [Path.ofText compiler]
  else (Resolver.directories searchPath).map fun d => Path.ofText (Resolver.inDirectory d compiler)

/-- The variables that are set, with their values. -/
def environment : IO (List (String × String)) :=
  variableNames.filterMapM fun name => do return (← IO.getEnv name).map (name, ·)

/-- How dub answers. -/
def dub : IO Dub.Program := do
  match ← IO.getEnv recordingName with
  | none => return fun _ => .noProgram
  | some file =>
    match Document.read (← IO.FS.readFile file).toList with
    | .ok recording => return Dub.Recording.program recording
    | .error _ => throw (IO.userError ("no recording in " ++ file))

/-- Put in what there is at a path: a file that can be read, or a directory. -/
def look (directory : Location) (t : FileTree) (p : Path) : IO FileTree := do
  let place := p.resolve directory
  match ← (IO.FS.readBinFile (Location.text place)).toBaseIO with
  | .ok bytes => return t.write place bytes.toList false
  | .error (.inappropriateType ..) => return t.makeDirectory place
  | .error _ => return t

/-- Put in the program that there is at a path.  What it consists of does not matter. -/
def lookForProgram (directory : Location) (t : FileTree) (p : Path) : IO FileTree := do
  let place := p.resolve directory
  let found ← (IO.FS.withFile (Location.text place) .read fun h => h.read 1).toBaseIO
  return if found matches .ok _ then t.write place [] true else t

/-- The directories that the log of a server is in, the outermost first. -/
def logPlaces (settings : ToolSettings) : List Path :=
  let p := settings.logDirectory
  (List.range p.parts.length).map fun n => ⟨p.root, p.parts.take (n + 1)⟩

/-- Put in what there is at the places where the log of a server may be. -/
def lookForLog (h : Host) : IO Host := do
  match ToolSettings.ofHost h with
  | .error _ => return h
  | .ok settings =>
    let files ← (logPlaces settings).foldlM (look h.directory) h.files
    return { h with files := files }

/-- What there is around the program when it is run with some arguments. -/
def host (arguments : List String) : IO Host := do
  let environment ← environment
  let here := (Path.ofText ((← IO.getEnv "PWD").getD "/")).resolve []
  let invocation := (CommandLine.read arguments).toOption
  let project := Path.ofText ((invocation.bind (·.directory)).getD ".")
  let files ← (project :: projectFiles project).foldlM (look here)
    (FileTree.makeDirectory {} here)
  let compilers := Resolver.candidates ++ (environment.lookup "DC").toList ++
    (invocation.bind (·.value? .compiler)).toList
  let places := compilers.flatMap (programPlaces ((environment.lookup "PATH").getD ""))
  let files ← places.foldlM (lookForProgram here) files
  lookForLog {
    files := files
    directory := here
    environment := environment
    machine := "x86_64"
    dub := ← dub }

/-- Append the notes of a server to its log file. -/
def appendLog (h : Host) : IO Unit := do
  match ToolSettings.ofHost h with
  | .error _ => return
  | .ok settings =>
    IO.FS.createDirAll settings.logDirectory.text
    IO.FS.withFile (Service.logFile settings).text .append fun file =>
      h.log.forM fun n => file.putStrLn (n.level.name ++ " " ++ n.text)

/-- The lines of the input, with their line ends. -/
partial def inputLines (input : IO.FS.Stream) : IO (List String) := do
  let line ← input.getLine
  if line.isEmpty then return []
  return line :: (← inputLines input)

end DubCheck.Surroundings

open DubCheck in
/-- Run the program. -/
def main (arguments : List String) : IO UInt32 := do
  let host ← Surroundings.host arguments
  let terminal : CommandLine.Terminal := { host := host, coloured := ← (← IO.getStdout).isTty }
  let serves := (CommandLine.read arguments).toOption.any (·.command == .serve)
  let lines ← if serves then Surroundings.inputLines (← IO.getStdin) else pure []
  let (result, terminal) := (CommandLine.run arguments (lines.map .line)).apply terminal
  IO.print terminal.output
  IO.eprint terminal.sideOutput
  if terminal.logsToFile then Surroundings.appendLog terminal.host
  match result with
  | .ok code => return code.toUInt32
  | .error e =>
    IO.eprintln (e.kind ++ ": " ++ e.message)
    return 1
