import DubCheck.Act
import DubCheck.Dub.Program
import DubCheck.Host.FileTree
/-!
# The host

The `Host` is what there is around the program: the file system and the working directory, the
environment, the kind of machine, and dub.  It also takes what the program leaves behind: the log
and the record of the runs of dub.
-/

namespace DubCheck

/-- How important a note in the log is. -/
inductive Level where
  /-- For those who look for a mistake. -/
  | debug
  /-- What happens. -/
  | info
  /-- Something is not as it should be. -/
  | warning
  /-- Something failed. -/
  | error
deriving DecidableEq, Repr

/-- The name of a level. -/
def Level.name : Level → String
  | .debug => "DEBUG"
  | .info => "INFO"
  | .warning => "WARNING"
  | .error => "ERROR"

/-- The rank of a level: a higher one is more important. -/
def Level.rank : Level → Nat
  | .debug => 10
  | .info => 20
  | .warning => 30
  | .error => 40

/-- A note in the log. -/
structure Note where
  /-- How important it is. -/
  level : Level
  /-- What it says. -/
  text : String
deriving DecidableEq, Repr

/-- What there is around the program. -/
structure Host where
  /-- The file system. -/
  files : FileTree
  /-- The working directory. -/
  directory : Location
  /-- The environment. -/
  environment : List (String × String)
  /-- The kind of machine. -/
  machine : String
  /-- How dub answers. -/
  dub : Dub.Program
  /-- The number of the process. -/
  process : Nat := 0
  /-- The rank below which notes are not kept. -/
  threshold : Nat := 0
  /-- The log. -/
  log : List Note := []
  /-- The runs of dub. -/
  runs : List Dub.Run := []

namespace Host

/-- The value of a variable of the environment. -/
def setting? (h : Host) (name : String) : Option String :=
  h.environment.lookup name

/-- The log with another note, if the note is important enough. -/
def noted (h : Host) (level : Level) (text : String) : Host :=
  if h.threshold ≤ level.rank then { h with log := h.log ++ [⟨level, text⟩] } else h

/-- Put a note in the log. -/
def note (level : Level) (text : String) : Act Host Unit :=
  modify (·.noted level text)

/-- Run dub and keep a record of it.  No system passes on an argument with a null character in it;
that the run fails then, before dub has started, is left out. -/
def runDub (run : Dub.Run) : Act Host Dub.Reply := do
  modify fun h => { h with runs := h.runs ++ [run] }
  return (← get).dub (run.command.drop 1)

/-- Change the record of the latest run. -/
def amendRun (change : Dub.Run → Dub.Run) : Act Host Unit :=
  modify fun h =>
    match h.runs.getLast? with
    | some run => { h with runs := h.runs.dropLast ++ [change run] }
    | none => h

/-- What a path leads to, if it leads somewhere.  A path that is too long is refused. -/
def look (h : Host) (p : Path) : Except Failure (Option FileNode) :=
  (h.files.look h.directory p).mapError (.system · p.text)

/-- Whether a path leads to a file.  A path that is too long is refused. -/
def lookForFile (h : Host) (p : Path) : Except Failure Bool :=
  (h.look p).map (· matches some (.file _ _))

/-! ## Making files and directories -/

/-- Change the file system in a way that depends on a path, unless the system refuses. -/
def changeFiles (change : FileTree → Location → Path → Except SystemFault FileTree) (p : Path) :
    Act Host Unit :=
  Act.ofFunction fun h =>
    match change h.files h.directory p with
    | .ok files => (.ok (), { h with files := files })
    | .error fault => (.error (.system fault p.text), h)

/-- Make an empty file, unless there is a file already. -/
def makeFile (p : Path) : Act Host Unit :=
  changeFiles FileTree.withFile p

/-- Make a directory, unless there is a directory already. -/
def makeDirectory (p : Path) : Act Host Unit :=
  Act.ofFunction fun h =>
    match (changeFiles FileTree.withDirectory p).apply h with
    | (.error e, h) =>
      if h.files.isDirectory h.directory p then (.ok (), h) else (.error e, h)
    | made => made

/-- How many directories can be missing where one is made. -/
def maxMissing : Nat := 986

/-- Make the directory with the given parts, the last one first, where it is missing, and also the
directories around it.  Too many that are missing cannot be made, and then none is. -/
def makeDirectoriesFrom (root : PathRoot) : Nat → List String → Act Host Unit
  | 0, _ => throw .overlyNested
  | _ + 1, [] => makeDirectory ⟨root, []⟩
  | allowed + 1, part :: outer =>
    let p : Path := ⟨root, (part :: outer).reverse⟩
    Act.ofFunction fun h =>
      match (makeDirectory p).apply h with
      | (.error (.system .absent _), h) =>
        (do makeDirectoriesFrom root allowed outer; makeDirectory p).apply h
      | made => made

/-- Make a directory where it is missing, and also the directories around it. -/
def makeDirectories (p : Path) : Act Host Unit :=
  makeDirectoriesFrom p.root maxMissing p.parts.reverse

end Host

end DubCheck
