import DubCheck.CommandLine.Arguments
import DubCheck.CommandLine.Help
import DubCheck.CommandLine.Terminal
import DubCheck.Service.Server
/-!
# The commands

What the commands of the command line do.  `check` builds a project without writing any output and
ends well if no issue is an error; `paths` lists what a project imports and compiles; `configs`
lists what can be selected; `serve` serves requests.

A failure ends a command.  Failures that tell that the project or the selections cannot be used are
expected and reported under a title that the command chooses; any other is reported as unexpected.
-/

namespace DubCheck.CommandLine

open Terminal

/-! ## Opening a project -/

/-- Load the project in a directory. -/
def openProject (directory : Path) : Act Terminal Unit := do
  let h := (← get).host
  let settings ← Act.ofExcept (ToolSettings.ofHost h)
  modify fun t => { t with workspace := some (.new (directory.resolve h.directory) settings {}) }
  let _ ← onSession Session.startup

/-- Load the project in a directory and select what is asked for. -/
def openSelected (directory : Path) (wishes : Wishes) : Act Terminal Unit := do
  openProject directory
  onSession (Session.applyWishes wishes)

/-! ## Failing -/

/-- Whether a failure tells that the project or the selections cannot be used. -/
def isRefusal : Failure → Bool
  | .recipe _ | .invalidConfiguration _ _ => true
  | .unavailable _ _ _ | .compilerNotFound _ => true
  | .pathLists _ _ | .numeral _ | .entry (.severity _) | .encoding _ => true
  | .nulInPath | .level (.layout _) => true
  | _ => false

/-- Whether a failure tells that the recipe cannot be loaded. -/
def isRecipeFailure : Failure → Bool
  | .recipe _ => true
  | _ => false

/-- Report a failure.  An expected one is reported under the given title. -/
def reportFailure (title : String) (expected : Failure → Bool) (verbose : Bool) :
    Failure → Act Terminal Exit
  | .interrupted => do
    printInterruption
    return .interrupted
  | e => do
    if expected e then
      printError title e.message
      return .unusable
    printError "Unexpected error" (e.kind ++ ": " ++ e.message)
    if verbose then print "Traceback:"
    return .bad

/-- Carry out a command, and report its failure if it fails. -/
def reporting (title : String) (expected : Failure → Bool) (verbose : Bool)
    (command : Act Terminal Exit) : Act Terminal Exit :=
  Act.ofFunction fun t =>
    match command.apply t with
    | (.ok exit, t) => (.ok exit, t)
    | (.error e, t) => (reportFailure title expected verbose e).apply t

/-! ## The commands -/

/-- Print what is selected. -/
def printSelection : Act Terminal Unit := do
  let p ← onSession Session.project
  let directory ← onSession (do return (← get).workspace.directory)
  let s := p.selection
  print s!"Project: {p.recipe.name} ({directory.text})"
  print <| s!"Configuration: {s.configuration.display}, build type: {s.buildType}, " ++
    s!"arch: {s.archType}, compiler: {s.compiler}"
  print ""

/-- How a check ends that has found some issues. -/
def verdict (found : List Issue) : Exit :=
  if found.any (·.severity == .error) then .bad else .fine

/-- Print the issues that have been found, their numbers, and how the check ends. -/
def printFindings (verbose : Bool) (found : List Issue) : Act Terminal Exit := do
  write (Report.ofIssues (← get).coloured found)
  let summary := Report.summary (found.map (·.severity))
  match verdict found with
  | .fine =>
    printSuccess ("Check passed: " ++ summary)
    if verbose then print "Check time: 0.00s"
    return .fine
  | exit =>
    printError "Check failed!" summary
    return exit

/-- Build a project without writing any output, and report the issues. -/
def check (directory : Path) (wishes : Wishes) (verbose : Bool) : Act Terminal Exit :=
  reporting "Cannot check project" isRefusal verbose do
    openSelected directory wishes
    if verbose then printSelection
    printFindings verbose (← onSession Session.check)

/-- Print a title and some entries below it. -/
def printEntries (title indent : String) (entries : List String) : Act Terminal Unit := do
  print (title ++ ":")
  entries.forM fun entry => print (indent ++ entry)

/-- List the paths of a project. -/
def paths (directory : Path) (wishes : Wishes) : Act Terminal Exit :=
  reporting "Cannot list paths" isRefusal false do
    openSelected directory wishes
    let found := (← onSession Session.project).paths
    printEntries "Import paths" "  " found.importPaths
    printEntries "String import paths" "  " found.stringImportPaths
    printEntries "Source files" "  " found.sourceFiles
    return if found.hasPaths then .fine else .bad

/-- List what can be selected in a project; the active configuration is marked. -/
def configs (directory : Path) : Act Terminal Exit :=
  reporting "Cannot read project" isRecipeFailure false do
    openProject directory
    print "Configurations:"
    let active := (← onSession Session.project).selection.configuration
    (← onSession Session.configurations).forM fun name =>
      print ((if name.equals active then " * " else "   ") ++ name.display)
    printEntries "Build types" "   " (← onSession Session.buildTypes)
    printEntries "Arch types" "   " (← onSession Session.archTypes)
    return .fine

/-- Serve requests for a project.  The result is the exit code. -/
def serve (directory : Path) (parent : Option Service.Parent) (events : List Service.Event) :
    Act Terminal Nat := do
  let t ← get
  let settings ← Act.ofExcept (ToolSettings.ofHost t.host)
  let workspace :=
    { Workspace.new (directory.resolve t.host.directory) settings {} with deferred := t.deferred }
  let server : Service.Server := { session := ⟨t.host, workspace⟩, parent := parent }
  let (logging, _) := (Service.startLogging settings).apply t.host
  let (r, server) := (Service.Server.run events).apply server
  set { t with
    host := server.session.host
    workspace := some server.session.workspace
    output := t.output ++ String.join (server.output.map (· ++ "\n"))
    logsToFile := logging.toBool
    watching := server.watching }
  match r with
  | .error .interrupted => return Exit.interrupted.code
  | r => Act.ofExcept r

/-! ## Running a command line -/

/-- Why a directory cannot be used, in words, if it cannot. -/
def objection (h : Host) (directory : Path) : Except Failure (Option String) := do
  match ← h.look directory with
  | none => return some "Path does not exist: "
  | some (.file _ _) => return some "Path is not a directory: "
  | some (.directory _) =>
    return if (← Recipe.locate h directory).isNone then some "No dub.json or dub.sdl in " else none

/-- What an option for a selection asks for. -/
def Given.wish : Given → Wish
  | .value text => .named text
  | .nothing => .nameless

/-- What a command line asks for. -/
def Invocation.wishes (i : Invocation) : Wishes where
  configuration := (i.given? .configuration).map Given.wish
  buildType := (i.given? .buildType).map Given.wish
  archType := (i.given? .archType).map Given.wish
  compiler := (i.given? .compiler).map Given.wish

/-- The process that is to be watched, if there is one. -/
def Invocation.parent? (i : Invocation) : Option Service.Parent :=
  match i.given? .parent with
  | some (.value text) => (Text.integer? text).map .numbered
  | some .nothing => some .unnumbered
  | none => none

/-- Carry out a command in a directory.  The result is the exit code. -/
def Invocation.runIn (i : Invocation) (directory : Path) (events : List Service.Event) :
    Act Terminal Nat :=
  match i.command with
  | .check => return (← check directory i.wishes (i.has .verbose)).code
  | .paths => return (← paths directory i.wishes).code
  | .configs => return (← configs directory).code
  | .serve => serve directory i.parent? events

/-- Carry out what a command line asks for.  The result is the exit code. -/
def Invocation.run (i : Invocation) (events : List Service.Event) : Act Terminal Nat := do
  let h := (← get).host
  let directory := (i.directory.map Path.ofText).getD (Path.ofLocation h.directory)
  match ← Act.ofExcept (objection h directory) with
  | some text =>
    print (painted (Report.colour .error) ("✗ Error: " ++ text ++ directory.text))
    return Exit.unusable.code
  | none => i.runIn directory events

/-- Say why the program stops.  The result is the exit code. -/
def Stop.show (width : Nat) : Stop → Act Terminal Nat
  | .help g => do
    write (g.page width)
    return Exit.fine.code
  | .version => do
    (fill (textWidth width) (programName ++ " " ++ programVersion)).forM print
    return Exit.fine.code
  | .error g message => do
    let complaint := g.usage width ++ "\n" ++ g.program ++ ": error: " ++ message ++ "\n"
    modify fun t => { t with complaints := t.complaints ++ complaint }
    return Exit.unusable.code

/-- Run the program with some arguments; `events` is what reaches it if it serves requests.  The
result is the exit code. -/
def run (arguments : List String) (events : List Service.Event) : Act Terminal Nat := do
  match read arguments with
  | .error stop => stop.show (pageWidth ((← get).host.setting? "COLUMNS"))
  | .ok invocation => invocation.run events

end DubCheck.CommandLine
