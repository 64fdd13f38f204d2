import DubCheck.Dub.Build
import DubCheck.Issue.Output
import DubCheck.Recipe.Load
import DubCheck.ToolSettings
import DubCheck.Workspace.Project
/-!
# Workspaces

A workspace serves one project directory.  Starting it up loads the project that is there, and
stopping it lets the project go.  Builds, updates and listings of dependencies can be done in the
background: each is a job, which keeps what was selected when it was asked for, and the project it
was asked for, even if that has been let go since.  A job runs either at once or when it is told to,
and its outcome is delivered under the ticket that was given out for it.
-/

namespace DubCheck

/-- What comes of a job. -/
inductive Outcome where
  /-- The issues found by a build. -/
  | issues (found : List Issue)
  /-- Whether there is anything to import from. -/
  | hasPaths (value : Bool)
  /-- The packages that take part in the project. -/
  | packages (list : List Dub.Package)

/-- Something that is done in the background.  Projects are given by their place in the list of all
projects that have been loaded. -/
inductive Work where
  /-- Build what is selected; builds of a project are numbered. -/
  | build (number : Nat) (selection : Selection)
  /-- Find the paths again. -/
  | update (project : Nat)
  /-- List the packages that take part in the project. -/
  | describe (settings : Dub.Settings)

/-- The name of a job. -/
def Work.name : Work → String
  | .build number _ => s!"dubsense-build-{number}"
  | .update _ => "dubsense-update"
  | .describe _ => "dubsense-describe"

/-- What the log says when a job fails. -/
def Work.complaint (failure : String) : Work → String
  | .build number _ => s!"Check build #{number} failed: {failure}"
  | .update _ => s!"Failed to update import paths: {failure}"
  | .describe _ => s!"Failed to list dependencies: {failure}"

/-- Work that waits to be done. -/
structure Job where
  /-- The ticket under which the outcome is delivered. -/
  ticket : Nat
  /-- The work. -/
  work : Work

/-- An outcome and the ticket it belongs to. -/
structure Delivery where
  /-- The ticket. -/
  ticket : Nat
  /-- The outcome. -/
  outcome : Except Failure Outcome

/-- A project that has been loaded, and how many builds of it have been asked for. -/
structure Loaded where
  /-- The project. -/
  project : Project
  /-- The number of builds. -/
  builds : Nat := 0

/-- What serves a project directory. -/
structure Workspace where
  /-- The directory. -/
  directory : Location
  /-- Settings of the tool. -/
  settings : ToolSettings
  /-- How compilers are found. -/
  resolver : Resolver
  /-- Who answers questions about the project. -/
  provider : Dub.Provider
  /-- Who builds the project. -/
  engine : Dub.Engine
  /-- Whether anyone listens to events. -/
  hasListener : Bool := true
  /-- The lists that are offered to others. -/
  offered : List String := ["imports", "string-imports"]
  /-- Whether jobs wait until they are told to run. -/
  deferred : Bool := false
  /-- All projects that have been loaded. -/
  projects : List Loaded := []
  /-- The place of the current project in that list, if one is loaded. -/
  current : Option Nat := none
  /-- The jobs that wait. -/
  queue : List Job := []
  /-- How many tickets have been given out. -/
  tickets : Nat := 0
  /-- The outcomes that nobody has taken yet. -/
  finished : List Delivery := []
  /-- The events that nobody has taken yet. -/
  events : List Document := []

/-- A workspace that asks dub. -/
def Workspace.new (directory : Location) (settings : ToolSettings) (resolver : Resolver) :
    Workspace where
  directory := directory
  settings := settings
  resolver := resolver
  provider := .dub settings.dub directory
  engine := .dub settings.dub directory

/-- Fail if a location has a name in it that no directory can have.  There is no workspace there. -/
def Workspace.checkDirectory (directory : Location) : Except Failure Unit :=
  if (Path.ofLocation directory).hasNul then .error .nulInPath else .ok ()

/-- A workspace on its host. -/
structure Session where
  /-- The host. -/
  host : Host
  /-- The workspace. -/
  workspace : Workspace

namespace Session

/-- Let the host do something. -/
def onHost {α : Type} (a : Act Host α) : Act Session α :=
  Act.onPart (·.host) (fun h s => { s with host := h }) a

/-- Put a note in the log. -/
def note (level : Level) (text : String) : Act Session Unit :=
  onHost (Host.note level text)

/-- Change the workspace. -/
def change (f : Workspace → Workspace) : Act Session Unit :=
  modify fun s => { s with workspace := f s.workspace }

/-- The session with a project replaced. -/
def putProject (s : Session) (index : Nat) (w : Workbench) : Session where
  host := w.host
  workspace := { s.workspace with
    projects := s.workspace.projects.modify index fun l => { l with project := w.project } }

/-- Do something with one of the projects that have been loaded. -/
def onProject {α : Type} (index : Nat) (a : Act Workbench α) : Act Session α :=
  Act.ofFunction fun s =>
    match s.workspace.projects[index]? with
    | none => (.error .notStarted, s)
    | some loaded =>
      let (r, w) := a.apply ⟨s.host, loaded.project⟩
      (r, s.putProject index w)

/-- The place of the current project. -/
def currentIndex : Act Session Nat := do
  match (← get).workspace.current with
  | some index => return index
  | none => throw .notStarted

/-- Do something with the current project. -/
def onCurrent {α : Type} (a : Act Workbench α) : Act Session α := do
  onProject (← currentIndex) a

/-- The current project. -/
def project : Act Session Project :=
  onCurrent (do return (← get).project)

/-! ## Starting and stopping -/

/-- The event that tells that a project has no configuration to start with. -/
def invalidConfigurationEvent : Document :=
  .object [("type", .string "warning"), ("component", .string "dub"),
    ("detail", .string "invalid-default-config")]

/-- Tell an event to whoever listens. -/
def emit (event : Document) : Act Session Unit :=
  change fun w => if w.hasListener then { w with events := w.events ++ [event] } else w

/-- The recipe that is in the directory now. -/
def loadRecipe : Act Session Recipe := do
  let s ← get
  Act.ofExcept (Recipe.load s.host (Path.ofLocation s.workspace.directory))

/-- The platform that a compiler builds for, if the compiler can be found.  That it cannot be found
is no failure. -/
def platformOf (compiler : String) : Act Session (Option Platform) := do
  let s ← get
  match s.workspace.resolver.resolve s.host compiler with
  | .ok c => return some (s.workspace.resolver.platform s.host c none)
  | .error (.compiler e) =>
    note .warning ("Default compiler unavailable: " ++ e.message)
    return none
  | .error e => throw e

/-- A value that counts as false is shown as `none`. -/
def shownOrNone (d : Document) : String :=
  if d.truthy then d.display else "none"

/-- Load the project and select what dub would.  The result is whether there is anything to import
from. -/
def startup : Act Session Bool := do
  let recipe ← loadRecipe
  let s ← get
  let w := s.workspace
  let compiler := w.resolver.defaultCompiler s.host w.settings.preferredCompiler
  let platform ← platformOf compiler
  let found ← Act.ofExcept (recipe.defaultConfiguration s.host platform)
  let configuration := (found.filter (·.truthy)).getD (.string "")
  let project : Project := ⟨recipe, { configuration := configuration, compiler := compiler }, {}⟩
  change fun w =>
    { w with projects := w.projects ++ [{ project := project }], current := some w.projects.length }
  let name := if recipe.name.isEmpty then w.directory.getLast?.getD "" else recipe.name
  note .info (s!"Loaded {name} from {recipe.file.text} " ++
    s!"(configuration={shownOrNone configuration}, compiler={compiler})")
  if ← Act.ofExcept (project.isValid s.host) then
    onCurrent (Project.refresh w.provider w.resolver)
  else
    note .warning "Dub Error: No configuration available"
    emit invalidConfigurationEvent
    return false

/-- Let the project go. -/
def stop : Act Session Unit :=
  change fun w => { w with current := none }

/-- Read the recipe again. -/
def restart : Act Session Unit := do
  let recipe ← loadRecipe
  onCurrent (Project.reload recipe)
  note .info ("Reloaded " ++ recipe.file.text)

/-! ## Questions and selections -/

/-- Fail unless the active configuration is one of the project's. -/
def validate : Act Session Unit :=
  onCurrent Project.validate

/-- Select a value in the current project. -/
def select (pick : Pick) : Act Session Bool := do
  let w := (← get).workspace
  onCurrent (Project.select w.provider w.resolver pick)

/-- The names of the configurations. -/
def configurations : Act Session (List Document) := do
  let p ← project
  Act.ofExcept (p.recipe.configurationNames (← get).host)

/-- The build types. -/
def buildTypes : Act Session (List String) := do
  return (← project).recipe.buildTypes

/-- The arch types. -/
def archTypes : Act Session (List String) := do
  let p ← project
  return p.selection.archTypes (← get).workspace.resolver

/-- The names of the packages that the project itself depends on. -/
def rootDependencies : Act Session (List String) := do
  validate
  return (← project).recipe.dependencyNames

/-! ## Jobs -/

/-- Build a selection without writing any output, and collect the issues, backwards until the build
has ended.  When dub only reports that the compiler failed, the build has done its work. -/
def runCheck (selection : Selection) : Act Session (List Issue) := do
  let s ← get
  let settings ← Act.ofExcept (selection.settings s.workspace.resolver s.host)
  let receive (found : List Issue) (line : List Char) : Except Failure (List Issue) :=
    ((Issue.ofRawLine line).map (·.reverse ++ found)).mapError .ofUnreadable
  match ← onHost (s.workspace.engine.generate
      { settings with syntaxOnly := true, temporary := true } receive []) with
  | (found, none) => return found.reverse
  | (found, some (.build e)) =>
    if Dub.reportsCompiler e.message.toList then
      note .debug ("Ignoring harmless build failure: " ++ e.message)
      return found.reverse
    else throw (.build e)
  | (_, some e) => throw e

/-- Do some work. -/
def perform : Work → Act Session Outcome
  | .build number selection => do
    let found ← runCheck selection
    note .info s!"Check build #{number} finished with {found.length} issues"
    return .issues found
  | .update index => do
    let w := (← get).workspace
    return .hasPaths (← onProject index (Project.refresh w.provider w.resolver))
  | .describe settings => do
    let w := (← get).workspace
    let description ← onHost (w.provider.describe settings)
    return .packages (← Act.ofExcept (Dub.packagesOf description))

/-- Deliver an outcome. -/
def deliver (ticket : Nat) (outcome : Except Failure Outcome) : Act Session Unit :=
  change fun w => { w with finished := w.finished ++ [⟨ticket, outcome⟩] }

/-- Run a job and deliver its outcome. -/
def runJob (job : Job) : Act Session Unit := do
  let outcome ← (perform job.work).outcome
  match outcome with
  | .error e => note .error (job.work.complaint e.message)
  | .ok _ => pure ()
  deliver job.ticket outcome

/-- A new ticket. -/
def newTicket : Act Session Nat := do
  change fun w => { w with tickets := w.tickets + 1 }
  return (← get).workspace.tickets

/-- Begin some work under a ticket: at once, or when it is told to run. -/
def launch (ticket : Nat) (work : Work) : Act Session Unit := do
  if (← get).workspace.deferred then change fun w => { w with queue := w.queue ++ [⟨ticket, work⟩] }
  else runJob ⟨ticket, work⟩

/-- Run the job at a place in the queue; the result is its name. -/
def runQueued (index : Nat) : Act Session (Option String) := do
  match (← get).workspace.queue[index]? with
  | none => return none
  | some job =>
    change fun w => { w with queue := w.queue.eraseIdx index }
    runJob job
    return some job.work.name

/-- The outcomes that nobody has taken yet, which are taken now. -/
def takeFinished : Act Session (List Delivery) := do
  let found := (← get).workspace.finished
  change fun w => { w with finished := [] }
  return found

/-- The events that nobody has taken yet, which are taken now. -/
def takeEvents : Act Session (List Document) := do
  let found := (← get).workspace.events
  change fun w => { w with events := [] }
  return found

/-! ## Work in the background -/

/-- What the log says when a build is asked for. -/
def buildNote (number : Nat) (s : Selection) : String :=
  s!"Starting check build #{number}: config={s.configuration.display}, build={s.buildType}, " ++
    s!"arch={s.archType}, compiler={s.compiler}"

/-- Ask for a build of what is selected; the result is the ticket. -/
def build : Act Session Nat := do
  let index ← currentIndex
  validate
  let selection := (← project).selection
  let ticket ← newTicket
  change fun w =>
    { w with projects := w.projects.modify index fun l => { l with builds := l.builds + 1 } }
  let number := ((← get).workspace.projects[index]?.map (·.builds)).getD 0
  note .info (buildNote number selection)
  launch ticket (.build number selection)
  return ticket

/-- Read the recipe again and ask for the paths; the result is the ticket. -/
def update : Act Session Nat := do
  let ticket ← newTicket
  match ← restart.outcome with
  | .error e =>
    note .error ("Failed to reload project: " ++ e.message)
    deliver ticket (.error e)
  | .ok _ => launch ticket (.update (← currentIndex))
  return ticket

/-- Ask for the packages that take part in the project; the result is the ticket. -/
def dependencies : Act Session Nat := do
  validate
  let p ← project
  let s ← get
  let settings ← Act.ofExcept (p.selection.settings s.workspace.resolver s.host)
  let ticket ← newTicket
  launch ticket (.describe settings)
  return ticket

/-- Build what is selected, and wait for it. -/
def check : Act Session (List Issue) := do
  validate
  let p ← project
  runCheck p.selection

end Session

end DubCheck
