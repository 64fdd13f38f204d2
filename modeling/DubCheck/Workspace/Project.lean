import DubCheck.Dub.Describe
import DubCheck.Recipe.Basic
/-!
# Loaded projects

A loaded project has four selections, which say what is built: a configuration, an arch type, a
build type and a compiler.  It also has the paths that go with them: import paths, string import
paths and source files.

`Project.select` changes one selection.  A value that is not available is rejected and nothing
changes.  Otherwise the paths are asked for again, in one question, and all of them are replaced:
by the answer, or by nothing if there is no answer.
-/

namespace DubCheck

/-- The paths of a project.  They are always replaced together. -/
structure PathSet where
  /-- Where modules are found. -/
  importPaths : List String := []
  /-- Where files are found that are imported as texts. -/
  stringImportPaths : List String := []
  /-- The files that are compiled. -/
  sourceFiles : List String := []
deriving DecidableEq, Repr

/-- Whether there is anything to import from. -/
def PathSet.hasPaths (p : PathSet) : Bool :=
  !p.importPaths.isEmpty || !p.sourceFiles.isEmpty

/-- The names under which dub lists the paths. -/
def pathFields : List String :=
  ["import-paths", "string-import-paths", "source-files"]

/-- The paths that three lists give; empty ones are left out. -/
def PathSet.ofLists : List (List String) → Except Failure PathSet
  | [imports, stringImports, sources] =>
    let nonempty (l : List String) : List String := l.filter (!·.isEmpty)
    .ok ⟨nonempty imports, nonempty stringImports, nonempty sources⟩
  | lists => .error (.pathLists pathFields.length lists.length)

/-- What is selected in a project. -/
structure Selection where
  /-- The configuration. -/
  configuration : Document
  /-- The arch type. -/
  archType : String := "x86_64"
  /-- The build type. -/
  buildType : String := "debug"
  /-- The name of the compiler. -/
  compiler : String

/-- A value for one of the four selections. -/
inductive Pick where
  /-- A configuration. -/
  | configuration (name : Document)
  /-- An arch type. -/
  | archType (name : String)
  /-- A build type. -/
  | buildType (name : String)
  /-- A compiler. -/
  | compiler (name : String)
deriving Repr

/-- Whether a value is for the configuration. -/
def Pick.isConfiguration : Pick → Bool
  | .configuration _ => true
  | _ => false

/-- A selection with one value changed. -/
def Selection.set (s : Selection) : Pick → Selection
  | .configuration name => { s with configuration := name }
  | .archType name => { s with archType := name }
  | .buildType name => { s with buildType := name }
  | .compiler name => { s with compiler := name }

/-- What dub is told about a selection, once its compiler has been found. -/
def Selection.settings (s : Selection) (r : Resolver) (h : Host) :
    Except Failure Dub.Settings := do
  return {
    configuration := s.configuration.display
    buildType := s.buildType
    compiler := ← r.resolve h s.compiler
    archType := some s.archType }

/-- The platform that a selection builds for, once its compiler has been found. -/
def Selection.platform (s : Selection) (r : Resolver) (h : Host) : Except Failure Platform := do
  return r.platform h (← r.resolve h s.compiler) (some s.archType)

/-- The arch types that the selected compiler knows. -/
def Selection.archTypes (s : Selection) (r : Resolver) : List String :=
  DubCheck.archTypes (Family.ofProgram? s.compiler) r.os

/-- A loaded project. -/
structure Project where
  /-- Its recipe. -/
  recipe : Recipe
  /-- What is selected. -/
  selection : Selection
  /-- The paths that go with the selection. -/
  paths : PathSet := {}

/-- A list of names in a message, or a word that says that it is empty. -/
def orNone (names : String) : String :=
  if names.isEmpty then "none" else names

/-- A project on its host. -/
structure Workbench where
  /-- The host. -/
  host : Host
  /-- The project. -/
  project : Project

namespace Workbench

/-- Put a note in the log. -/
def note (level : Level) (text : String) : Act Workbench Unit :=
  modify fun w => { w with host := w.host.noted level text }

/-- Let the host do something. -/
def onHost {α : Type} (a : Act Host α) : Act Workbench α :=
  Act.onPart (·.host) (fun h w => { w with host := h }) a

end Workbench

namespace Project

/-- Whether the active configuration is one of the project's. -/
def isValid (p : Project) (h : Host) : Except Failure Bool :=
  p.recipe.hasConfiguration h p.selection.configuration

/-- Fail unless the active configuration is one of the project's. -/
def check (p : Project) (h : Host) : Except Failure Unit := do
  if ← p.isValid h then return
  let names ← (Document.joined (← p.recipe.configurationNames h)).mapError .shape
  throw (.invalidConfiguration p.selection.configuration.display (orNone names))

/-- Fail unless the active configuration is one of the project's. -/
def validate : Act Workbench Unit := do
  let w ← get
  Act.ofExcept (w.project.check w.host)

/-- Ask for the paths that go with the active selection. -/
def queryPaths (provider : Dub.Provider) (resolver : Resolver) : Act Workbench PathSet := do
  let w ← get
  let settings ← Act.ofExcept (w.project.selection.settings resolver w.host)
  let lists ← Workbench.onHost
    (provider.list { settings with syntaxOnly := true, combined := true } pathFields)
  Act.ofExcept (PathSet.ofLists lists)

/-- Replace the paths. -/
def setPaths (paths : PathSet) : Act Workbench Unit :=
  modify fun w => { w with project := { w.project with paths := paths } }

/-- What the log says about new paths. -/
def pathsNote (s : Selection) (p : PathSet) : String :=
  s!"Paths for {s.configuration.display}/{s.buildType}/{s.archType}: " ++
    s!"{p.importPaths.length} import, {p.stringImportPaths.length} string import, " ++
    s!"{p.sourceFiles.length} source"

/-- Replace the paths by those that go with the active selection, or by none if they cannot be
found.  The result is whether there is anything to import from. -/
def refresh (provider : Dub.Provider) (resolver : Resolver) : Act Workbench Bool := do
  validate
  match ← (queryPaths provider resolver).outcome with
  | .error e =>
    Workbench.note .warning ("Exception while listing import paths: " ++ e.message)
    setPaths {}
    return false
  | .ok paths =>
    setPaths paths
    Workbench.note .info (pathsNote (← get).project.selection paths)
    return paths.hasPaths

/-- What the log says about a compiler that cannot be selected. -/
def compilerNote (name : String) (e : CompilerError) : String :=
  s!"Rejected compiler '{name}': {e.message}"

/-- Why a value cannot be selected, in words for the log, if it cannot. -/
def rejection (p : Project) (resolver : Resolver) (h : Host) (pick : Pick) :
    Except Failure (Option String) :=
  let orReject (available : Bool) (what name : String) : Option String :=
    if available then none else some s!"Rejected unknown {what} '{name}'"
  match pick with
  | .configuration name => do
    return orReject (← p.recipe.hasConfiguration h name) "configuration" name.display
  | .archType name =>
    .ok (orReject ((p.selection.archTypes resolver).contains name) "arch type" name)
  | .buildType name => .ok (orReject (p.recipe.buildTypes.contains name) "build type" name)
  | .compiler name =>
    match resolver.resolve h name with
    | .ok _ => .ok none
    | .error (.compiler e) => .ok (some (compilerNote name e))
    | .error e => .error e

/-- Select a value.  A rejected value changes nothing.  Anything but the configuration can only be
selected while the active configuration is one of the project's.  The result is whether the value
has been selected and there is anything to import from. -/
def select (provider : Dub.Provider) (resolver : Resolver) (pick : Pick) : Act Workbench Bool := do
  let w ← get
  match ← Act.ofExcept (w.project.rejection resolver w.host pick) with
  | some text =>
    Workbench.note .info text
    return false
  | none =>
    if !pick.isConfiguration then validate
    modify fun w =>
      { w with project := { w.project with selection := w.project.selection.set pick } }
    refresh provider resolver

/-- Give the project another recipe.  Selections and paths stay as they are. -/
def reload (recipe : Recipe) : Act Workbench Unit :=
  modify fun w => { w with project := { w.project with recipe := recipe } }

end Project

end DubCheck
