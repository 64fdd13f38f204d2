import DubCheck.Service.Request
import DubCheck.Workspace.Basic
/-!
# Commands

What a workspace can be asked to do by name.  Most commands are answered at once; builds, updates
and listings of dependencies give out a ticket, and the answer comes later.
-/

namespace DubCheck.Service

/-- The commands. -/
inductive Command where
  /-- Read the recipe again and find the paths again. -/
  | update
  /-- Build and give the issues. -/
  | build
  /-- Fail unless the active configuration is one of the project's. -/
  | revalidate
  /-- List the packages that take part in the project. -/
  | dependencies
  /-- List the packages that the project itself depends on. -/
  | rootDependencies
  /-- List the import paths. -/
  | imports
  /-- List the string import paths. -/
  | stringImports
  /-- List the source files. -/
  | fileImports
  /-- List the configurations. -/
  | configurations
  /-- List the build types. -/
  | buildTypes
  /-- List the arch types. -/
  | archTypes
  /-- Give the active configuration. -/
  | getConfiguration
  /-- Select a configuration. -/
  | setConfiguration
  /-- Give the active arch type. -/
  | getArchType
  /-- Select an arch type. -/
  | setArchType
  /-- Give the active build type. -/
  | getBuildType
  /-- Select a build type. -/
  | setBuildType
  /-- Give the active compiler. -/
  | getCompiler
  /-- Select a compiler. -/
  | setCompiler
  /-- Give the name of the project. -/
  | name
  /-- Give the directory of the project. -/
  | path
deriving DecidableEq, Repr

namespace Command

/-- The commands by their names. -/
def table : List (String × Command) :=
  [("update", .update), ("build", .build), ("revalidate-config", .revalidate),
   ("list:dep", .dependencies), ("list:rootdep", .rootDependencies), ("list:import", .imports),
   ("list:string-import", .stringImports), ("list:file-import", .fileImports),
   ("list:configurations", .configurations), ("list:build-types", .buildTypes),
   ("list:arch-types", .archTypes), ("get:configuration", .getConfiguration),
   ("set:configuration", .setConfiguration), ("get:arch-type", .getArchType),
   ("set:arch-type", .setArchType), ("get:build-type", .getBuildType),
   ("set:build-type", .setBuildType), ("get:compiler", .getCompiler),
   ("set:compiler", .setCompiler),
   ("get:name", .name), ("get:path", .path)]

/-- The command with a given name. -/
def ofName? (name : String) : Option Command :=
  table.lookup name

/-- The names of the commands, in alphabetical order. -/
def names : List String :=
  (table.map (·.1)).mergeSort (· ≤ ·)

end Command

/-- What a command gives: an answer, or a ticket under which the answer will come. -/
inductive Answer where
  /-- The answer. -/
  | now (value : Document)
  /-- The answer will come. -/
  | later (ticket : Nat)

/-- A list of texts as a document. -/
def texts (l : List String) : Document :=
  .array (l.map .string)

/-- The document that an outcome is sent as. -/
def outcomeDocument : Outcome → Except Failure Document
  | .issues found => .ok (.array (found.map Issue.toDocument))
  | .hasPaths value => .ok (.bool value)
  | .packages list => (list.mapM Dub.Package.handOn).map .array

/-- Select what a request names under a key. -/
def selectArgument (r : Request) (key : String) (pick : String → Pick) : Act Session Answer := do
  let name ← Act.ofExcept ((r.text key).mapError .request)
  return .now (.bool (← Session.select (pick name)))

/-- Answer with something about the current project. -/
def about (f : Project → Document) : Act Session Answer := do
  return .now (f (← Session.project))

/-- Carry out a command with the arguments of a request. -/
def Command.run (r : Request) : Command → Act Session Answer
  | .update => do return .later (← Session.update)
  | .build => do return .later (← Session.build)
  | .revalidate => do
    Session.validate
    return .now .null
  | .dependencies => do return .later (← Session.dependencies)
  | .rootDependencies => do return .now (texts (← Session.rootDependencies))
  | .imports => about fun p => texts p.paths.importPaths
  | .stringImports => about fun p => texts p.paths.stringImportPaths
  | .fileImports => about fun p => texts p.paths.sourceFiles
  | .configurations => do return .now (.array (← Session.configurations))
  | .buildTypes => do return .now (texts (← Session.buildTypes))
  | .archTypes => do return .now (texts (← Session.archTypes))
  | .getConfiguration => about (·.selection.configuration)
  | .setConfiguration => selectArgument r "configuration" fun name => .configuration (.string name)
  | .getArchType => about fun p => .string p.selection.archType
  | .setArchType => selectArgument r "arch-type" .archType
  | .getBuildType => about fun p => .string p.selection.buildType
  | .setBuildType => selectArgument r "build-type" .buildType
  | .getCompiler => about fun p => .string p.selection.compiler
  | .setCompiler => selectArgument r "compiler" .compiler
  | .name => about fun p => .string p.recipe.name
  | .path => do return .now (.string (← get).workspace.directory.text)

/-- Carry out the command that a request names. -/
def dispatch (r : Request) : Act Session Answer :=
  match Command.ofName? r.command with
  | some command => command.run r
  | none => throw (.request (.unknownCommand r.command))

end DubCheck.Service
