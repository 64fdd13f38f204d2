import DubCheck.Host.Basic
import DubCheck.Platform
/-!
# Recipes

A recipe is what a package says about itself: its name, its dependencies, and the ways in which it
can be built, which are configurations and build types.  A package that declares no configuration
has one all the same; its name depends on what the package builds, and if the recipe does not say
that, on the files that are there whenever somebody asks.

Names that a recipe gives need not be texts, so they are documents here.
-/

namespace DubCheck

/-- A way of building a package. -/
structure Configuration where
  /-- Its name. -/
  name : Document
  /-- Specifications of the platforms it is for; none stands for all platforms. -/
  platforms : List Document := []
  /-- What it builds. -/
  targetType : Document := .null

/-- What a package says about itself. -/
structure Recipe where
  /-- The directory of the package. -/
  directory : Path
  /-- The file that holds the recipe. -/
  file : Path
  /-- The name of the package. -/
  name : String := ""
  /-- What the package builds. -/
  targetType : Document := .null
  /-- The configurations, in the order in which they are declared. -/
  configurations : List Configuration := []
  /-- The build types that the package declares. -/
  customBuildTypes : List String := []
  /-- The packages it depends on, with what is asked of them. -/
  dependencies : List (String × String) := []

/-- The build types that every package has. -/
def standardBuildTypes : List String :=
  ["plain", "debug", "release", "release-debug", "release-nobounds", "unittest", "docs", "ddox",
   "profile", "profile-gc", "cov", "unittest-cov"]

/-- The files that make a package an application. -/
def applicationFiles : List String :=
  ["source/app.d", "source/main.d", "src/app.d", "src/main.d"]

/-- Whether a configuration is for a platform.  Without a platform every configuration will do. -/
def Configuration.supports (c : Configuration) (platform : Option Platform) :
    Except ShapeError Bool :=
  match platform with
  | none => .ok true
  | some p => if c.platforms.isEmpty then .ok true else c.platforms.anyM p.accepts

namespace Recipe

/-- Put a dependency in, or change what is asked of it. -/
def addDependency (r : Recipe) (name requirement : String) : Recipe :=
  { r with dependencies := insertPair name requirement r.dependencies }

/-- Put a dependency in unless it is there. -/
def addMissingDependency (r : Recipe) (name requirement : String) : Recipe :=
  if (r.dependencies.lookup name).isSome then r else r.addDependency name requirement

/-- The files of a package that would make it an application. -/
def applicationPaths (r : Recipe) : List Path :=
  applicationFiles.map fun name => r.directory.join (Path.ofText name)

/-- The name of the configuration of a package that declares none. -/
def implicitConfiguration (r : Recipe) (h : Host) : Except Failure String := do
  let target ← r.targetType.hashable.mapError .shape
  if target.equals (.string "executable") then return "application"
  return if ← r.applicationPaths.anyM h.lookForFile then "application" else "library"

/-- The names of the configurations. -/
def configurationNames (r : Recipe) (h : Host) : Except Failure (List Document) := do
  if r.configurations.isEmpty then return [.string (← r.implicitConfiguration h)]
  return r.configurations.map (·.name)

/-- Whether a package has a configuration of the given name. -/
def hasConfiguration (r : Recipe) (h : Host) (name : Document) : Except Failure Bool := do
  return (← r.configurationNames h).any (·.same name)

/-- The first of some configurations that is for a platform. -/
def firstSupporting (platform : Option Platform) :
    List Configuration → Except ShapeError (Option Document)
  | [] => .ok none
  | c :: rest => do
    if ← c.supports platform then return some c.name
    firstSupporting platform rest

/-- The configuration that a package is built in if none is asked for. -/
def defaultConfiguration (r : Recipe) (h : Host) (platform : Option Platform) :
    Except Failure (Option Document) := do
  if r.configurations.isEmpty then return some (.string (← r.implicitConfiguration h))
  (firstSupporting platform r.configurations).mapError .shape

/-- The build types: the standard ones, and then those declared besides. -/
def buildTypes (r : Recipe) : List String :=
  r.customBuildTypes.foldl (fun types t => if types.contains t then types else types ++ [t])
    standardBuildTypes

/-- The names of the packages that a package depends on. -/
def dependencyNames (r : Recipe) : List String :=
  r.dependencies.map (·.1)

end Recipe

end DubCheck
