import DubCheck.Workspace.Basic
/-!
# Selecting several values at once

What is asked for on a command line is selected in the order of dependence: the configuration
first, because the others need a valid one, and the compiler before the arch type, because it
decides which arch types there are.  A value that is not available is a failure here.

Something can be asked for without a name.  It is looked for as the empty sequence then, which can
be the name of a configuration but of nothing else.
-/

namespace DubCheck

/-- Something that is asked for. -/
inductive Wish where
  /-- What has the given name. -/
  | named (name : String)
  /-- Something whose name is left out. -/
  | nameless
deriving DecidableEq, Repr

/-- What is looked for among the names that are available. -/
def Wish.document : Wish → Document
  | .named name => .string name
  | .nameless => .array []

/-- How a wish is shown in messages. -/
def Wish.shown (w : Wish) : String :=
  w.document.display

/-- All that is asked for. -/
structure Wishes where
  /-- The configuration. -/
  configuration : Option Wish := none
  /-- The build type. -/
  buildType : Option Wish := none
  /-- The arch type. -/
  archType : Option Wish := none
  /-- The compiler. -/
  compiler : Option Wish := none
deriving DecidableEq, Repr

namespace Session

/-- Fail unless something is among what is available. -/
def require (what : String) (wish : Wish) (available : List Document) : Act Session Unit := do
  if available.any (·.same wish.document) then return
  let names ← Act.ofExcept ((Document.joined available).mapError .shape)
  throw (.unavailable what wish.shown (orNone names))

/-- Select a configuration. -/
def wishConfiguration (wish : Wish) : Act Session Unit := do
  require "configuration" wish (← configurations)
  let _ ← select (.configuration wish.document)

/-- Select something by its name.  What has no name is not selected. -/
def selectNamed (pick : String → Pick) : Wish → Act Session Unit
  | .named name => do
    let _ ← select (pick name)
  | .nameless => pure ()

/-- Select a compiler. -/
def wishCompiler : Wish → Act Session Unit
  | .named name => do
    if ← select (.compiler name) then return
    if (← project).selection.compiler ≠ name then throw (.compilerNotFound name)
  | .nameless => do
    let shown := Wish.nameless.shown
    onCurrent (Workbench.note .info (Project.compilerNote shown .unnamed))
    throw (.compilerNotFound shown)

/-- Select a build type. -/
def wishBuildType (wish : Wish) : Act Session Unit := do
  require "build type" wish ((← buildTypes).map .string)
  selectNamed .buildType wish

/-- Select an arch type. -/
def wishArchType (wish : Wish) : Act Session Unit := do
  require "arch type" wish ((← archTypes).map .string)
  selectNamed .archType wish

/-- Select everything that is asked for. -/
def applyWishes (w : Wishes) : Act Session Unit := do
  w.configuration.forM wishConfiguration
  w.compiler.forM wishCompiler
  w.buildType.forM wishBuildType
  w.archType.forM wishArchType

end Session

end DubCheck
