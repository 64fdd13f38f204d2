import DubCheck.Host.Basic
import DubCheck.Platform
/-!
# Finding compilers

A compiler is asked for by a name.  A name with a slash in it is the path of a file, read from the
working directory; any other name is looked for in the directories of the search path, where only
programs count.  A path that is too long is refused by the system, but on the search path it is
passed over.
-/

namespace DubCheck

/-- A compiler that has been found. -/
structure Compiler where
  /-- The family it belongs to. -/
  family : Family
  /-- The name it was asked for by. -/
  binary : String
  /-- Where it was found. -/
  path : String
deriving DecidableEq, Repr

/-- How compilers are looked for. -/
structure Resolver where
  /-- The search path, if it is not that of the environment. -/
  searchPath : Option String := none
  /-- The operating system that is built for. -/
  os : String := "linux"
deriving DecidableEq, Repr

namespace Resolver

/-- The directories of a search path, as they are written there. -/
def directories (searchPath : String) : List String :=
  if searchPath.isEmpty then []
  else (Text.splitOn ':' searchPath.toList).map String.ofList

/-- The path of a file in a directory.  The working directory may be written as an empty text. -/
def inDirectory (directory file : String) : String :=
  if directory.isEmpty || directory.endsWith "/" then directory ++ file
  else directory ++ "/" ++ file

/-- The search path of a system whose environment has none. -/
def systemPath : String := "/bin:/usr/bin"

/-- The search path in force. -/
def effectivePath (r : Resolver) (h : Host) : String :=
  match r.searchPath with
  | some p => p
  | none => (h.setting? "PATH").getD systemPath

/-- Whether there is a program where a text says, which must not be too long as it is written. -/
def hasProgram (h : Host) (place : String) : Bool :=
  decide (place.utf8ByteSize ≤ FileTree.maxPathSize) &&
    h.files.isProgram h.directory (Path.ofText place)

/-- Where the search path has a program of the given name. -/
def search? (r : Resolver) (h : Host) (binary : String) : Option String :=
  ((directories (r.effectivePath h)).map (inDirectory · binary)).find? (hasProgram h)

/-- Where a program of the given name is. -/
def locate (r : Resolver) (h : Host) (binary : String) : Except Failure (Option String) := do
  if binary.contains '/' then
    let p := Path.ofText binary
    return if ← h.lookForFile p then some (p.resolve h.directory).text else none
  return r.search? h binary

/-- The compiler of the given name. -/
def resolve (r : Resolver) (h : Host) (name : String) : Except Failure Compiler := do
  if name.isEmpty then throw (.compiler .unnamed)
  match Family.ofProgram? name with
  | none => throw (.compiler (.unknown name))
  | some family =>
    match ← r.locate h name with
    | none => throw (.compiler (.absent name))
    | some path => return ⟨family, name, path⟩

/-- The compilers that are tried when none is asked for. -/
def candidates : List String :=
  ["dmd", "ldc2", "gdc"]

/-- The compiler that is used when none is asked for: the preferred one, or else the first one that
is there. -/
def defaultCompiler (r : Resolver) (h : Host) (preferred : Option String) : String :=
  match preferred with
  | some name => if name.isEmpty then firstCandidate else name
  | none => firstCandidate
where
  /-- The first compiler that is there. -/
  firstCandidate : String :=
    (candidates.find? fun c => (r.search? h c).isSome).getD "dmd"

/-- The platform that a compiler builds for.  Without an arch type it is that of the machine. -/
def platform (r : Resolver) (h : Host) (compiler : Compiler) (archType : Option String) :
    Platform :=
  let architecture :=
    match archType with
    | some a => if a.isEmpty then Platform.machineArchitecture h.machine else a
    | none => Platform.machineArchitecture h.machine
  ⟨Platform.systemNames r.os, Platform.architectureNames architecture, compiler.family.name⟩

end Resolver

end DubCheck
