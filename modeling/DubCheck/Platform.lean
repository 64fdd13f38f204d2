import DubCheck.Compiler.Family
import DubCheck.Document.Shape
/-!
# Platforms

The platform of a build is described by names: those of the operating system, of the architecture
and of the compiler.  A platform specification such as `windows-x86` joins names with hyphens, and
a platform matches it if it has all of them.
-/

namespace DubCheck

/-- The platform of a build. -/
structure Platform where
  /-- The names of the operating system. -/
  systems : List String
  /-- The names of the architecture. -/
  architectures : List String
  /-- The family of the compiler. -/
  compiler : String
deriving DecidableEq, Repr

namespace Platform

/-- All names of a platform. -/
def names (p : Platform) : List String :=
  p.systems ++ p.architectures ++ [p.compiler]

/-- Whether a platform has all names in a specification. -/
def hasAll (p : Platform) (specification : String) : Bool :=
  (Text.splitOn '-' specification.toList).all fun part => p.names.contains (String.ofList part)

/-- Whether a platform matches a specification, which must be a text. -/
def accepts (p : Platform) : Document → Except ShapeError Bool
  | .string s => .ok (p.hasAll s)
  | d => .error (.lacks d.kindName "split")

/-- The names of an operating system. -/
def systemNames (os : String) : List String :=
  if os.startsWith "win" then ["windows"]
  else if os = "darwin" then ["osx", "posix"]
  else if os.startsWith "linux" then ["linux", "posix"]
  else if os.startsWith "freebsd" then ["freebsd", "posix"]
  else [os, "posix"]

/-- The architecture of a kind of machine. -/
def machineArchitecture (machine : String) : String :=
  let machine := Text.lower machine
  if ["amd64", "x86_64", "x64"].contains machine then "x86_64"
  else if ["i386", "i686", "x86"].contains machine then "x86"
  else if machine.startsWith "arm" then "arm"
  else machine

/-- The names of an architecture. -/
def architectureNames (architecture : String) : List String :=
  if architecture = "x86_mscoff" then ["x86", "x86_mscoff"]
  else if architecture = "arm_thumb" then ["arm", "arm_thumb"]
  else [architecture]

end Platform

/-- The arch types that every compiler knows. -/
def baseArchTypes : List String :=
  ["x86_64", "x86"]

/-- The arch types that a compiler knows on an operating system. -/
def archTypes (family : Option Family) (os : String) : List String :=
  baseArchTypes ++ (if os.startsWith "win" && family == some .dmd then ["x86_mscoff"] else []) ++
    (if family == some .gdc then ["arm", "arm_thumb"] else [])

end DubCheck
