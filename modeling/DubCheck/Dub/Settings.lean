import DubCheck.Compiler.Resolver
/-!
# Settings of a run of dub

What dub is told when it describes or builds a project, and how that is written on its command
line and in the variable that holds flags for the compiler.
-/

namespace DubCheck.Dub

/-- What dub is told. -/
structure Settings where
  /-- The name of the configuration. -/
  configuration : String
  /-- The build type. -/
  buildType : String
  /-- The compiler. -/
  compiler : Compiler
  /-- The arch type, unless dub should choose it. -/
  archType : Option String
  /-- Whether all packages go through the compiler together. -/
  combined : Bool := false
  /-- Whether the result is run. -/
  run : Bool := false
  /-- Whether sources are only checked. -/
  syntaxOnly : Bool := false
  /-- Whether to build in a temporary directory. -/
  temporary : Bool := false
  /-- Further flags for the compiler. -/
  flags : List String := []
deriving DecidableEq, Repr

namespace Settings

/-- The argument that gives an arch type, if there is one. -/
def archArgument : Option String → List String
  | some a => if a.isEmpty then [] else ["--arch=" ++ a]
  | none => []

/-- The arguments that select what is described or built. -/
def selectors (s : Settings) : List String :=
  ["--config=" ++ s.configuration, "--build=" ++ s.buildType, "--compiler=" ++ s.compiler.binary] ++
    archArgument s.archType

/-- The arguments of a build. -/
def buildArguments (s : Settings) : List String :=
  "build" :: s.selectors ++ (if s.combined then ["--combined"] else []) ++
    (if s.temporary then ["--temp-build"] else []) ++ (if s.run then ["--run"] else [])

/-- The flags for the compiler.  If sources are only checked, the compiler is kept from writing any
output. -/
def compilerFlags (s : Settings) : String :=
  let quiet := s.compiler.family.noOutputFlag
  " ".intercalate (s.flags ++ if s.syntaxOnly && !s.flags.contains quiet then [quiet] else [])

end Settings

end DubCheck.Dub
