/-!
# The grammar of the command line

A command line names a command and gives it options and an operand, the project directory.  The
program itself has options too, and its operand is the command with all that follows.  This module
declares the options of the program and of its four commands.
-/

namespace DubCheck.CommandLine

/-- The commands. -/
inductive CommandName where
  /-- Report the issues of a project. -/
  | check
  /-- List the paths of a project. -/
  | paths
  /-- List what can be selected in a project. -/
  | configs
  /-- Serve requests about a project. -/
  | serve
deriving DecidableEq, Repr

/-- What an option is for. -/
inductive Key where
  /-- Show how the program is used. -/
  | help
  /-- Show the version of the program. -/
  | version
  /-- Select a configuration. -/
  | configuration
  /-- Select a build type. -/
  | buildType
  /-- Select an arch type. -/
  | archType
  /-- Select a compiler. -/
  | compiler
  /-- Say more. -/
  | verbose
  /-- Watch a process. -/
  | parent
  /-- Log to the terminal too. -/
  | foreground
deriving DecidableEq, Repr

/-- An option. -/
structure Choice where
  /-- The ways of writing it. -/
  names : List String
  /-- What it is for. -/
  key : Key
  /-- What stands for its value, if it takes one. -/
  value : Option String := none
  /-- What it does, in words. -/
  help : String
deriving Repr

/-- What comes besides options. -/
inductive Operand where
  /-- A project directory, which may be left out. -/
  | directory
  /-- A command and all that follows. -/
  | command
deriving DecidableEq, Repr

/-- The options and the operand of the program or of a command. -/
structure Grammar where
  /-- What is written to get here. -/
  program : String
  /-- What it is, in words. -/
  description : Option String := none
  /-- The options. -/
  choices : List Choice
  /-- The operand. -/
  operand : Operand
deriving Repr

/-- The option that shows how the program is used. -/
def helpChoice : Choice where
  names := ["-h", "--help"]
  key := .help
  help := "show this help message and exit"

/-- The options that select something. -/
def selectionChoices : List Choice :=
  [{ names := ["-c", "--config"], key := .configuration, value := some "CONFIGURATION"
     help := "Configuration (default: the project's default configuration)" },
   { names := ["-b", "--build"], key := .buildType, value := some "BUILD_TYPE"
     help := "Build type (default: debug)" },
   { names := ["-a", "--arch"], key := .archType, value := some "ARCH_TYPE"
     help := "Arch type (default: x86_64)" },
   { names := ["--compiler"], key := .compiler, value := some "COMPILER"
     help := "D compiler (default: $DC or the first of dmd, ldc2, gdc found)" }]

namespace CommandName

/-- All commands. -/
def all : List CommandName :=
  [.check, .paths, .configs, .serve]

/-- The name of a command. -/
def text : CommandName → String
  | .check => "check"
  | .paths => "paths"
  | .configs => "configs"
  | .serve => "serve"

/-- The command with a given name. -/
def ofText? (s : String) : Option CommandName :=
  all.find? (·.text == s)

/-- What a command does, in words. -/
def help : CommandName → String
  | .check => "Compile without output and report diagnostics"
  | .paths => "List import paths, string import paths and source files"
  | .configs => "List configurations, build types and arch types"
  | .serve => "Serve JSON requests on stdin/stdout for an editor"

/-- The options of a command, besides the one for help. -/
def choices : CommandName → List Choice
  | .check => selectionChoices ++
    [{ names := ["-v", "--verbose"], key := .verbose, help := "Show selections and timing" }]
  | .paths => selectionChoices
  | .configs => []
  | .serve =>
    [{ names := ["--parent-pid"], key := .parent, value := some "PARENT_PID"
       help := "Exit when this process exits" },
     { names := ["--foreground"], key := .foreground, help := "Also log to stderr" }]

end CommandName

/-- The name of the program. -/
def programName : String := "dubsense"

/-- The version of the program. -/
def programVersion : String := "0.1.0"

/-- The grammar of the program. -/
def mainGrammar : Grammar where
  program := programName
  description := some "dubsense - check builds and import paths for dub projects"
  choices := [helpChoice,
    { names := ["--version"], key := .version, help := "show program's version number and exit" }]
  operand := .command

/-- The grammar of a command. -/
def CommandName.grammar (c : CommandName) : Grammar where
  program := programName ++ " " ++ c.text
  choices := helpChoice :: c.choices
  operand := .directory

/-- What is said about the operand that is a project directory. -/
def directoryHelp : String := "Project directory (default: current directory)"

/-- What is said about the operand that is a command. -/
def commandHelp : String := "Command to run"

/-- All commands in braces. -/
def commandList : String :=
  "\x7b" ++ ",".intercalate (CommandName.all.map (·.text)) ++ "\x7d"

end DubCheck.CommandLine
