import DubCheck.Document.Reader
import DubCheck.Document.Shape
import DubCheck.Host.SystemFault
import DubCheck.Issue.Report
import DubCheck.Issue.Line
import DubCheck.Sdl.Lexeme
import DubCheck.Text.Utf8
/-!
# Failures

Everything that can go wrong, by cause.  The causes are grouped by what was being done: loading a
recipe, finding a compiler, asking dub about a project, building, and reading a request.  A
`Failure` is one of these, or one of the causes that several activities share, such as a refusal of
the system.

`Failure.kind` is the name under which a failure is reported, and `Failure.message` says what
happened.  An interruption is not an ordinary failure: whoever handles failures lets it pass.
-/

namespace DubCheck

/-- A text that should hold a document does not; `place` is where that shows. -/
structure Malformed where
  /-- What is wrong. -/
  what : Document.Expectation
  /-- Where it is wrong. -/
  place : Document.Place
deriving DecidableEq, Repr

/-- What is said about a text that holds no document. -/
def Malformed.message (m : Malformed) : String :=
  s!"{m.what.message}: line {m.place.line} column {m.place.column} (char {m.place.position})"

/-- Why a recipe cannot be loaded. -/
inductive RecipeError where
  /-- The directory has no recipe. -/
  | absent (directory : String) (expected : List String)
  /-- The recipe is not a document. -/
  | malformed (path : String) (cause : Malformed)
  /-- The recipe is a document but not an object. -/
  | notObject (path : String)
  /-- A configuration has no name. -/
  | unnamed (path : String)
  /-- The recipe is not a tag document. -/
  | sdl (path : String) (cause : Sdl.Fault)
deriving DecidableEq, Repr

/-- What is said about a recipe that cannot be loaded. -/
def RecipeError.message : RecipeError → String
  | .absent directory expected =>
    s!"No package manifest found in {directory} (expected one of: " ++
      ", ".intercalate expected ++ ")"
  | .malformed path cause => s!"Failed to parse {path}: {cause.message}"
  | .notObject path => s!"Failed to parse {path}: recipe must be an object"
  | .unnamed path => s!"Configuration without a name in {path}"
  | .sdl path cause => cause.message path

/-- Why a compiler cannot be used. -/
inductive CompilerError where
  /-- No compiler is named. -/
  | unnamed
  /-- The name is not that of a known compiler. -/
  | unknown (name : String)
  /-- The compiler is not installed. -/
  | absent (name : String)
deriving DecidableEq, Repr

/-- What is said about a compiler that cannot be used. -/
def CompilerError.message : CompilerError → String
  | .unnamed => "No compiler name given"
  | .unknown name => s!"Unknown compiler: {name}"
  | .absent name => s!"Compiler not found: {name}"

/-- Why dub does not describe a project. -/
inductive DescribeError where
  /-- There is no such program. -/
  | noProgram (program : String)
  /-- The program may not be run. -/
  | denied (program : String)
  /-- The program took longer than the given number of seconds. -/
  | timedOut (seconds : Nat)
  /-- The program failed. -/
  | exited (status : Int) (detail : String)
  /-- The answer holds a wrong number of lists. -/
  | listCount (expected found : Nat)
  /-- The answer is not a document. -/
  | malformed (cause : Malformed)
  /-- The answer is a document but not an object. -/
  | notObject
  /-- There is no answer, for a reason given in words. -/
  | refused (reason : String)
deriving DecidableEq, Repr

/-- What is said when dub does not describe a project. -/
def DescribeError.message : DescribeError → String
  | .noProgram program => s!"dub not found: {program}"
  | .denied program => "Failed to run dub: " ++ SystemFault.denied.message program
  | .timedOut seconds => s!"dub describe timed out after {seconds}s"
  | .exited status detail => s!"dub describe failed (exit {status}): {detail}"
  | .listCount expected found => s!"Expected {expected} path lists from dub, got {found}"
  | .malformed cause => s!"Invalid JSON from dub describe: {cause.message}"
  | .notObject => "Invalid JSON from dub describe: expected an object"
  | .refused reason => reason

/-- Why a build fails. -/
inductive BuildError where
  /-- There is no such program. -/
  | noProgram (program : String)
  /-- The program may not be run. -/
  | denied (program : String)
  /-- The program failed and said why. -/
  | failed (reason : String)
  /-- The program failed without a word. -/
  | exited (status : Int)
deriving DecidableEq, Repr

/-- What is said about a build that fails. -/
def BuildError.message : BuildError → String
  | .noProgram program => s!"dub not found: {program}"
  | .denied program => "Failed to start dub: " ++ SystemFault.denied.message program
  | .failed reason => reason
  | .exited status => s!"dub exited with status {status}"

/-- Why a request cannot be served. -/
inductive RequestError where
  /-- The line is not a document. -/
  | malformed (cause : Malformed)
  /-- The request is not an object. -/
  | notObject
  /-- The request names no command. -/
  | noCommand
  /-- The request is for someone else. -/
  | unknownComponent (shown : String)
  /-- There is no such command. -/
  | unknownCommand (name : String)
  /-- An argument is missing. -/
  | missing (key : String)
  /-- An argument is not a text. -/
  | notText (key : String)
deriving DecidableEq, Repr

/-- What is said about a request that cannot be served. -/
def RequestError.message : RequestError → String
  | .malformed cause => s!"Invalid JSON: {cause.message}"
  | .notObject => "Request must be a JSON object"
  | .noCommand => "subcmd not in request"
  | .unknownComponent shown => s!"Unknown component: {shown}"
  | .unknownCommand name => s!"Unknown subcmd: {name}"
  | .missing key => s!"{key} not in request"
  | .notText key => s!"{key} must be a string"

/-- Why a name cannot be used as a level of the log: it stands for something else that the log
knows by a name. -/
inductive LevelError where
  /-- It stands for the layout of a line. -/
  | layout (shown : String)
  /-- It stands for the table of the ways in which layouts can be written. -/
  | table
deriving DecidableEq, Repr

/-- What is said about a name that cannot be used as a level of the log. -/
def LevelError.message : LevelError → String
  | .layout shown => "Unknown level: " ++ Text.quoted shown
  | .table => "Level not an integer or a valid string"

/-- What went wrong. -/
inductive Failure where
  /-- A recipe cannot be loaded. -/
  | recipe (e : RecipeError)
  /-- A compiler cannot be used. -/
  | compiler (e : CompilerError)
  /-- dub does not describe the project. -/
  | describe (e : DescribeError)
  /-- A build failed. -/
  | build (e : BuildError)
  /-- A request cannot be served. -/
  | request (e : RequestError)
  /-- The active configuration is not one of the project's. -/
  | invalidConfiguration (active : String) (available : String)
  /-- No project is loaded. -/
  | notStarted
  /-- A value was asked for that is not available. -/
  | unavailable (what value : String) (available : String)
  /-- A compiler was asked for that cannot be found. -/
  | compilerNotFound (name : String)
  /-- The paths came in a wrong number of lists. -/
  | pathLists (expected found : Nat)
  /-- A numeral has too many digits. -/
  | numeral (e : Text.NumeralTooLong)
  /-- A word is not a severity. -/
  | severity (word : String)
  /-- A document is not an issue. -/
  | entry (e : Issue.EntryError)
  /-- Bytes are not text. -/
  | encoding (e : Text.Utf8.Fault)
  /-- A document has a shape that cannot be used. -/
  | shape (e : ShapeError)
  /-- A document is nested too deep to be read. -/
  | tooDeep (container : String)
  /-- A document is nested too deep to be written. -/
  | unwritable
  /-- A document is nested too deep to be handed on, or a directory to be made. -/
  | overlyNested
  /-- The system refuses to do something with a path. -/
  | system (fault : SystemFault) (path : String)
  /-- A path holds a character that no name may have. -/
  | nulInPath
  /-- A name cannot be used as a level of the log. -/
  | level (e : LevelError)
  /-- Something failed for a reason given in words. -/
  | crashed (reason : String)
  /-- The user interrupted the work. -/
  | interrupted
deriving DecidableEq, Repr

namespace Failure

/-- The failure of a line that looks like an issue but cannot be read. -/
def ofUnreadable : Issue.Unreadable → Failure
  | .numeral e => .numeral e
  | .severity word => .severity word

/-- The failure of reading the document that a text should hold; `wrap` says what the text is. -/
def ofReading (text : List Char) (wrap : Malformed → Failure) : Document.Fault → Failure
  | .malformed what left => wrap ⟨what, Document.placeOf text left⟩
  | .numeral e => .numeral e
  | .tooDeep container => .tooDeep container

/-- The name under which a failure is reported. -/
def kind : Failure → String
  | .recipe _ => "ManifestError"
  | .compiler _ => "CompilerResolutionError"
  | .describe _ => "BuildSettingsError"
  | .build _ => "BuildEngineError"
  | .request _ => "RequestError"
  | .invalidConfiguration _ _ => "InvalidConfigurationError"
  | .notStarted => "WorkspaceError"
  | .unavailable _ _ _ => "ValueError"
  | .compilerNotFound _ => "ValueError"
  | .pathLists _ _ => "ValueError"
  | .numeral _ => "ValueError"
  | .severity _ => "KeyError"
  | .entry (.missing _) => "KeyError"
  | .entry (.severity _) => "ValueError"
  | .entry .notObject => "TypeError"
  | .encoding _ => "UnicodeDecodeError"
  | .shape e => if e.isLack then "AttributeError" else "TypeError"
  | .tooDeep _ => "RecursionError"
  | .unwritable => "RecursionError"
  | .overlyNested => "RecursionError"
  | .system fault _ => fault.kind
  | .nulInPath => "ValueError"
  | .level (.layout _) => "ValueError"
  | .level .table => "TypeError"
  | .crashed _ => "RuntimeError"
  | .interrupted => "KeyboardInterrupt"

/-- What is said about a failure. -/
def message : Failure → String
  | .recipe e => e.message
  | .compiler e => e.message
  | .describe e => e.message
  | .build e => e.message
  | .request e => e.message
  | .invalidConfiguration active available =>
    s!"Cannot use dub with invalid configuration '{active}' (available: {available})"
  | .notStarted => "Workspace has not been started"
  | .unavailable what value available => s!"Unknown {what} '{value}'. Available: {available}"
  | .compilerNotFound name => s!"Compiler '{name}' not found"
  | .pathLists expected found => s!"expected {expected} path lists, got {found}"
  | .numeral e => e.message
  | .severity word => Text.quoted word
  | .entry (.missing key) => Text.quoted key
  | .entry (.severity shown) => s!"{shown} is not a valid IssueSeverity"
  | .entry .notObject => "an issue must be an object"
  | .encoding e => e.message
  | .shape e => e.message
  | .tooDeep container =>
    s!"maximum recursion depth exceeded while decoding a JSON {container} from a unicode string"
  | .unwritable => "maximum recursion depth exceeded while encoding a JSON object"
  | .overlyNested => "maximum recursion depth exceeded"
  | .system fault path => fault.message path
  | .nulInPath => "embedded null byte"
  | .level e => e.message
  | .crashed reason => reason
  | .interrupted => ""

end Failure

end DubCheck
