import DubCheck.Dub.Packages
import DubCheck.Dub.PathLists
import DubCheck.Dub.Settings
/-!
# Asking dub about a project

dub describes a project on request: certain lists of paths, all in one answer, or the packages that
take part in it.  A `Provider` is anything that can answer these two questions; `Provider.dub` asks
dub in the directory of the project.
-/

namespace DubCheck.Dub

/-- Whoever answers questions about a project. -/
structure Provider where
  /-- The lists of paths with the given names. -/
  list : Settings → List String → Act Host (List (List String))
  /-- The description of the project. -/
  describe : Settings → Act Host Document

/-- How many seconds a description may take. -/
def describeSeconds : Nat := 120

/-- A text decoded from output, with newlines for all line ends. -/
def outputText (bytes : List UInt8) : Except Failure (List Char) :=
  ((Text.Utf8.decode bytes).map Text.translateNewlines).mapError .encoding

/-- What dub prints when it is run with the given arguments.  Those with a null character in them
are left out as they are in `Host.runDub`. -/
def ask (program : String) (directory : Location) (arguments : List String) :
    Act Host (List Char) := do
  match ← Host.runDub ⟨program :: arguments, directory.text, .describe describeSeconds⟩ with
  | .noProgram => throw (.describe (.noProgram program))
  | .denied => throw (.describe (.denied program))
  | .timedOut => throw (.describe (.timedOut describeSeconds))
  | .interrupted => throw .interrupted
  | .finished stdout stderr status =>
    let out ← Act.ofExcept (outputText stdout)
    let err ← Act.ofExcept (outputText stderr)
    if status = 0 then return out
    let complaint := Text.trim err
    let detail := if complaint.isEmpty then Text.trim out else complaint
    throw (.describe (.exited status (String.ofList detail)))

/-- The arguments that ask for lists of paths. -/
def listArguments (settings : Settings) (fields : List String) : List String :=
  ["describe", "--data-list", "--data-0"] ++ fields.map ("--data=" ++ ·) ++ settings.selectors

/-- The object that a text holds. -/
def readObject (text : List Char) : Except Failure Document := do
  let d ← (Document.read text).mapError (Failure.ofReading text fun m => .describe (.malformed m))
  if d.isObject then return d else throw (.describe .notObject)

/-- dub, asked in the directory of a project. -/
def Provider.dub (program : String) (directory : Location) : Provider where
  list settings fields := do
    let out ← ask program directory (listArguments settings fields)
    Act.ofExcept (splitLists out fields.length)
  describe settings := do
    let out ← ask program directory ("describe" :: settings.selectors)
    Act.ofExcept (readObject out)

end DubCheck.Dub
