import DubCheck.Text.Quoted
/-!
# Refusals of the system

What the system answers when it does not do what it is asked to do with a file, a directory or a
program.  Every refusal has a number and a wording, and is reported together with the path it is
about.
-/

namespace DubCheck

/-- Why the system refuses to do something with what a path leads to. -/
inductive SystemFault where
  /-- There is nothing of that name. -/
  | absent
  /-- It may not be done. -/
  | denied
  /-- There is something of that name already. -/
  | taken
  /-- Something on the way is not a directory. -/
  | notDirectory
  /-- It is a directory. -/
  | isDirectory
  /-- The path, or a name in it, is too long. -/
  | nameTooLong
deriving DecidableEq, Repr

namespace SystemFault

/-- The number of a refusal. -/
def number : SystemFault → Nat
  | .absent => 2
  | .denied => 13
  | .taken => 17
  | .notDirectory => 20
  | .isDirectory => 21
  | .nameTooLong => 36

/-- A refusal in words. -/
def wording : SystemFault → String
  | .absent => "No such file or directory"
  | .denied => "Permission denied"
  | .taken => "File exists"
  | .notDirectory => "Not a directory"
  | .isDirectory => "Is a directory"
  | .nameTooLong => "File name too long"

/-- The name under which a refusal is reported. -/
def kind : SystemFault → String
  | .absent => "FileNotFoundError"
  | .denied => "PermissionError"
  | .taken => "FileExistsError"
  | .notDirectory => "NotADirectoryError"
  | .isDirectory => "IsADirectoryError"
  | .nameTooLong => "OSError"

/-- What is said about a refusal. -/
def message (fault : SystemFault) (path : String) : String :=
  s!"[Errno {fault.number}] {fault.wording}: " ++ Text.quoted path

end SystemFault

end DubCheck
