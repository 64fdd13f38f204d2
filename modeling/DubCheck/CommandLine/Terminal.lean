import DubCheck.Issue.Report
import DubCheck.Workspace.Selections
/-!
# The terminal

A command runs at a terminal: it works on the workspace it has opened, and prints lines as it goes.
What has been printed stays printed when the command fails later.  A command ends in one of four
ways, which the exit code tells.
-/

namespace DubCheck.CommandLine

/-- How a command ends. -/
inductive Exit where
  /-- All is well. -/
  | fine
  /-- The project has errors, or something unexpected went wrong. -/
  | bad
  /-- The command line or the project cannot be used. -/
  | unusable
  /-- The user interrupted the command. -/
  | interrupted
deriving DecidableEq, Repr

/-- The exit code. -/
def Exit.code : Exit → Nat
  | .fine => 0
  | .bad => 1
  | .unusable => 2
  | .interrupted => 130

/-- A terminal with what has been printed on it. -/
structure Terminal where
  /-- The host. -/
  host : Host
  /-- Whether it shows colours. -/
  coloured : Bool := false
  /-- Whether jobs wait until they are told to run. -/
  deferred : Bool := false
  /-- The workspace, once it has been opened. -/
  workspace : Option Workspace := none
  /-- What has been printed as output. -/
  output : String := ""
  /-- What has been printed about a wrong command line. -/
  complaints : String := ""
  /-- Whether notes go to a file and are not shown. -/
  logsToFile : Bool := false
  /-- Whether another process is being watched. -/
  watching : Bool := false

namespace Terminal

/-- Print a text as it is. -/
def write (text : String) : Act Terminal Unit :=
  modify fun t => { t with output := t.output ++ text }

/-- Print a line. -/
def print (line : String) : Act Terminal Unit :=
  write (line ++ "\n")

/-- Do something with the workspace that has been opened. -/
def onSession {α : Type} (a : Act Session α) : Act Terminal α :=
  Act.ofFunction fun t =>
    match t.workspace with
    | none => (.error .notStarted, t)
    | some w =>
      let (r, s) := a.apply ⟨t.host, w⟩
      (r, { t with host := s.host, workspace := some s.workspace })

/-- Notes as they are shown at a terminal: only those that matter, each on a line. -/
def notes (log : List Note) : String :=
  String.join ((log.filter fun n => Level.warning.rank ≤ n.level.rank).map fun n =>
    n.level.name ++ ":root:" ++ n.text ++ "\n")

/-- What has been printed besides output: complaints, and notes that are shown. -/
def sideOutput (t : Terminal) : String :=
  t.complaints ++ (if t.logsToFile then "" else notes t.host.log)

/-! ## Messages -/

/-- What switches a terminal to green. -/
def green : String := "\x1b[1;32m"

/-- A text in a colour. -/
def painted (colour text : String) : String :=
  colour ++ text ++ Report.plain

/-- Print an error with its details. -/
def printError (title detail : String) : Act Terminal Unit :=
  write ("\n" ++ painted (Report.colour .error) ("✗ " ++ title) ++ "\n\n" ++ detail ++ "\n\n")

/-- Print that something went well. -/
def printSuccess (text : String) : Act Terminal Unit :=
  write ("\n" ++ painted green ("✓ " ++ text) ++ "\n")

/-- Print that the user interrupted the command. -/
def printInterruption : Act Terminal Unit :=
  write ("\n" ++ painted (Report.colour .warning) "✗ Interrupted" ++ "\n")

end Terminal

end DubCheck.CommandLine
