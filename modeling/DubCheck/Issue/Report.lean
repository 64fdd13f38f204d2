import DubCheck.Issue.Basic
import DubCheck.Document.Display
/-!
# Printing issues

Issues are printed one to a line, in colours if they are wanted, and counted by severity.  An
issue that comes from the outside may have documents of any kind in the place of its numbers and
texts: this is an `Issue.Entry`, and it prints like an issue.
-/

namespace DubCheck.Issue

/-- An issue as it was given from the outside: only its severity is checked. -/
structure Entry where
  /-- The line in the file. -/
  line : Document
  /-- The column in the line. -/
  column : Document
  /-- The file. -/
  file : Document
  /-- How bad it is. -/
  severity : Severity
  /-- What is said about it. -/
  message : Document

/-- Why a document is not an issue. -/
inductive EntryError where
  /-- It has no value under this key. -/
  | missing (key : String)
  /-- Its severity is none of the codes. -/
  | severity (shown : String)
  /-- It is not an object. -/
  | notObject
deriving DecidableEq, Repr

/-- The issue that a document gives.  The line, the file and the severity must be there. -/
def Entry.ofDocument (d : Document) : Except EntryError Entry := do
  if !d.isObject then throw .notObject
  let required (key : String) : Except EntryError Document :=
    match d.get? key with
    | some value => .ok value
    | none => .error (.missing key)
  let line ← required "line"
  let file ← required "file"
  let type ← required "type"
  match Severity.ofCode? type with
  | some severity =>
    let column := (d.get? "column").getD (.int 0)
    return ⟨line, column, file, severity, (d.get? "text").getD (.string "")⟩
  | none => throw (.severity type.quoted)

/-- The document that gives an issue. -/
def Entry.toDocument (e : Entry) : Document :=
  .object [("line", e.line), ("column", e.column), ("file", e.file),
    ("type", .int e.severity.code), ("text", e.message)]

/-- An issue on one line, as a compiler would print it. -/
def Entry.format (e : Entry) : String :=
  s!"{e.file.display}({e.line.display},{e.column.display}): {e.severity.label}: {e.message.display}"

end DubCheck.Issue

namespace DubCheck.Report

/-- What switches a terminal to the colour of a severity. -/
def colour : Severity → String
  | .error => "\x1b[1;31m"
  | .warning => "\x1b[1;33m"
  | .deprecation => "\x1b[1;36m"

/-- What switches a terminal back to its own colour. -/
def plain : String := "\x1b[0m"

/-- A line of a report about an issue of the given severity. -/
def line (coloured : Bool) (severity : Severity) (text : String) : String :=
  if coloured then colour severity ++ text ++ plain ++ "\n" else text ++ "\n"

/-- The report of some issues, given by their severities and their one-line forms. -/
def lines (coloured : Bool) (entries : List (Severity × String)) : String :=
  String.join (entries.map fun (severity, text) => line coloured severity text)

/-- How many issues of each severity there are. -/
def summary (severities : List Severity) : String :=
  let count (s : Severity) : Nat := severities.count s
  s!"{count .error} error(s), {count .warning} warning(s), {count .deprecation} deprecation(s)"

/-- The report of some issues. -/
def ofIssues (coloured : Bool) (issues : List Issue) : String :=
  lines coloured (issues.map fun i => (i.severity, i.format))

end DubCheck.Report
