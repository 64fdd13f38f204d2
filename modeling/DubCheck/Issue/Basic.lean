import DubCheck.Document.Basic
/-!
# Issues

An issue is what a compiler reports about one place in a source file.  This module holds its type,
the words for the three severities, its one-line form `file(line,column): Severity: text`, and the
document it is exchanged as.
-/

namespace DubCheck

/-- How bad an issue is. -/
inductive Severity where
  /-- The program is wrong. -/
  | error
  /-- Something looks wrong. -/
  | warning
  /-- Something should no longer be used. -/
  | deprecation
deriving DecidableEq, Repr, Inhabited

namespace Severity

/-- The word for a severity. -/
def label : Severity → String
  | .error => "Error"
  | .warning => "Warning"
  | .deprecation => "Deprecation"

/-- The word for a severity in capitals. -/
def capitals : Severity → String
  | .error => "ERROR"
  | .warning => "WARNING"
  | .deprecation => "DEPRECATION"

/-- The number by which a severity is exchanged. -/
def code : Severity → Nat
  | .error => 0
  | .warning => 1
  | .deprecation => 2

/-- All severities, in the order of their codes. -/
def all : List Severity :=
  [.error, .warning, .deprecation]

/-- The severity that a word in capitals names. -/
def ofCapitals? (word : String) : Option Severity :=
  all.find? (·.capitals == word)

/-- The severity with a given code.  Any document that has the same value as the code will do. -/
def ofCode? (d : Document) : Option Severity :=
  all.find? fun s => d.equals (.int s.code)

end Severity

/-- A report about one place in a source file. -/
structure Issue where
  /-- The line in the file. -/
  line : Nat
  /-- The column in the line. -/
  column : Nat
  /-- The file, as the compiler names it. -/
  file : String
  /-- How bad it is. -/
  severity : Severity
  /-- What the compiler says. -/
  message : String
deriving DecidableEq, Repr

namespace Issue

/-- An issue on one line, as a compiler would print it. -/
def format (i : Issue) : String :=
  s!"{i.file}({i.line},{i.column}): {i.severity.label}: {i.message}"

/-- The document that an issue is exchanged as. -/
def toDocument (i : Issue) : Document :=
  .object [("line", .int i.line), ("column", .int i.column), ("file", .string i.file),
    ("type", .int i.severity.code), ("text", .string i.message)]

end Issue

end DubCheck
