import DubCheck.Issue.Line
import DubCheck.Text.Line
/-!
# The issues in compiler output

Every line of the output is read on its own, and the issues come in the order of their lines.  If
a line cannot be read, reading stops there, and the issues before it are kept.

Output can be read while it comes in, one piece after another.  The issues in a piece are added to
those found before, whether or not reading has stopped early in an earlier piece.
-/

namespace DubCheck.Issue

/-- What reading some lines gives: the issues found, and why reading stopped early if it did. -/
structure Findings where
  /-- The issues, in the order of their lines. -/
  issues : List Issue := []
  /-- Why a line could not be read. -/
  fault : Option Unreadable := none
deriving Repr

/-- The issues in a line that may still have its line end. -/
def ofRawLine (line : List Char) : Except Unreadable (List Issue) :=
  ofLine (Text.dropLineEnd line)

/-- The issues in some lines, up to the first one that cannot be read. -/
def ofLines : List (List Char) → Findings
  | [] => ⟨[], none⟩
  | line :: rest =>
    match ofRawLine line with
    | .ok found =>
      let later := ofLines rest
      ⟨found ++ later.issues, later.fault⟩
    | .error e => ⟨[], some e⟩

/-- The issues in a text. -/
def ofText (text : List Char) : Findings :=
  ofLines (Text.splitLines text)

/-- What has been found after some more lines. -/
def Findings.feedLines (f : Findings) (lines : List (List Char)) : Findings :=
  let found := ofLines lines
  ⟨f.issues ++ found.issues, found.fault⟩

/-- What has been found after some more text, which begins a new line. -/
def Findings.feed (f : Findings) (text : List Char) : Findings :=
  f.feedLines (Text.splitLines text)

/-- The issues found, unless reading stopped early. -/
def Findings.complete (f : Findings) : Except Unreadable (List Issue) :=
  match f.fault with
  | none => .ok f.issues
  | some e => .error e

end DubCheck.Issue
