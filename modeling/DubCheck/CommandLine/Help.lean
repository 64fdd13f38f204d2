import DubCheck.CommandLine.Grammar
import DubCheck.Text.Numeral
import DubCheck.Text.Search
/-!
# Help pages

How the usage of the program is shown.  The usage lists options and operands, and is broken into
lines if it does not fit the width; operands then begin a line of their own.  A help page adds a
description of each option and operand, set in a column next to its name.
-/

namespace DubCheck.CommandLine

/-- Blanks. -/
def blanks (n : Nat) : String :=
  String.ofList (List.replicate n ' ')

/-- The words of a text, with the blanks between them. -/
def pieces (text : String) : List (List Char) :=
  ((Text.splitOn ' ' text.toList).filter (!·.isEmpty)).intersperse [' ']

/-- The pieces that fit into a line in which `room` characters are left, and the other ones. -/
def takeFitting : Nat → List (List Char) → List (List Char) × List (List Char)
  | _, [] => ([], [])
  | room, piece :: rest =>
    if piece.length ≤ room then
      let (line, left) := takeFitting (room - piece.length) rest
      (piece :: line, left)
    else ([], piece :: rest)

/-- A line with the beginning of the next piece, if that is too long for any line. -/
def breakLong (width : Nat) (line : List (List Char)) :
    List (List Char) → List (List Char) × List (List Char)
  | [] => (line, [])
  | piece :: rest =>
    if piece.length ≤ width then (line, piece :: rest)
    else
      let room := width - line.flatten.length
      (line ++ [piece.take room], piece.drop room :: rest)

/-- A line without a blank piece at its end. -/
def dropEnd (line : List (List Char)) : List (List Char) :=
  if (line.getLast?.getD []).all (· == ' ') then line.dropLast else line

/-- Pieces set in lines.  `fuel` bounds the number of lines; every line takes one character at
least. -/
def fillLines (width : Nat) : Nat → List (List Char) → List String
  | 0, _ => []
  | _, [] => []
  | fuel + 1, pieces =>
    let (fitting, left) := takeFitting width pieces
    let (line, left) := breakLong width fitting left
    let left := if left.head? = some [' '] then left.drop 1 else left
    String.ofList (dropEnd line).flatten :: fillLines width fuel left

/-- A text set in lines of at most the given width.  A line ends between words, but a word that is
too long for a line is broken. -/
def fill (width : Nat) (text : String) : List String :=
  fillLines width (text.length + 1) (pieces text)

/-- The width in which a text is set where there is room for the given one.  Some words must fit in
any case. -/
def textWidth (room : Nat) : Nat :=
  max room 11

/-! ## Usage -/

/-- How an option is shown in the usage: by its first name. -/
def Choice.usage (c : Choice) : String :=
  let name := c.names.head?.getD ""
  match c.value with
  | some v => "[" ++ name ++ " " ++ v ++ "]"
  | none => "[" ++ name ++ "]"

/-- How an operand is shown in the usage. -/
def Operand.usage : Operand → List String
  | .directory => ["[project_dir]"]
  | .command => [commandList, "..."]

/-- Parts set in lines of at most the given width.  Each line has `indent` characters before it, and
the first one begins with `first` characters in use. -/
def linesFrom (width indent used : Nat) (line : List String) : List String → List (List String)
  | [] => if line.isEmpty then [] else [line]
  | part :: rest =>
    if width < used + 1 + part.length && !line.isEmpty then
      line :: linesFrom width indent (indent + part.length) [part] rest
    else linesFrom width indent (used + 1 + part.length) (line ++ [part]) rest

/-- What comes before the usage. -/
def usageMark : String := "usage: "

/-- The usage in lines of at most the given width, with its mark. -/
def Grammar.usage (g : Grammar) (width : Nat) : String :=
  let choices := g.choices.map (·.usage)
  let operands := g.operand.usage
  let whole := " ".intercalate (g.program :: choices ++ operands)
  let join (lines : List (List String)) : List String := lines.map (" ".intercalate ·)
  if usageMark.length + whole.length ≤ width then usageMark ++ whole
  else if 4 * (usageMark.length + g.program.length) ≤ 3 * width then
    let indent := usageMark.length + g.program.length + 1
    let lines := join (linesFrom width indent (usageMark.length - 1) [] (g.program :: choices)) ++
      join (linesFrom width indent (indent - 1) [] operands)
    usageMark ++ ("\n" ++ blanks indent).intercalate lines
  else
    let indent := usageMark.length
    let together := join (linesFrom width indent (indent - 1) [] (choices ++ operands))
    let lines :=
      if together.length ≤ 1 then together
      else join (linesFrom width indent (indent - 1) [] choices) ++
        join (linesFrom width indent (indent - 1) [] operands)
    usageMark ++ ("\n" ++ blanks indent).intercalate (g.program :: lines)

/-! ## Pages -/

/-- A line of a help page: a name, and what is said about it. -/
structure Entry where
  /-- How far it is moved to the right. -/
  indent : Nat
  /-- The name. -/
  name : String
  /-- What is said about it. -/
  help : String

/-- All ways of writing an option. -/
def Choice.entry (c : Choice) : Entry :=
  let shown (name : String) : String :=
    match c.value with
    | some v => name ++ " " ++ v
    | none => name
  ⟨2, ", ".intercalate (c.names.map shown), c.help⟩

/-- The entries for an operand. -/
def Operand.entries : Operand → List Entry
  | .directory => [⟨2, "project_dir", directoryHelp⟩]
  | .command => ⟨2, commandList, commandHelp⟩ :: CommandName.all.map fun c => ⟨4, c.text, c.help⟩

/-- The column of the descriptions: two to the right of the longest name, but not too far. -/
def helpColumn (width : Nat) (entries : List Entry) : Nat :=
  let longest := (entries.map fun e => e.name.length + 2).foldl max 0
  min (longest + 2) (min 24 (max (width - 20) 4))

/-- An entry with its description set in a column.  A name that is too long has a line of its
own. -/
def Entry.text (width column : Nat) (e : Entry) : String :=
  let lines := fill (textWidth (width - column)) e.help
  let room := column - e.indent - 2
  let body := ("\n" ++ blanks column).intercalate lines
  blanks e.indent ++ e.name ++
    (if e.name.length ≤ room then blanks (room - e.name.length + 2) else "\n" ++ blanks column) ++
    body ++ "\n"

/-- The help page, set in the given width. -/
def Grammar.page (g : Grammar) (width : Nat) : String :=
  let operands := g.operand.entries
  let choices := g.choices.map (·.entry)
  let column := helpColumn width (operands ++ choices)
  let titled (title : String) (entries : List Entry) : String :=
    "\n" ++ title ++ ":\n" ++ String.join (entries.map (·.text width column))
  let description :=
    match g.description with
    | some d => "\n" ++ "\n".intercalate (fill (textWidth width) d) ++ "\n"
    | none => ""
  g.usage width ++ "\n" ++ description ++ titled "positional arguments" operands ++
    titled "options" choices

/-- The width for usages and help pages: two less than that of the terminal, which is eighty unless
the variable says otherwise. -/
def pageWidth (columns : Option String) : Nat :=
  match columns.bind Text.integer? with
  | some n => if n ≤ 0 then 78 else n.toNat - 2
  | none => 78

end DubCheck.CommandLine
