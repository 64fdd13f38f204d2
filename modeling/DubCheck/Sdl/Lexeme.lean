import DubCheck.Text.Blank
import DubCheck.Text.Quoted
/-!
# The lexemes of a tag document

A tag document is a sequence of words, texts, and the marks `=`, `{`, `}` and the end of a
statement, which is a newline or a semicolon.  Blanks, comments and a backslash at the end of a
line stand between lexemes and are dropped.  A text is written between double quotes, with
escapes and without newlines other than escaped ones, or between backquotes, as it is.

`scan` finds what stands at the head of a text; it says how many characters belong to it besides
the first, so that what is left is always shorter.  `lexemes` goes through a whole text; a fault
comes after the lexemes in front of it.
-/

namespace DubCheck.Sdl

/-- The kinds of lexemes. -/
inductive Kind where
  /-- A text between double quotes. -/
  | quoted
  /-- A text between backquotes. -/
  | raw
  /-- The end of a statement. -/
  | ending
  /-- The beginning of a block. -/
  | opening
  /-- The end of a block. -/
  | closing
  /-- The mark between a key and a value. -/
  | equals
  /-- A word. -/
  | word
deriving DecidableEq, Repr

/-- A lexeme with its text, quotes included, and the line it begins in. -/
structure Lexeme where
  /-- Its kind. -/
  kind : Kind
  /-- Its text. -/
  text : List Char
  /-- The line it begins in. -/
  line : Nat
deriving DecidableEq, Repr

/-- Why a text is not a tag document. -/
inductive Fault where
  /-- A character begins no lexeme. -/
  | unexpected (c : Char) (line : Nat)
  /-- A comment does not end. -/
  | unterminatedComment (line : Nat)
  /-- A text does not end. -/
  | unterminatedText (line : Nat)
  /-- A block ends that has not begun. -/
  | unopened (line : Nat)
  /-- The block of the given tag does not end. -/
  | unclosed (name : String)
deriving DecidableEq, Repr

/-- What is said about a text that is not a tag document. -/
def Fault.message (source : String) : Fault → String
  | .unexpected c line =>
    s!"Failed to parse {source} line {line}: unexpected " ++ Text.quoted (String.singleton c)
  | .unterminatedComment line => s!"Failed to parse {source} line {line}: unterminated comment"
  | .unterminatedText line => s!"Failed to parse {source} line {line}: unterminated string"
  | .unopened line => s!"Unbalanced braces in {source} line {line}"
  | .unclosed name => s!"Unbalanced braces in {source}: missing '\x7d' for '{name}'"

/-- A blank between lexemes. -/
def isSpace (c : Char) : Bool :=
  c == ' ' || c == '\t' || c == '\r' || c == '\x0c'

/-- A character that may belong to a word. -/
def isWordChar (c : Char) : Bool :=
  !(Text.isBlank c || c == '{' || c == '}' || c == ';' || c == '"' || c == '\x60' || c == '=')

/-- How many characters belong to a text after its opening double quote, if it ends. -/
def quotedSize? : List Char → Option Nat
  | [] => none
  | '"' :: _ => some 1
  | '\\' :: _ :: cs => (quotedSize? cs).map (· + 2)
  | c :: cs => if c = '\\' || c = '\n' then none else (quotedSize? cs).map (· + 1)

/-- How many characters belong to a text after its opening backquote, if it ends. -/
def rawSize? : List Char → Option Nat
  | [] => none
  | '\x60' :: _ => some 1
  | _ :: cs => (rawSize? cs).map (· + 1)

/-- How many characters belong to a comment after its opening mark, if it ends. -/
def commentSize? : List Char → Option Nat
  | [] => none
  | '*' :: '/' :: _ => some 2
  | _ :: cs => (commentSize? cs).map (· + 1)

/-- How many characters are left in a line. -/
def lineSize (cs : List Char) : Nat :=
  (cs.takeWhile (· != '\n')).length

/-- What stands at the head of a text. -/
inductive Scan where
  /-- Something that is dropped, of `more` characters besides the first. -/
  | gap (more : Nat)
  /-- A lexeme of `more` characters besides the first. -/
  | lexeme (kind : Kind) (more : Nat)
  /-- Nothing that can stand there. -/
  | fault (because : Nat → Fault)

/-- The lexeme of `size?` characters besides the first, or the fault if it does not end. -/
def ended (kind : Kind) (size? : Option Nat) : Scan :=
  match size? with
  | some more => .lexeme kind more
  | none => .fault .unterminatedText

/-- A lexeme that begins with the character `c` and fits no other rule. -/
def scanMark (c : Char) (cs : List Char) : Scan :=
  if c = '\n' || c = ';' then .lexeme .ending 0
  else if c = '{' then .lexeme .opening 0
  else if c = '}' then .lexeme .closing 0
  else if c = '=' then .lexeme .equals 0
  else if isWordChar c then .lexeme .word (cs.takeWhile isWordChar).length
  else .fault (.unexpected c)

/-- What stands at the head of the text `c :: cs`. -/
def scan (c : Char) (cs : List Char) : Scan :=
  match c, cs with
  | '\\', '\n' :: _ => .gap 1
  | '\\', '\r' :: '\n' :: _ => .gap 2
  | '/', '/' :: _ => .gap (lineSize cs)
  | '-', '-' :: _ => .gap (lineSize cs)
  | '#', _ => .gap (lineSize cs)
  | '/', '*' :: cs =>
    match commentSize? cs with
    | some more => .gap (more + 1)
    | none => .fault .unterminatedComment
  | '"', _ => ended .quoted (quotedSize? cs)
  | '\x60', _ => ended .raw (rawSize? cs)
  | _, _ => if isSpace c then .gap (cs.takeWhile isSpace).length else scanMark c cs

/-- The lexemes of a text, the first of which begins in the given line, and the fault they end in
if there is one. -/
def lexemes (line : Nat) : List Char → List Lexeme × Option Fault
  | [] => ([], none)
  | c :: cs =>
    match scan c cs with
    | .gap more => lexemes (line + (c :: cs.take more).count '\n') (cs.drop more)
    | .lexeme kind more =>
      let text := c :: cs.take more
      let (found, fault) := lexemes (line + text.count '\n') (cs.drop more)
      (⟨kind, text, line⟩ :: found, fault)
    | .fault because => ([], some (because line))
termination_by cs => cs.length
decreasing_by all_goals (simp only [List.length_drop, List.length_cons]; omega)

end DubCheck.Sdl
