import DubCheck.Text.Blank
/-!
# Lines

Three ways of reading line ends.

* `splitLines` cuts a text at every boundary that Unicode knows, a carriage return followed by a
  newline being one boundary.
* `linesOf` cuts at newlines only; it is what a program's output is read with after
  `translateNewlines` has turned the other two spellings of a line end into a newline.
* `dropLineEnd` removes carriage returns and newlines from the end of a line.

A text that ends in a boundary has no empty line after it.
-/

namespace DubCheck.Text

/-- A character that ends a line. -/
def isLineBoundary (c : Char) : Bool :=
  let n := c.toNat
  (10 ≤ n && n ≤ 13) || (0x1C ≤ n && n ≤ 0x1E) || n == 0x85 || n == 0x2028 || n == 0x2029

/-- Put a character in front of the first line, which is opened if there is none. -/
def consFirst (c : Char) : List (List Char) → List (List Char)
  | [] => [[c]]
  | l :: ls => (c :: l) :: ls

/-- The lines of a text, cut at every line boundary. -/
def splitLines : List Char → List (List Char)
  | [] => []
  | '\r' :: '\n' :: rest => [] :: splitLines rest
  | c :: rest => if isLineBoundary c then [] :: splitLines rest else consFirst c (splitLines rest)

/-- The lines of a text, cut at newlines only. -/
def linesOf : List Char → List (List Char)
  | [] => []
  | c :: rest => if c = '\n' then [] :: linesOf rest else consFirst c (linesOf rest)

/-- Every line end, whether written as a newline, a carriage return or both, becomes a newline. -/
def translateNewlines : List Char → List Char
  | [] => []
  | '\r' :: '\n' :: rest => '\n' :: translateNewlines rest
  | c :: rest => (if c = '\r' then '\n' else c) :: translateNewlines rest

/-- A carriage return or a newline. -/
def isReturnOrNewline (c : Char) : Bool :=
  c == '\r' || c == '\n'

/-- A line without the carriage returns and newlines at its end. -/
def dropLineEnd (cs : List Char) : List Char :=
  dropEndWhile isReturnOrNewline cs

end DubCheck.Text
