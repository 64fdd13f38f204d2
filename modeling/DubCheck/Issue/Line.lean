import DubCheck.Issue.Basic
import DubCheck.Text.Case
import DubCheck.Text.Numeral
import DubCheck.Text.Search
/-!
# The issues in a line of compiler output

A compiler names a place by a *header* `(line,column): ` or `(line): ` right after the name of the
file.  `headers` lists the headers of a line from left to right; one that has a newline in front of
it does not count.  Three rules look for the first header that suits them.

* The primary rule wants the word for a severity, in any case, and a colon after the header.  If it
  finds one, the line is that issue and nothing else.
* Otherwise the continuation rule takes the first header of a line in which `from` occurs for an
  error, whose text is everything after the header.
* In addition, the deprecation rule takes the first header after which the line reads
  `old is deprecated, use new instead.`

A column that is left out is 0 under the primary rule and 1 under the others.
-/

namespace DubCheck.Issue

/-- A place named in a line, with the text around it. -/
structure Header where
  /-- The text before the header, backwards. -/
  seen : List Char
  /-- The digits of the line. -/
  line : List Char
  /-- The digits of the column, if there is one. -/
  column : Option (List Char)
  /-- The text after the header. -/
  rest : List Char
deriving Repr

/-- The name of the file, which is the text before the header. -/
def Header.file (h : Header) : String :=
  String.ofList h.seen.reverse

/-- The digits at the beginning of a text, at least one, and what is left after them. -/
def leadingDigits? (cs : List Char) : Option (List Char × List Char) :=
  match cs.takeWhile Text.isDigit with
  | [] => none
  | ds => some (ds, cs.dropWhile Text.isDigit)

/-- The end of a header and what is left after it. -/
def afterHeader? : List Char → Option (List Char)
  | ')' :: ':' :: ' ' :: rest => some rest
  | _ => none

/-- The header at the beginning of the text `cs`.  `seen` is the text before it, backwards. -/
def headerAt? (seen cs : List Char) : Option Header := do
  let '(' :: cs := cs | none
  let (line, cs) ← leadingDigits? cs
  match cs with
  | ',' :: cs =>
    let (column, cs) ← leadingDigits? cs
    let rest ← afterHeader? cs
    return ⟨seen, line, some column, rest⟩
  | cs =>
    let rest ← afterHeader? cs
    return ⟨seen, line, none, rest⟩

/-- The headers in a text up to its first newline.  `seen` is the text before it, backwards. -/
def headersFrom (seen : List Char) : List Char → List Header
  | [] => []
  | c :: cs =>
    (headerAt? seen (c :: cs)).toList ++ if c = '\n' then [] else headersFrom (c :: seen) cs

/-- The headers of a line, from left to right. -/
def headers (line : List Char) : List Header :=
  headersFrom [] line

/-- The text up to the first newline. -/
def toNewline (cs : List Char) : List Char :=
  cs.takeWhile (· != '\n')

/-! ## Severity words -/

/-- Whether a character is a form of the given small letter.  The letter `i` also has the two
Turkish forms, one without a dot and one a capital with a dot. -/
def isFormOf (letter c : Char) : Bool :=
  c.toLower == letter || (letter == 'i' && (c.toNat == 0x131 || c.toNat == 0x130))

/-- Whether a text begins with forms of the letters of a word; if so, how it spells the word, and
what is left. -/
def spelled? : List Char → List Char → Option (List Char × List Char)
  | [], cs => some ([], cs)
  | l :: ls, c :: cs =>
    if isFormOf l c then (spelled? ls cs).map fun (word, rest) => (c :: word, rest) else none
  | _ :: _, [] => none

/-- The words that the primary rule knows, in small letters. -/
def severityWords : List (List Char) :=
  ["deprecation".toList, "warning".toList, "error".toList]

/-- The severity word at the beginning of a text, as it is spelled there, and what is left after the
colon and the blank that follow it. -/
def severityWord? (cs : List Char) : Option (List Char × List Char) :=
  severityWords.findSome? fun word =>
    match spelled? word cs with
    | some (spelling, ':' :: ' ' :: rest) => some (spelling, rest)
    | _ => none

/-! ## The three rules -/

/-- Why a line that looks like an issue cannot be read. -/
inductive Unreadable where
  /-- A line or column number has too many digits. -/
  | numeral (e : Text.NumeralTooLong)
  /-- No severity has this name in capitals. -/
  | severity (word : String)
deriving DecidableEq, Repr

/-- The severity that a word of any case names. -/
def severityOf (word : String) : Except Unreadable Severity :=
  let capitals := Text.upper word
  match Severity.ofCapitals? capitals with
  | some s => .ok s
  | none => .error (.severity capitals)

/-- The number that digits denote. -/
def number (ds : List Char) : Except Unreadable Nat :=
  (Text.readNumeral ds).mapError .numeral

/-- The issue at a header: its line and column are read, then its severity. -/
def atHeader (h : Header) (defaultColumn : Nat) (severity : Except Unreadable Severity)
    (message : List Char) : Except Unreadable Issue := do
  let line ← number h.line
  let column ← match h.column with
    | some ds => number ds
    | none => pure defaultColumn
  return ⟨line, column, h.file, ← severity, String.ofList message⟩

/-- The column of a primary issue whose header has none. -/
def primaryColumn : Nat := 0

/-- The column of any other issue whose header has none. -/
def secondaryColumn : Nat := 1

/-- The first header that is followed by a severity word, with that word and the text after it. -/
def primary? (line : List Char) : Option (Header × List Char × List Char) :=
  (headers line).findSome? fun h => (severityWord? h.rest).map (h, ·)

/-- The first header of a line in which `from` occurs. -/
def continuation? (line : List Char) : Option Header :=
  if Text.occursIn "from".toList line then (headers line).head? else none

/-- What stands between an old name and a new one. -/
def deprecationPhrase : List Char :=
  " is deprecated, use ".toList

/-- What stands after a new name, up to the last character of the text. -/
def deprecationEnding : List Char :=
  " instead".toList

/-- The old and the new name in a text `old is deprecated, use new instead.`, whose last character
may be any.  A newline after it is allowed. -/
def deprecated? (rest : List Char) : Option (List Char × List Char) := do
  let body := toNewline rest
  if 1 < rest.length - body.length then none
  let (old, more) ← Text.splitAtFirst? deprecationPhrase body
  let sentence := more.dropLast
  if !more.isEmpty && deprecationEnding.isSuffixOf sentence then
    some (old, sentence.take (sentence.length - deprecationEnding.length))
  else none

/-- The first header that is followed by a deprecation, with the old and the new name. -/
def deprecation? (line : List Char) : Option (Header × List Char × List Char) :=
  if Text.occursIn "is deprecated".toList line then
    (headers line).findSome? fun h => (deprecated? h.rest).map (h, ·)
  else none

/-- The text of a deprecation. -/
def deprecationText (old new : List Char) : List Char :=
  old ++ deprecationPhrase ++ new ++ deprecationEnding ++ ['.']

/-- The issues in a line of compiler output, which are at most two. -/
def ofLine (line : List Char) : Except Unreadable (List Issue) :=
  match primary? line with
  | some (h, word, rest) => do
    return [← atHeader h primaryColumn (severityOf (String.ofList word)) (toNewline rest)]
  | none => do
    let continued ← match continuation? line with
      | some h => do pure [← atHeader h secondaryColumn (.ok .error) (toNewline h.rest)]
      | none => pure []
    let deprecated ← match deprecation? line with
      | some (h, old, new) => do
        pure [← atHeader h secondaryColumn (.ok .deprecation) (deprecationText old new)]
      | none => pure []
    return continued ++ deprecated

end DubCheck.Issue
