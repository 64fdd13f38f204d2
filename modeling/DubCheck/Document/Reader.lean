import DubCheck.Document.Basic
import DubCheck.Text.Numeral
/-!
# Reading documents

`Document.read` reads a text that holds one document.  Blanks are the space, the tab, the carriage
return and the newline.  Besides truth values, texts, integers and fractions there are the three
numbers `NaN`, `Infinity` and `-Infinity`.  A key that comes twice keeps its first place and its
last value.

The readers work on what is left of the text and hand on what they leave.  A fault therefore says
how much text was left where it was found, and `placeOf` turns that into a line and a column.
Containers may be nested `maxNesting` deep.  The size of the whole text bounds the number of items
in a container.
-/

namespace DubCheck.Document

open Decimal (Double)

/-- What is wrong with a text that holds no document. -/
inductive Expectation where
  /-- A value should begin. -/
  | value
  /-- A key should begin. -/
  | key
  /-- A colon should follow a key. -/
  | colon
  /-- A comma or the end of a container should follow. -/
  | comma
  /-- The text should end. -/
  | ending
  /-- A quoted text should end. -/
  | quote
  /-- A control character stands in a quoted text. -/
  | control
  /-- An escape is unknown. -/
  | escape
  /-- An escape by a code unit lacks four hexadecimal digits. -/
  | unit
  /-- The text begins with a byte order mark. -/
  | byteOrderMark
deriving DecidableEq, Repr

/-- The words for what is wrong. -/
def Expectation.message : Expectation → String
  | .value => "Expecting value"
  | .key => "Expecting property name enclosed in double quotes"
  | .colon => "Expecting ':' delimiter"
  | .comma => "Expecting ',' delimiter"
  | .ending => "Extra data"
  | .quote => "Unterminated string starting at"
  | .control => "Invalid control character at"
  | .escape => "Invalid \\escape"
  | .unit => "Invalid \\uXXXX escape"
  | .byteOrderMark => "Unexpected UTF-8 BOM (decode using utf-8-sig)"

/-- Why reading stopped; `left` counts the characters from the fault to the end. -/
inductive Fault where
  /-- The text is not a document. -/
  | malformed (what : Expectation) (left : Nat)
  /-- An integer has too many digits. -/
  | numeral (e : Text.NumeralTooLong)
  /-- Containers are nested too deep, and this kind of container is one too many. -/
  | tooDeep (container : String)
deriving DecidableEq, Repr

/-- How deep containers may be nested. -/
def maxNesting : Nat := 990

/-- A blank. -/
def isBlank (c : Char) : Bool :=
  c == ' ' || c == '\t' || c == '\n' || c == '\r'

/-- The text without the blanks at its beginning. -/
def skipBlanks (cs : List Char) : List Char :=
  cs.dropWhile isBlank

/-- A fault at the beginning of the text that is left. -/
def expected {α : Type} (what : Expectation) (cs : List Char) : Except Fault α :=
  .error (.malformed what cs.length)

/-! ## Texts -/

/-- The value of a hexadecimal digit. -/
def hexValue? (c : Char) : Option Nat :=
  if c.isDigit then some (c.toNat - 0x30)
  else if 'a' ≤ c && c ≤ 'f' then some (c.toNat - 0x57)
  else if 'A' ≤ c && c ≤ 'F' then some (c.toNat - 0x37)
  else none

/-- The number that four hexadecimal digits denote. -/
def codeUnit? (cs : List Char) : Option Nat :=
  (cs.take 4).foldl (fun n c => do return 16 * (← n) + (← hexValue? c)) (some 0)

/-- The character that an escape by a letter stands for. -/
def escaped? : Char → Option Char
  | '"' => some '"'
  | '\\' => some '\\'
  | '/' => some '/'
  | 'b' => some '\x08'
  | 'f' => some '\x0c'
  | 'n' => some '\n'
  | 'r' => some '\r'
  | 't' => some '\t'
  | _ => none

/-- The first half of a character outside the basic plane. -/
def isHighSurrogate (n : Nat) : Bool :=
  0xD800 ≤ n && n < 0xDC00

/-- The second half of a character outside the basic plane. -/
def isLowSurrogate (n : Nat) : Bool :=
  0xDC00 ≤ n && n < 0xE000

/-- The character of a code unit; half a character becomes a replacement character. -/
def ofUnit (n : Nat) : Char :=
  if isHighSurrogate n || isLowSurrogate n then Char.ofNat 0xFFFD else Char.ofNat n

/-- The character of the escape `\u` with the text `cs` after it, and how much of `cs` it takes.
At least one character must follow the digits.  Two escapes for the halves of one character are
read together if more text than the second one follows the first. -/
def readUnit (cs : List Char) : Except Fault (Char × Nat) :=
  match codeUnit? cs with
  | some high =>
    let rest := cs.drop 4
    if rest.isEmpty then .error (.malformed .unit (cs.length + 1))
    else if isHighSurrogate high && rest.take 2 == ['\\', 'u'] && 6 < rest.length then
      match codeUnit? (rest.drop 2) with
      | some low =>
        if isLowSurrogate low then
          .ok (Char.ofNat (0x10000 + (high - 0xD800) * 0x400 + (low - 0xDC00)), 10)
        else .ok (ofUnit high, 4)
      | none => .error (.malformed .unit (rest.length - 1))
    else .ok (ofUnit high, 4)
  | none => .error (.malformed .unit (cs.length + 1))

/-- The characters of a quoted text up to its closing quote, and what is left after that.  `start`
is all that follows the opening quote, and the first `skip` characters belong to an escape that has
been read. -/
def readText (start : List Char) : Nat → List Char → Except Fault (List Char × List Char)
  | _, [] => .error (.malformed .quote (start.length + 1))
  | skip + 1, _ :: cs => readText start skip cs
  | 0, '"' :: cs => .ok ([], cs)
  | 0, '\\' :: 'u' :: cs => do
    let (c, used) ← readUnit cs
    let (text, rest) ← readText start (used + 1) ('u' :: cs)
    return (c :: text, rest)
  | 0, '\\' :: e :: cs =>
    match escaped? e with
    | some c => do
      let (text, rest) ← readText start 1 (e :: cs)
      return (c :: text, rest)
    | none => .error (.malformed .escape (cs.length + 2))
  | 0, '\\' :: [] => .error (.malformed .quote (start.length + 1))
  | 0, c :: cs =>
    if c.toNat < 0x20 then .error (.malformed .control (cs.length + 1))
    else do
      let (text, rest) ← readText start 0 cs
      return (c :: text, rest)

/-- A quoted text whose opening quote has just been read. -/
def readQuoted (cs : List Char) : Except Fault (String × List Char) := do
  let (text, rest) ← readText cs 0 cs
  return (String.ofList text, rest)

/-! ## Numbers -/

/-- The digits at the beginning of a text, and what is left after them. -/
def spanDigits (cs : List Char) : List Char × List Char :=
  (cs.takeWhile Char.isDigit, cs.dropWhile Char.isDigit)

/-- The digits of a fraction, if a point and at least one digit come next. -/
def readFraction (cs : List Char) : Option (List Char × List Char) :=
  match cs with
  | '.' :: d :: rest => if d.isDigit then some (spanDigits (d :: rest)) else none
  | _ => none

/-- The exponent, if the letter `e`, perhaps a sign, and at least one digit come next. -/
def readExponent (cs : List Char) : Option (Int × List Char) :=
  let magnitude (cs : List Char) : Option (Nat × List Char) :=
    match spanDigits cs with
    | ([], _) => none
    | (ds, rest) => some (Text.digitsValue ds, rest)
  match cs with
  | e :: rest =>
    if e == 'e' || e == 'E' then
      match rest with
      | '-' :: rest => (magnitude rest).map fun (n, left) => (-(n : Int), left)
      | '+' :: rest => (magnitude rest).map fun (n, left) => ((n : Int), left)
      | rest => (magnitude rest).map fun (n, left) => ((n : Int), left)
    else none
  | [] => none

/-- The whole part of a number: a zero, or digits that do not begin with a zero. -/
def readWhole (cs : List Char) : Option (List Char × List Char) :=
  match cs with
  | '0' :: rest => some (['0'], rest)
  | d :: _ => if d.isDigit then some (spanDigits cs) else none
  | [] => none

/-- A number without its sign.  `start` is the text from its beginning, sign included. -/
def readMagnitude (start : List Char) (negative : Bool) (cs : List Char) :
    Except Fault (Document × List Char) :=
  match readWhole cs with
  | none => expected .value start
  | some (whole, rest) =>
    let fraction := readFraction rest
    let (places, rest) := fraction.getD ([], rest)
    let exponent := readExponent rest
    if fraction.isNone && exponent.isNone then
      match Text.readNumeral whole with
      | .ok n => .ok (.int (if negative then -(n : Int) else n), rest)
      | .error e => .error (.numeral e)
    else
      let (power, rest) := exponent.getD (0, rest)
      let digits := Text.digitsValue (whole ++ places)
      let value := Double.ofDecimal negative digits (power - places.length)
      .ok (.float value, rest)

/-! ## Values -/

/-- The rest of a text that begins with the given word. -/
def afterWord (word : String) (cs : List Char) : Option (List Char) :=
  if word.toList.isPrefixOf cs then some (cs.drop word.length) else none

/-- The values that have a name. -/
def namedValues : List (String × Document) :=
  [("null", .null), ("true", .bool true), ("false", .bool false), ("NaN", .float .nan),
   ("Infinity", .float (.infinite false)), ("-Infinity", .float (.infinite true))]

/-- A value that holds no others and is not a text. -/
def readScalar (cs : List Char) : Except Fault (Document × List Char) :=
  match namedValues.findSome? fun (word, d) => (afterWord word cs).map (d, ·) with
  | some found => .ok found
  | none =>
    match cs with
    | '-' :: rest => readMagnitude cs true rest
    | _ => readMagnitude cs false cs

/-- The items of a sequence up to its closing bracket, where `item` reads one of them. -/
def readItems (item : List Char → Except Fault (Document × List Char)) :
    Nat → List Char → Except Fault (List Document × List Char)
  | 0, cs => expected .value cs
  | fuel + 1, cs => do
    let (d, rest) ← item cs
    match skipBlanks rest with
    | ']' :: rest => return ([d], rest)
    | ',' :: rest => do
      let (ds, rest) ← readItems item fuel (skipBlanks rest)
      return (d :: ds, rest)
    | rest => expected .comma rest

/-- The members of an object up to its closing brace, where `item` reads a value and `found` are
the members before. -/
def readMembers (item : List Char → Except Fault (Document × List Char)) :
    Nat → List (String × Document) → List Char → Except Fault (List (String × Document) × List Char)
  | 0, _, cs => expected .key cs
  | fuel + 1, found, cs => do
    let (key, rest) ← match cs with
      | '"' :: rest => readQuoted rest
      | _ => expected .key cs
    let (d, rest) ← match skipBlanks rest with
      | ':' :: rest => item (skipBlanks rest)
      | rest => expected .colon rest
    let found := insertPair key d found
    match skipBlanks rest with
    | '}' :: rest => return (found, rest)
    | ',' :: rest => readMembers item fuel found (skipBlanks rest)
    | rest => expected .comma rest

/-- A value in a text of at most the given size, in which containers may be nested to the given
depth. -/
def readValue (size : Nat) : Nat → List Char → Except Fault (Document × List Char)
  | _, '"' :: rest => do
    let (text, rest) ← readQuoted rest
    return (.string text, rest)
  | 0, '[' :: _ => .error (.tooDeep "array")
  | 0, '{' :: _ => .error (.tooDeep "object")
  | depth + 1, '[' :: rest =>
    match skipBlanks rest with
    | ']' :: rest => .ok (.array [], rest)
    | rest => do
      let (items, rest) ← readItems (readValue size depth) size rest
      return (.array items, rest)
  | depth + 1, '{' :: rest =>
    match skipBlanks rest with
    | '}' :: rest => .ok (.object [], rest)
    | rest => do
      let (members, rest) ← readMembers (readValue size depth) size [] rest
      return (.object members, rest)
  | _, cs => readScalar cs

/-- The document that a text holds. -/
def read (cs : List Char) : Except Fault Document := do
  if cs.head? = some (Char.ofNat 0xFEFF) then expected .byteOrderMark cs
  let (d, rest) ← readValue cs.length maxNesting (skipBlanks cs)
  match skipBlanks rest with
  | [] => return d
  | rest => expected .ending rest

/-- A position in a text, with its line and column; the position counts from zero, the others from
one. -/
structure Place where
  /-- The line. -/
  line : Nat
  /-- The column in the line. -/
  column : Nat
  /-- The position in the text. -/
  position : Nat
deriving DecidableEq, Repr

/-- The place in a text after which `left` characters are left. -/
def placeOf (cs : List Char) (left : Nat) : Place :=
  let before := cs.take (cs.length - left)
  ⟨before.count '\n' + 1, (before.reverse.takeWhile (· != '\n')).length + 1, before.length⟩

end DubCheck.Document
