import DubCheck.Document.Basic
import DubCheck.Decimal.Shortest
import DubCheck.Text.Quoted
/-!
# Writing documents

`write` puts a document on one line of visible ASCII characters.  Items are separated by a comma
and a blank, a key is separated from its value by a colon and a blank, and every character outside
the visible ASCII range is escaped, by a letter if it has one and else by its UTF-16 code units.
-/

namespace DubCheck.Document

/-- The escape of one UTF-16 code unit. -/
def escapeUnit (n : Nat) : List Char :=
  '\\' :: 'u' :: Text.hexDigits 4 n

/-- How a character is written in a text. -/
def writeChar (c : Char) : List Char :=
  match c with
  | '"' => ['\\', '"']
  | '\\' => ['\\', '\\']
  | '\n' => ['\\', 'n']
  | '\r' => ['\\', 'r']
  | '\t' => ['\\', 't']
  | '\x0c' => ['\\', 'f']
  | '\x08' => ['\\', 'b']
  | c =>
    let n := c.toNat
    if 0x20 ≤ n && n < 0x7F then [c]
    else if n < 0x10000 then escapeUnit n
    else escapeUnit (0xD800 + (n - 0x10000) / 0x400) ++ escapeUnit (0xDC00 + (n - 0x10000) % 0x400)

/-- How a text is written. -/
def writeText (s : String) : String :=
  String.ofList ('"' :: s.toList.flatMap writeChar ++ ['"'])

/-- How a floating point number is written. -/
def writeFloat : Decimal.Double → String
  | .nan => "NaN"
  | .infinite negative => if negative then "-Infinity" else "Infinity"
  | x => x.text

/-- How a document is written if it is used as a key: a text stands for itself. -/
def keyText : Document → String
  | .null => "null"
  | .bool b => if b then "true" else "false"
  | .int i => toString i
  | .float x => writeFloat x
  | .string s => s
  | _ => ""

mutual

/-- A document on one line. -/
def write : Document → String
  | .null => "null"
  | .bool true => "true"
  | .bool false => "false"
  | .int i => toString i
  | .float x => writeFloat x
  | .string s => writeText s
  | .array items => "[" ++ ", ".intercalate (writeItems items) ++ "]"
  | .object members => "\x7b" ++ ", ".intercalate (writeMembers members) ++ "\x7d"

/-- The items of a sequence, each written on its own. -/
def writeItems : List Document → List String
  | [] => []
  | d :: rest => write d :: writeItems rest

/-- The members of an object, each written on its own. -/
def writeMembers : List (String × Document) → List String
  | [] => []
  | (key, d) :: rest => (writeText key ++ ": " ++ write d) :: writeMembers rest

end

end DubCheck.Document
