import DubCheck.Document.Basic
import DubCheck.Decimal.Shortest
import DubCheck.Text.Quoted
/-!
# Showing documents

How a document is put into a message or a name.  A text stands for itself at the top and between
quotes inside a container; everything else looks the same in both places.
-/

namespace DubCheck.Document

mutual

/-- A document as it is shown inside another one. -/
def quoted : Document → String
  | .null => "None"
  | .bool true => "True"
  | .bool false => "False"
  | .int i => toString i
  | .float x => x.text
  | .string s => Text.quoted s
  | .array items => "[" ++ ", ".intercalate (quotedItems items) ++ "]"
  | .object members => "\x7b" ++ ", ".intercalate (quotedMembers members) ++ "\x7d"

/-- The items of a sequence, each as it is shown inside another document. -/
def quotedItems : List Document → List String
  | [] => []
  | d :: rest => quoted d :: quotedItems rest

/-- The members of an object, each as it is shown inside another document. -/
def quotedMembers : List (String × Document) → List String
  | [] => []
  | (key, d) :: rest => (Text.quoted key ++ ": " ++ quoted d) :: quotedMembers rest

end

/-- A document as it is shown in a message. -/
def display : Document → String
  | .string s => s
  | d => quoted d

end DubCheck.Document
