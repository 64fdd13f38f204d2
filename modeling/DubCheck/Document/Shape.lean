import DubCheck.Document.Basic
import DubCheck.Text.Search
/-!
# Using documents of any shape

A document from the outside may have any shape, and the places that use one only find out when
they come to it.  Each function here is one way of using a document; it fails with a `ShapeError`
on the documents that cannot be used that way.
-/

namespace DubCheck

/-- A document cannot be used in the way it is used. -/
inductive ShapeError where
  /-- It has no items to go through. -/
  | notIterable (kind : String)
  /-- Nothing can be looked for in it. -/
  | notSearchable (kind : String)
  /-- It lacks something that can be done with other kinds of document. -/
  | lacks (kind : String) (ability : String)
  /-- A sequence or a text has no values under keys. -/
  | notKeyed (kind : String)
  /-- It cannot be looked up by value. -/
  | notHashable (kind : String)
  /-- It stands in a sequence of texts. -/
  | notText (position : Nat) (kind : String)
deriving DecidableEq, Repr

namespace ShapeError

/-- Whether the document lacks an ability, rather than being of a wrong kind. -/
def isLack : ShapeError → Bool
  | .lacks _ _ => true
  | _ => false

/-- What is said about a document that cannot be used in the way it is used. -/
def message : ShapeError → String
  | .notIterable kind => s!"'{kind}' object is not iterable"
  | .notSearchable kind => s!"argument of type '{kind}' is not iterable"
  | .lacks kind ability => s!"'{kind}' object has no attribute '{ability}'"
  | .notKeyed kind =>
    if kind = "str" then "string indices must be integers, not 'str'"
    else s!"{kind} indices must be integers or slices, not str"
  | .notHashable kind => s!"unhashable type: '{kind}'"
  | .notText position kind => s!"sequence item {position}: expected str instance, {kind} found"

end ShapeError

namespace Document

/-- The items of a document: those of a sequence, the keys of an object, the characters of a
text. -/
def items : Document → Except ShapeError (List Document)
  | .array items => .ok items
  | .object members => .ok (members.map fun m => .string m.1)
  | .string s => .ok (s.toList.map fun c => .string (String.singleton c))
  | d => .error (.notIterable d.kindName)

/-- The members of an object, which are asked for under the name `ability`. -/
def membersFor (ability : String) : Document → Except ShapeError (List (String × Document))
  | .object members => .ok members
  | d => .error (.lacks d.kindName ability)

/-- The value under a key of an object, or a default. -/
def getD (d : Document) (key : String) (default : Document) : Except ShapeError Document :=
  match d with
  | .object members => .ok ((members.lookup key).getD default)
  | d => .error (.lacks d.kindName "get")

/-- Whether a text is a key of an object, an item of a sequence or a part of a text. -/
def holds (text : String) : Document → Except ShapeError Bool
  | .object members => .ok (members.any fun m => m.1 == text)
  | .array items => .ok (items.any fun d => d.same (.string text))
  | .string s => .ok (Text.occursIn text.toList s.toList)
  | d => .error (.notSearchable d.kindName)

/-- The value under a key that an object is known to have. -/
def member (key : String) : Document → Except ShapeError Document
  | .object members => .ok ((members.lookup key).getD .null)
  | d => .error (.notKeyed d.kindName)

/-- A document that can be looked up by value. -/
def hashable (d : Document) : Except ShapeError Document :=
  if d.isContainer then .error (.notHashable d.kindName) else .ok d

/-- The texts of a sequence of texts, of which `position` came before. -/
def textsFrom (position : Nat) : List Document → Except ShapeError (List String)
  | [] => .ok []
  | .string s :: rest => do return s :: (← textsFrom (position + 1) rest)
  | d :: _ => .error (.notText position d.kindName)

/-- The texts of a sequence of texts, with commas between them. -/
def joined (items : List Document) : Except ShapeError String := do
  return ", ".intercalate (← textsFrom 0 items)

end Document

end DubCheck
