import DubCheck.Decimal.Double
/-!
# Documents

A `Document` is a structured value as it is exchanged with the outside: recipes, descriptions of a
package graph, requests and responses.  Numbers come in two kinds, integers of any size and
floating point numbers, which are told apart when a document is shown but not when values are
compared.  The members of an object keep the order in which their keys were first given.

There are two comparisons.  `equals` compares values: a number that is not a number equals
nothing, itself included.  `same` is the comparison used inside containers and for looking a value
up: there such a number is the same as itself.
-/

namespace DubCheck

open Decimal (Double)

/-- A structured value. -/
inductive Document where
  /-- No value. -/
  | null
  /-- A truth value. -/
  | bool (value : Bool)
  /-- An integer. -/
  | int (value : Int)
  /-- A floating point number. -/
  | float (value : Double)
  /-- A text. -/
  | string (value : String)
  /-- A sequence of values. -/
  | array (items : List Document)
  /-- Values under keys, in order. -/
  | object (members : List (String × Document))
deriving Repr, Inhabited

/-- Put a value under a key: a key that is there keeps its place, another one goes to the end. -/
def insertPair {α : Type} (key : String) (value : α) : List (String × α) → List (String × α)
  | [] => [(key, value)]
  | (k, v) :: rest => if k = key then (key, value) :: rest else (k, v) :: insertPair key value rest

namespace Document

/-- The value under a key of an object; other documents have no keys. -/
def get? (key : String) : Document → Option Document
  | .object members => members.lookup key
  | _ => none

/-- The text of a document that is one. -/
def string? : Document → Option String
  | .string s => some s
  | _ => none

/-- Whether a document is an object. -/
def isObject : Document → Bool
  | .object _ => true
  | _ => false

/-- A truth value counts as a number when values are compared. -/
def ofBool (b : Bool) : Int :=
  if b then 1 else 0

/-- Whether two documents that hold no others have the same value, a number that is not a number
being the same as itself. -/
def sameLeaf : Document → Document → Bool
  | .null, .null => true
  | .bool a, .bool b => a == b
  | .bool a, .int b => ofBool a == b
  | .int a, .bool b => a == ofBool b
  | .int a, .int b => a == b
  | .float a, .float b => a.same b
  | .float a, .int b => a.isInt b
  | .int a, .float b => b.isInt a
  | .float a, .bool b => a.isInt (ofBool b)
  | .bool a, .float b => b.isInt (ofBool a)
  | .string a, .string b => a == b
  | _, _ => false

mutual

/-- Whether two documents have the same value.  The members of objects may be in any order. -/
def same : Document → Document → Bool
  | .array a, .array b => sameItems a b
  | .object a, .object b => a.length == b.length && sameMembers a b
  | a, b => sameLeaf a b

/-- Whether two sequences have the same values. -/
def sameItems : List Document → List Document → Bool
  | [], [] => true
  | a :: as, b :: bs => same a b && sameItems as bs
  | _, _ => false

/-- Whether all these members are among those, under the same keys. -/
def sameMembers : List (String × Document) → List (String × Document) → Bool
  | [], _ => true
  | (key, a) :: rest, other =>
    (match other.lookup key with
      | some b => same a b
      | none => false) && sameMembers rest other

end

/-- Whether two documents have equal values: a number that is not a number equals nothing. -/
def equals (a b : Document) : Bool :=
  match a with
  | .float .nan => false
  | _ => same a b

/-- Whether a document counts as true: empty and zero values do not. -/
def truthy : Document → Bool
  | .null => false
  | .bool b => b
  | .int i => i != 0
  | .float x => !x.isZero
  | .string s => !s.isEmpty
  | .array items => !items.isEmpty
  | .object members => !members.isEmpty

/-- Whether a document is a container, which cannot be looked up by value. -/
def isContainer : Document → Bool
  | .array _ => true
  | .object _ => true
  | _ => false

mutual

/-- How many containers are around the value that is deepest in a document. -/
def depth : Document → Nat
  | .array items => itemsDepth items
  | .object members => membersDepth members
  | _ => 0

/-- How many containers are around the deepest value in the items of a sequence, the sequence
included. -/
def itemsDepth : List Document → Nat
  | [] => 0
  | d :: rest => max (depth d + 1) (itemsDepth rest)

/-- How many containers are around the deepest value in the members of an object, the object
included. -/
def membersDepth : List (String × Document) → Nat
  | [] => 0
  | (_, d) :: rest => max (depth d + 1) (membersDepth rest)

end

mutual

/-- How many sequences are around the value that is deepest in a document, when one does not look
into objects. -/
def sequenceDepth : Document → Nat
  | .array items => itemsSequenceDepth items
  | _ => 0

/-- How many sequences are around the deepest value in the items of a sequence, the sequence
included, when one does not look into objects. -/
def itemsSequenceDepth : List Document → Nat
  | [] => 0
  | d :: rest => max (sequenceDepth d + 1) (itemsSequenceDepth rest)

end

mutual

/-- How many containers are around each other where a document is nested deepest.  One with nothing
in it counts as well. -/
def nesting : Document → Nat
  | .array items => itemsNesting items + 1
  | .object members => membersNesting members + 1
  | _ => 0

/-- How many containers are around each other in the items of a sequence. -/
def itemsNesting : List Document → Nat
  | [] => 0
  | d :: rest => max (nesting d) (itemsNesting rest)

/-- How many containers are around each other in the members of an object. -/
def membersNesting : List (String × Document) → Nat
  | [] => 0
  | (_, d) :: rest => max (nesting d) (membersNesting rest)

end

/-- The name of the kind of a document, as it appears in messages. -/
def kindName : Document → String
  | .null => "NoneType"
  | .bool _ => "bool"
  | .int _ => "int"
  | .float _ => "float"
  | .string _ => "str"
  | .array _ => "list"
  | .object _ => "dict"

end Document

end DubCheck
