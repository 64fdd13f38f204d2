import DubCheck.Sdl.Lexeme
import DubCheck.Document.Basic
/-!
# The tags of a tag document

A statement is a tag: a name, values, and attributes, which are values under keys.  A statement
that begins with a text has an empty name.  A tag may be followed by a block of further tags; each
tag knows the names of the tags around it, from the outside in.

`readTags` gives the tags of a text in the order in which they begin.
-/

namespace DubCheck.Sdl

/-- One statement. -/
structure Tag where
  /-- Its name. -/
  name : String
  /-- Its values. -/
  values : List String
  /-- Its attributes, in the order of their keys. -/
  attributes : List (String × String)
  /-- The names of the tags around it, from the outside in. -/
  parents : List String
deriving DecidableEq, Repr

/-- The character that an escaped character stands for. -/
def escapedChar (c : Char) : Char :=
  if c = 'n' then '\n' else if c = 't' then '\t' else if c = 'r' then '\r' else c

/-- A text without its escapes.  A backslash in front of a newline is kept. -/
def unescape : List Char → List Char
  | '\\' :: c :: cs => (if c = '\n' then ['\\', '\n'] else [escapedChar c]) ++ unescape cs
  | c :: cs => c :: unescape cs
  | [] => []

/-- The value that a lexeme stands for. -/
def Lexeme.value (l : Lexeme) : String :=
  String.ofList <| match l.kind with
    | .quoted => unescape (l.text.drop 1).dropLast
    | .raw => (l.text.drop 1).dropLast
    | _ => l.text

/-- A part of a statement. -/
inductive Part where
  /-- A value. -/
  | value (text : String)
  /-- A value under a key. -/
  | attribute (key text : String)
deriving DecidableEq, Repr

/-- The value that a part is, if it is one. -/
def Part.value? : Part → Option String
  | .value text => some text
  | .attribute _ _ => none

/-- The key and the value of a part that has a key. -/
def Part.attribute? : Part → Option (String × String)
  | .value _ => none
  | .attribute key text => some (key, text)

/-- The part that a lexeme is on its own.  The mark `=` is none. -/
def Lexeme.part? (l : Lexeme) : Option Part :=
  if l.kind = .equals then none else some (.value l.value)

/-- The parts that the lexemes of a statement give.  A lexeme followed by `=` and another lexeme is
a key, which is taken as it is written; any other `=` counts for nothing. -/
def partsOf : List Lexeme → List Part
  | l :: m :: n :: rest =>
    if m.kind = .equals then .attribute (String.ofList l.text) n.value :: partsOf rest
    else l.part?.toList ++ partsOf (m :: n :: rest)
  | l :: rest => l.part?.toList ++ partsOf rest
  | [] => []

/-- Values under keys, in the order of the keys; the last value under a key counts. -/
def collect (pairs : List (String × String)) : List (String × String) :=
  pairs.foldl (fun found (key, text) => insertPair key text found) []

/-- The tag that the lexemes of a statement give, if there are any.  `opened` are the names of the
blocks that are open, the innermost first. -/
def Tag.ofStatement? (opened : List String) : List Lexeme → Option Tag
  | [] => none
  | first :: rest =>
    let (name, items) :=
      if first.kind = .word then (String.ofList first.text, rest) else ("", first :: rest)
    let parts := partsOf items
    some ⟨name, parts.filterMap (·.value?), collect (parts.filterMap (·.attribute?)),
      opened.reverse⟩

/-- The tags of some lexemes.  `opened` are the names of the blocks that are open, the innermost
first, `statement` is what has been read of the current statement, backwards, and `fault` comes
after the last lexeme. -/
def tagsFrom (fault : Option Fault) (opened : List String) (statement : List Lexeme) :
    List Lexeme → Except Fault (List Tag)
  | [] =>
    match fault, opened with
    | some f, _ => .error f
    | none, name :: _ => .error (.unclosed name)
    | none, [] => .ok (Tag.ofStatement? [] statement.reverse).toList
  | l :: rest => do
    match l.kind with
    | .ending =>
      let tag := Tag.ofStatement? opened statement.reverse
      return tag.toList ++ (← tagsFrom fault opened [] rest)
    | .opening =>
      let tag := Tag.ofStatement? opened statement.reverse
      let name := (tag.map (·.name)).getD ""
      return tag.toList ++ (← tagsFrom fault (name :: opened) [] rest)
    | .closing =>
      if opened.isEmpty then throw (.unopened l.line)
      let tag := Tag.ofStatement? opened statement.reverse
      return tag.toList ++ (← tagsFrom fault opened.tail [] rest)
    | _ => tagsFrom fault opened (l :: statement) rest

/-- The tags of a text, in the order in which they begin. -/
def readTags (text : List Char) : Except Fault (List Tag) :=
  let (found, fault) := lexemes 1 text
  tagsFrom fault [] [] found

end DubCheck.Sdl
