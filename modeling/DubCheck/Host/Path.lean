import DubCheck.Text.Search
/-!
# Paths

A `Path` is the text of a path in a normal form: empty parts and parts `.` are dropped, while `..`
is kept, because what it means depends on the directories that are there.  A path that begins with
exactly two slashes keeps both.

A `Location` is a place in the file system: the names that lead to it from the root.
-/

namespace DubCheck

/-- The names that lead from the root of the file system to a place. -/
abbrev Location := List String

/-- The text of a location. -/
def Location.text (l : Location) : String :=
  "/" ++ "/".intercalate l

/-- How a path begins. -/
inductive PathRoot where
  /-- At the working directory. -/
  | relative
  /-- At the root. -/
  | slash
  /-- At the root, written with two slashes. -/
  | twoSlashes
deriving DecidableEq, Repr

/-- How the beginning of a path is written. -/
def PathRoot.text : PathRoot → String
  | .relative => ""
  | .slash => "/"
  | .twoSlashes => "//"

/-- A path in normal form. -/
structure Path where
  /-- How it begins. -/
  root : PathRoot
  /-- Its parts, none of which is empty, `.` or holds a slash. -/
  parts : List String
deriving DecidableEq, Repr

namespace Path

/-- How the text of a path begins. -/
def rootOf : List Char → PathRoot
  | '/' :: '/' :: '/' :: _ => .slash
  | '/' :: '/' :: _ => .twoSlashes
  | '/' :: _ => .slash
  | _ => .relative

/-- The parts of the text of a path. -/
def partsOf (cs : List Char) : List String :=
  ((Text.splitOn '/' cs).map String.ofList).filter fun p => !(p == "" || p == ".")

/-- The path that a text denotes. -/
def ofText (s : String) : Path :=
  ⟨rootOf s.toList, partsOf s.toList⟩

/-- The text of a path. -/
def text (p : Path) : String :=
  let t := p.root.text ++ "/".intercalate p.parts
  if t.isEmpty then "." else t

/-- The path of a location. -/
def ofLocation (l : Location) : Path :=
  ⟨.slash, l⟩

/-- The path that `q` denotes in the directory `p`. -/
def join (p q : Path) : Path :=
  match q.root with
  | .relative => ⟨p.root, p.parts ++ q.parts⟩
  | _ => q

/-- The last part of a path, or an empty name. -/
def name (p : Path) : String :=
  p.parts.getLast?.getD ""

/-- Whether a path does not depend on the working directory. -/
def isAbsolute (p : Path) : Bool :=
  p.root != .relative

/-- The path without its last part: that of the directory around it. -/
def parent (p : Path) : Path :=
  { p with parts := p.parts.dropLast }

/-- Whether a path has a character that no name may have. -/
def hasNul (p : Path) : Bool :=
  p.parts.any (·.contains '\x00')

/-- The location that parts lead to from another one, where `..` takes the last name away. -/
def follow (start : Location) (parts : List String) : Location :=
  parts.foldl (fun l part => if part = ".." then l.dropLast else l ++ [part]) start

/-- The location of a path, read from the given directory.  The file system is not looked at. -/
def resolve (directory : Location) (p : Path) : Location :=
  follow (if p.isAbsolute then [] else directory) p.parts

/-- A path that does not depend on the working directory, which is given, and has no `..` in it.
The file system is not looked at. -/
def absolute (directory : Location) (p : Path) : Path :=
  ⟨if p.isAbsolute then p.root else .slash, p.resolve directory⟩

end Path

end DubCheck
