import DubCheck.Host.Path
import DubCheck.Host.SystemFault
/-!
# File trees

A `FileTree` is the state of a file system: files and directories in the directories around them.
There are no symbolic links, so that each file has one location and a path can be resolved without
looking at the file system.
A path leads somewhere only if every part of it but the last is a directory, and this also holds
for the directories that a later `..` leaves again.  Paths and the names in them must not be too
long, and what is wrong first on the way decides how the system refuses to follow a path.

* `FileTree.nodeAt?` and `FileTree.alter` read and change what there is at a location.
* `FileTree.walk` follows the parts of a path and keeps the `Trail` of what it has come through.
* `FileTree.status` tells what a path leads to, or why it leads nowhere.
-/

namespace DubCheck

/-- What there can be at a location. -/
inductive FileNode where
  /-- A directory with what is in it under each name; each name comes once. -/
  | directory (entries : List (String × FileNode))
  /-- A file with its bytes, which may be a program. -/
  | file (bytes : List UInt8) (executable : Bool)

namespace FileNode

/-- What is in a directory.  In a file there is nothing. -/
def entries : FileNode → List (String × FileNode)
  | .directory entries => entries
  | .file _ _ => []

/-- What there is at a location, seen from a directory. -/
def nodeAt? (n : FileNode) : Location → Option FileNode
  | [] => some n
  | name :: rest => (n.entries.lookup name).bind (·.nodeAt? rest)

/-- The entries of a directory when what has the given name is changed.  What is changed to nothing
is removed, and what is new comes last. -/
def alterEntry (name : String) (change : Option FileNode → Option FileNode) :
    List (String × FileNode) → List (String × FileNode)
  | [] => ((change none).map (name, ·)).toList
  | (other, n) :: rest =>
    if other = name then ((change (some n)).map (name, ·)).toList ++ rest
    else (other, n) :: alterEntry name change rest

/-- Change what there is at a location, seen from a directory.  What is on the way becomes a
directory if it is not one. -/
def alter (change : Option FileNode → Option FileNode) :
    Location → Option FileNode → Option FileNode
  | [], n => change n
  | name :: rest, n =>
    some (.directory (alterEntry name (alter change rest) ((n.map entries).getD [])))

end FileNode

/-- What there is in the root directory of a file system. -/
structure FileTree where
  /-- What is in the root directory under each name; each name comes once. -/
  entries : List (String × FileNode) := []

/-- A way through a file system: the names that were followed, the last one first, each with what
there is under it. -/
abbrev Trail := List (String × Option FileNode)

namespace FileTree

/-- The root directory. -/
def root (t : FileTree) : FileNode :=
  .directory t.entries

/-- What there is at a location. -/
def nodeAt? (t : FileTree) (l : Location) : Option FileNode :=
  t.root.nodeAt? l

/-- Change what there is at a location, and make the directories around it.  The root stays. -/
def alter (t : FileTree) (change : Option FileNode → Option FileNode) : Location → FileTree
  | [] => t
  | name :: rest => ⟨FileNode.alterEntry name (FileNode.alter change rest) t.entries⟩

/-- Put something at a location, in the place of what was there. -/
def put (t : FileTree) (l : Location) (n : FileNode) : FileTree :=
  t.alter (fun _ => some n) l

/-- Make a directory, unless there is one, and all directories around it. -/
def makeDirectory (t : FileTree) (l : Location) : FileTree :=
  t.alter (fun n => some (.directory ((n.map FileNode.entries).getD []))) l

/-- Write a file, and make the directories around it. -/
def write (t : FileTree) (l : Location) (bytes : List UInt8) (executable : Bool) : FileTree :=
  t.put l (.file bytes executable)

/-- How many bytes a name may have. -/
def maxNameSize : Nat := 255

/-- How many bytes a path may have. -/
def maxPathSize : Nat := 4095

/-- What there is at the end of a trail. -/
def endOf (t : FileTree) : Trail → Option FileNode
  | [] => some t.root
  | (_, n) :: _ => n

/-- The trail with another name, looked up where it ends. -/
def extend (t : FileTree) (trail : Trail) (name : String) : Trail :=
  (name, (t.endOf trail).bind (·.entries.lookup name)) :: trail

/-- The trail from the root to a location. -/
def trailTo (t : FileTree) (l : Location) : Trail :=
  l.foldl t.extend []

/-- The location that a trail leads to. -/
def locationOf (trail : Trail) : Location :=
  (trail.map (·.1)).reverse

/-- The trail on which parts lead on, if all directories on the way are there. -/
def walk (t : FileTree) (trail : Trail) : List String → Except SystemFault Trail
  | [] => .ok trail
  | part :: rest =>
    match t.endOf trail with
    | none => .error .absent
    | some (.file _ _) => .error .notDirectory
    | some (.directory _) =>
      if part.utf8ByteSize > maxNameSize then .error .nameTooLong
      else t.walk (if part = ".." then trail.tail else t.extend trail part) rest

/-- The trail on which a path leads from a directory.  There need not be anything at its end. -/
def follow (t : FileTree) (directory : Location) (p : Path) : Except SystemFault Trail :=
  if p.hasNul then .error .absent
  else if p.text.utf8ByteSize > maxPathSize then .error .nameTooLong
  else t.walk (if p.isAbsolute then [] else t.trailTo directory) p.parts

/-- What a path leads to from a directory, or why it leads nowhere. -/
def status (t : FileTree) (directory : Location) (p : Path) : Except SystemFault FileNode := do
  match t.endOf (← t.follow directory p) with
  | some node => return node
  | none => throw .absent

/-- What a path leads to from a directory. -/
def find? (t : FileTree) (directory : Location) (p : Path) : Option FileNode :=
  (t.status directory p).toOption

/-- What a path leads to from a directory.  That it leads nowhere is an answer too, but a path that
is too long is refused. -/
def look (t : FileTree) (directory : Location) (p : Path) :
    Except SystemFault (Option FileNode) :=
  match t.status directory p with
  | .ok node => .ok (some node)
  | .error .nameTooLong => .error .nameTooLong
  | .error _ => .ok none

/-- The tree with a directory more, which a path leads to.  The directory around it must be
there. -/
def withDirectory (t : FileTree) (directory : Location) (p : Path) :
    Except SystemFault FileTree := do
  let trail ← t.follow directory p
  if (t.endOf trail).isSome then throw .taken
  return t.put (locationOf trail) (.directory [])

/-- The tree with an empty file that a path leads to, unless there is a file already. -/
def withFile (t : FileTree) (directory : Location) (p : Path) : Except SystemFault FileTree := do
  let trail ← t.follow directory p
  match t.endOf trail with
  | some (.directory _) => throw .isDirectory
  | some (.file _ _) => return t
  | none => return t.put (locationOf trail) (.file [] false)

/-- Whether a path leads to a program. -/
def isProgram (t : FileTree) (directory : Location) (p : Path) : Bool :=
  match t.find? directory p with
  | some (.file _ executable) => executable
  | _ => false

/-- Whether a path leads to a directory. -/
def isDirectory (t : FileTree) (directory : Location) (p : Path) : Bool :=
  t.find? directory p matches some (.directory _)

/-- The bytes of the file that a path leads to. -/
def bytes? (t : FileTree) (directory : Location) (p : Path) : Option (List UInt8) :=
  match t.find? directory p with
  | some (.file bytes _) => some bytes
  | _ => none

end FileTree

end DubCheck
