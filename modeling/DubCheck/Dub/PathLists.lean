import DubCheck.Failure
import DubCheck.Text.Line
/-!
# Lists of paths

dub writes several lists of paths at once.  The paths of a list are separated by one null character
and the lists by two.  In a run of null characters, every two of them therefore end a list, and one
that is left over separates paths.  Empty paths are not seen.
-/

namespace DubCheck.Dub

/-- A part of the output: a path, or a run of null characters. -/
inductive Piece where
  /-- A path. -/
  | path (text : List Char)
  /-- A run of the given number of null characters. -/
  | nulls (count : Nat)
deriving DecidableEq, Repr

/-- Put a character in front of the pieces of a text. -/
def Piece.cons (c : Char) : List Piece → List Piece
  | .nulls n :: rest => if c = '\x00' then .nulls (n + 1) :: rest else .path [c] :: .nulls n :: rest
  | .path t :: rest => if c = '\x00' then .nulls 1 :: .path t :: rest else .path (c :: t) :: rest
  | [] => if c = '\x00' then [.nulls 1] else [.path [c]]

/-- The pieces of a text. -/
def piecesOf : List Char → List Piece
  | [] => []
  | c :: cs => Piece.cons c (piecesOf cs)

/-- Put a path in front of the first list. -/
def consPath (path : String) : List (List String) → List (List String)
  | [] => [[path]]
  | l :: ls => (path :: l) :: ls

/-- The lists that pieces form. -/
def listsOf : List Piece → List (List String)
  | [] => [[]]
  | .path t :: rest => consPath (String.ofList t) (listsOf rest)
  | .nulls n :: rest => List.replicate (n / 2) [] ++ listsOf rest

/-- The lists in some output, of which there should be `count`. -/
def splitLists (output : List Char) (count : Nat) : Except Failure (List (List String)) :=
  let lists := listsOf (piecesOf (Text.dropLineEnd output))
  if lists.length = count then .ok lists else .error (.describe (.listCount count lists.length))

end DubCheck.Dub
