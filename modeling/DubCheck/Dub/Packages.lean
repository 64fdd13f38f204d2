import DubCheck.Document.Writer
import DubCheck.Failure
/-!
# The packages of a project

A description of a project lists all packages that take part in it.  The package of the project
itself is left out, and the packages that a package depends on are given with the versions they
have in the list.  Names, versions and the other members may be documents of any kind; names have to
be such that they can be looked up.  A package is handed on as a document, which must not be nested
too deep.
-/

namespace DubCheck.Dub

/-- A package that takes part in a project. -/
structure Package where
  /-- Its name. -/
  name : Document
  /-- Its version. -/
  version : Document
  /-- Its directory. -/
  path : Document
  /-- What it is for. -/
  description : Document
  /-- Its web page. -/
  homepage : Document
  /-- Who wrote it. -/
  authors : List Document
  /-- Who owns it. -/
  copyright : Document
  /-- Under which terms it may be used. -/
  license : Document
  /-- The packages it depends on, with their versions. -/
  dependencies : List (Document × Document)

/-- The document that a package is exchanged as. -/
def Package.toDocument (p : Package) : Document :=
  .object [("name", p.name), ("ver", p.version), ("path", p.path), ("description", p.description),
    ("homepage", p.homepage), ("authors", .array p.authors), ("copyright", p.copyright),
    ("license", p.license),
    ("dependencies", .object (p.dependencies.map fun (k, v) => (k.keyText, v)))]

/-- How many containers there may be around a value in the document of a package. -/
def maxPackageDepth : Nat := 495

/-- The document that a package is handed on as, unless it is nested too deep. -/
def Package.handOn (p : Package) : Except Failure Document :=
  if p.toDocument.depth > maxPackageDepth then .error .overlyNested else .ok p.toDocument

/-- The value under a key that may be any document. -/
def lookUp (key : Document) (table : List (Document × Document)) : Option Document :=
  (table.find? fun entry => entry.1.same key).map (·.2)

/-- Put a value under a key that may be any document; a key that is there keeps its place. -/
def enter (key value : Document) : List (Document × Document) → List (Document × Document)
  | [] => [(key, value)]
  | (k, v) :: rest => if k.same key then (k, value) :: rest else (k, v) :: enter key value rest

/-- The versions of packages by their names. -/
def versionsOf (packages : List Document) : Except ShapeError (List (Document × Document)) :=
  packages.foldlM (fun table p => do
    let name ← p.getD "name" .null
    let version ← p.getD "version" (.string "")
    return enter (← name.hashable) version table) []

/-- The dependencies that a package names, with their versions. -/
def withVersions (versions : List (Document × Document)) (names : List Document) :
    Except ShapeError (List (Document × Document)) :=
  names.foldlM (fun table name => do
    let name ← name.hashable
    return enter name ((lookUp name versions).getD (.string "")) table) []

/-- The package that a document describes. -/
def Package.ofDocument (versions : List (Document × Document)) (d : Document) :
    Except ShapeError Package := do
  let text (key : String) : Except ShapeError Document := d.getD key (.string "")
  return {
    name := ← text "name"
    version := ← text "version"
    path := ← text "path"
    description := ← text "description"
    homepage := ← text "homepage"
    authors := ← (← d.getD "authors" (.array [])).items
    copyright := ← text "copyright"
    license := ← text "license"
    dependencies := ← withVersions versions (← (← d.getD "dependencies" (.array [])).items) }

/-- The packages in the description of a project besides that of the project itself. -/
def packagesOf (description : Document) : Except Failure (List Package) :=
  Except.mapError .shape do
    let root ← description.getD "rootPackage" .null
    let packages ← (← description.getD "packages" (.array [])).items
    let versions ← versionsOf packages
    let others ← packages.filterM fun p => do return !(← p.getD "name" .null).equals root
    others.mapM (Package.ofDocument versions)

end DubCheck.Dub
