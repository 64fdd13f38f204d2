import DubCheck.Recipe.OfTags
import DubCheck.Text.Line
/-!
# Loading recipes

The recipe of a package is in the first of three files of its directory that is there.  It is
read as UTF-8 text, whose line ends may be written in any of the three ways.
-/

namespace DubCheck.Recipe

/-- The files that may hold a recipe, and whether they hold tags. -/
def fileNames : List String :=
  ["dub.json", "dub.sdl", "package.json"]

/-- The file in a directory that holds the recipe. -/
def locate (h : Host) (directory : Path) : Except Failure (Option Path) :=
  (fileNames.map fun name => directory.join (Path.ofText name)).findM? h.lookForFile

/-- The text of bytes in UTF-8, with newlines for all line ends. -/
def textOfBytes (bytes : List UInt8) : Except Failure (List Char) :=
  ((Text.Utf8.decode bytes).map Text.translateNewlines).mapError .encoding

/-- The recipe that the text of a file gives, where `r` is an empty one. -/
def ofText (r : Recipe) (text : List Char) : Except Failure Recipe :=
  if r.file.name.endsWith ".sdl" then
    ((Sdl.readTags text).map r.ofTags).mapError fun e => .recipe (.sdl r.file.text e)
  else do
    let d ← (Document.read text).mapError
      (Failure.ofReading text fun m => .recipe (.malformed r.file.text m))
    r.ofDocument d

/-- The recipe of the package in a directory. -/
def load (h : Host) (directory : Path) : Except Failure Recipe := do
  match ← locate h directory with
  | none => throw (.recipe (.absent directory.text fileNames))
  | some file =>
    let text ← textOfBytes ((h.files.bytes? h.directory file).getD [])
    ofText { directory := directory, file := file } text

end DubCheck.Recipe
