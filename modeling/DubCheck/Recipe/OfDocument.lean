import DubCheck.Recipe.Basic
import DubCheck.Document.Display
/-!
# Recipes from documents

A recipe may be an object with the members `name`, `targetType`, `dependencies`, `configurations`
and `buildTypes`, all of which may be left out.  What is asked of a dependency is a text, or an
object that gives a version, a path or a repository.  Dependencies of the package itself come
before those of its configurations.
-/

namespace DubCheck.Recipe

/-- What is asked of a dependency that has the given members. -/
def requirementOfMembers (members : List (String × Document)) : String :=
  match members.lookup "version", members.lookup "path", members.lookup "repository" with
  | some version, _, _ => version.display
  | none, some path, _ => "path:" ++ path.display
  | none, none, some repository => repository.display
  | none, none, none => "*"

/-- What is asked of a dependency. -/
def requirement : Document → String
  | .string s => s
  | .object members => requirementOfMembers members
  | _ => "*"

/-- The dependencies that an object gives. -/
def dependenciesOf (d : Document) : Except Failure (List (String × String)) := do
  let given ← (d.getD "dependencies" (.object [])).mapError .shape
  let found ← (given.membersFor "items").mapError .shape
  return found.map fun (name, value) => (name, requirement value)

/-- Put in the configuration that a document gives. -/
def addConfiguration (r : Recipe) (d : Document) : Except Failure Recipe := do
  if !(← (d.holds "name").mapError .shape) then throw (.recipe (.unnamed r.file.text))
  let name ← (d.member "name").mapError .shape
  let platforms ← (do (← d.getD "platforms" (.array [])).items).mapError .shape
  let targetType ← (d.getD "targetType" .null).mapError .shape
  let r := { r with configurations := r.configurations ++ [⟨name, platforms, targetType⟩] }
  return (← dependenciesOf d).foldl (fun r (name, value) => r.addMissingDependency name value) r

/-- The recipe that a document gives, where `r` is an empty one. -/
def ofDocument (r : Recipe) (d : Document) : Except Failure Recipe := do
  if !d.isObject then throw (.recipe (.notObject r.file.text))
  let name := ((d.get? "name").getD (.string "")).display
  let targetType := (d.get? "targetType").getD .null
  let r := { r with name := name, targetType := targetType }
  let r := (← dependenciesOf d).foldl (fun r (name, value) => r.addDependency name value) r
  let configurations ← ((d.get? "configurations").getD (.array [])).items |>.mapError .shape
  let r ← configurations.foldlM addConfiguration r
  let types ← ((d.get? "buildTypes").getD (.object [])).membersFor "keys" |>.mapError .shape
  return { r with customBuildTypes := types.map (·.1) }

end DubCheck.Recipe
