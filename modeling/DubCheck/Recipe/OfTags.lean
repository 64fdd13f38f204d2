import DubCheck.Recipe.OfDocument
import DubCheck.Sdl.Tag
/-!
# Recipes from tags

A recipe may be a tag document.  Its statements are read one after the other.  A statement at the
top that begins a configuration declares it, and what is said in a configuration block is about the
configuration declared last.
-/

namespace DubCheck.Recipe

/-- What is asked of the dependency that a tag declares. -/
def tagRequirement (t : Sdl.Tag) : String :=
  requirementOfMembers (t.attributes.map fun (key, value) => (key, .string value))

/-- Change the configuration declared last, if there is one. -/
def changeLatest (r : Recipe) (change : Configuration → Configuration) : Recipe :=
  match r.configurations.getLast? with
  | some c => { r with configurations := r.configurations.dropLast ++ [change c] }
  | none => r

/-- What a statement at the top says. -/
def addTopTag (r : Recipe) (t : Sdl.Tag) : Recipe :=
  match t.values with
  | [] => r
  | value :: _ =>
    match t.name with
    | "name" => { r with name := value }
    | "targetType" => { r with targetType := .string value }
    | "configuration" =>
      { r with configurations := r.configurations ++ [{ name := .string value }] }
    | "buildType" => { r with customBuildTypes := r.customBuildTypes ++ [value] }
    | "dependency" => r.addDependency value (tagRequirement t)
    | _ => r

/-- What a statement in a configuration block says, when a configuration has been declared. -/
def addConfigurationTag (r : Recipe) (t : Sdl.Tag) : Recipe :=
  match t.name, t.values with
  | "platforms", values =>
    r.changeLatest fun c => { c with platforms := c.platforms ++ values.map .string }
  | "targetType", value :: _ => r.changeLatest fun c => { c with targetType := .string value }
  | "dependency", value :: _ => r.addMissingDependency value (tagRequirement t)
  | _, _ => r

/-- What a statement says. -/
def addTag (r : Recipe) (t : Sdl.Tag) : Recipe :=
  if t.parents.isEmpty then r.addTopTag t
  else if t.parents = ["configuration"] && !r.configurations.isEmpty then r.addConfigurationTag t
  else r

/-- The recipe that some tags give, where `r` is an empty one. -/
def ofTags (r : Recipe) (tags : List Sdl.Tag) : Recipe :=
  tags.foldl addTag r

end DubCheck.Recipe
