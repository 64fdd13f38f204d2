import DubCheck.Recipe.OfTags
import DubCheck.Proofs.Sdl.Forest
/-!
# Outlines of recipes

An `Outline` is what a recipe says, apart from the way in which it is written down.  A document says
it with the members of objects (`Outline.GivenBy`), and a tag document with a list of statements
(`Outline.StatedBy`), in which the statements of one kind keep their order and are otherwise mixed
in any way.  `Outline.document` and `Outline.statements` are one document and one list of statements
for every outline.

What reading gives is compared with `Recipe.Says`: what is asked of a package is what the recipe
itself asks, and otherwise what the first configuration asks that mentions the package.
-/

namespace DubCheck

/-- What is asked of a package that something depends on. -/
inductive Requirement where
  | any
  | version (text : String)
  | path (text : String)
  | repository (text : String)

namespace Requirement

/-- What a recipe keeps of it. -/
def text : Requirement → String
  | any => "*"
  | version text => text
  | path text => "path:" ++ text
  | repository text => text

/-- The key and the value that say it. -/
def attributes : Requirement → List (String × String)
  | any => []
  | version text => [("version", text)]
  | path text => [("path", text)]
  | repository text => [("repository", text)]

/-- The object that says it. -/
def document (q : Requirement) : Document :=
  .object (q.attributes.map fun a => (a.1, .string a.2))

/-- A document that says it.  A version may stand for itself. -/
inductive GivenBy : Requirement → Document → Prop where
  | object (q : Requirement) : GivenBy q q.document
  | text (v : String) : GivenBy (version v) (.string v)

end Requirement

/-- Packages that something depends on, each once, with what is asked of them. -/
structure Dependencies where
  entries : List (String × Requirement) := []
  distinct : (entries.map (·.1)).Nodup := by decide

/-- What a recipe says of a configuration. -/
structure Variant where
  name : String
  platforms : List String := []
  targetType : Option String := none
  dependencies : Dependencies := {}

/-- What a recipe says. -/
structure Outline where
  name : String
  targetType : Option String := none
  dependencies : Dependencies := {}
  configurations : List Variant := []
  buildTypes : List String := []
  distinct : buildTypes.Nodup := by decide

/-- A text that need not be there. -/
def optionalText (t : Option String) : Document :=
  (t.map .string).getD .null

/-- The configuration that a recipe keeps. -/
def Variant.configuration (v : Variant) : Configuration where
  name := .string v.name
  platforms := v.platforms.map .string
  targetType := optionalText v.targetType

/-- What is asked of a package.  The recipe itself comes before its configurations. -/
def Outline.asked? (o : Outline) (package : String) : Option Requirement :=
  (o.dependencies.entries ++ o.configurations.flatMap (·.dependencies.entries)).lookup package

/-- The recipe says what is in the outline. -/
structure Recipe.Says (r : Recipe) (o : Outline) : Prop where
  name : r.name = o.name
  targetType : r.targetType = optionalText o.targetType
  configurations : r.configurations = o.configurations.map (·.configuration)
  buildTypes : r.customBuildTypes = o.buildTypes
  dependencies : ∀ package, r.dependencies.lookup package = (o.asked? package).map (·.text)

/-! ## Documents -/

/-- An object that says what is asked of packages. -/
def Dependencies.GivenBy (ds : Dependencies) (d : Document) : Prop :=
  ∃ members, d = .object members ∧
    List.Forall₂ (fun e m => e.1 = m.1 ∧ e.2.GivenBy m.2) ds.entries members

/-- An object that says what there is to say of a configuration. -/
structure Variant.GivenBy (v : Variant) (members : List (String × Document)) : Prop where
  name : members.lookup "name" = some (.string v.name)
  platforms : (members.lookup "platforms").getD (.array []) = .array (v.platforms.map .string)
  targetType : (members.lookup "targetType").getD .null = optionalText v.targetType
  dependencies : v.dependencies.GivenBy ((members.lookup "dependencies").getD (.object []))

/-- An object that says all this.  What is in a build type does not matter. -/
structure Outline.GivenBy (o : Outline) (members : List (String × Document)) : Prop where
  name : members.lookup "name" = some (.string o.name)
  targetType : (members.lookup "targetType").getD .null = optionalText o.targetType
  dependencies : o.dependencies.GivenBy ((members.lookup "dependencies").getD (.object []))
  configurations : ∃ objects, (members.lookup "configurations").getD (.array []) =
    .array (objects.map .object) ∧ List.Forall₂ Variant.GivenBy o.configurations objects
  buildTypes : ∃ types, (members.lookup "buildTypes").getD (.object []) = .object types ∧
    types.map (·.1) = o.buildTypes

/-- One object for some packages. -/
def Dependencies.document (ds : Dependencies) : Document :=
  .object (ds.entries.map fun e => (e.1, e.2.document))

/-- The members of one object for a configuration. -/
def Variant.members (v : Variant) : List (String × Document) :=
  [("name", .string v.name), ("platforms", .array (v.platforms.map .string)),
    ("dependencies", v.dependencies.document)] ++
    v.targetType.toList.map fun t => ("targetType", .string t)

/-- The members of one object for a recipe. -/
def Outline.members (o : Outline) : List (String × Document) :=
  [("name", .string o.name), ("dependencies", o.dependencies.document),
    ("configurations", .array (o.configurations.map fun v => .object v.members)),
    ("buildTypes", .object (o.buildTypes.map fun t => (t, .object [])))] ++
    o.targetType.toList.map fun t => ("targetType", .string t)

lemma Dependencies.givenBy_document (ds : Dependencies) : ds.GivenBy ds.document :=
  ⟨_, rfl, List.forall₂_map_right_iff.mpr
    (List.forall₂_same.mpr fun e _ => ⟨rfl, .object e.2⟩)⟩

lemma Variant.givenBy_members (v : Variant) : v.GivenBy v.members where
  name := rfl
  platforms := rfl
  targetType := by cases v with | mk _ _ targetType => cases targetType <;> rfl
  dependencies := v.dependencies.givenBy_document

lemma Outline.givenBy_members (o : Outline) : o.GivenBy o.members where
  name := rfl
  targetType := by cases o with | mk _ targetType => cases targetType <;> rfl
  dependencies := o.dependencies.givenBy_document
  configurations := by
    refine ⟨o.configurations.map Variant.members, by rw [List.map_map]; rfl, ?_⟩
    exact List.forall₂_map_right_iff.mpr (List.forall₂_same.mpr fun v _ => v.givenBy_members)
  buildTypes := by
    refine ⟨o.buildTypes.map fun t => (t, .object []), rfl, ?_⟩
    rw [List.map_map]
    exact List.map_id _

/-! ## Statements -/

/-- A statement in the block of a configuration. -/
inductive Detail where
  | platforms (specifications : List String)
  | targetType (text : String)
  | dependency (package : String) (asked : Requirement)

/-- A statement at the top.  Configurations and build types may have a block. -/
inductive Statement where
  | name (text : String)
  | targetType (text : String)
  | dependency (package : String) (asked : Requirement)
  | configuration (name : String) (details : Option (List Detail))
  | buildType (name : String) (block : Option Sdl.Forest)

namespace Detail

def platforms? : Detail → List String
  | .platforms specifications => specifications
  | _ => []

def targetType? : Detail → Option String
  | .targetType text => some text
  | _ => none

def dependency? : Detail → Option (String × Requirement)
  | .dependency package asked => some (package, asked)
  | _ => none

end Detail

namespace Statement

def name? : Statement → Option String
  | .name text => some text
  | _ => none

def targetType? : Statement → Option String
  | .targetType text => some text
  | _ => none

def dependency? : Statement → Option (String × Requirement)
  | .dependency package asked => some (package, asked)
  | _ => none

def configuration? : Statement → Option (String × List Detail)
  | .configuration c details => some (c, details.getD [])
  | _ => none

def buildType? : Statement → Option String
  | .buildType t _ => some t
  | _ => none

end Statement

/-- The statements in the block of a configuration with this name say all there is to say of it.
The platforms may be spread over several statements. -/
structure Variant.StatedBy (v : Variant) (c : String × List Detail) : Prop where
  name : c.1 = v.name
  platforms : c.2.flatMap Detail.platforms? = v.platforms
  targetType : c.2.filterMap Detail.targetType? = v.targetType.toList
  dependencies : c.2.filterMap Detail.dependency? = v.dependencies.entries

/-- The statements say all this.  The order matters only within each kind. -/
structure Outline.StatedBy (o : Outline) (ss : List Statement) : Prop where
  name : ss.filterMap Statement.name? = [o.name]
  targetType : ss.filterMap Statement.targetType? = o.targetType.toList
  dependencies : ss.filterMap Statement.dependency? = o.dependencies.entries
  configurations :
    List.Forall₂ Variant.StatedBy o.configurations (ss.filterMap Statement.configuration?)
  buildTypes : ss.filterMap Statement.buildType? = o.buildTypes

/-- The dependencies of the recipe itself come before the configurations. -/
def DependenciesFirst (ss : List Statement) : Prop :=
  ∃ before after, ss = before ++ after ∧ before.filterMap Statement.configuration? = [] ∧
    after.filterMap Statement.dependency? = []

/-- Statements for a configuration. -/
def Variant.details (v : Variant) : List Detail :=
  .platforms v.platforms :: (v.targetType.toList.map .targetType ++
    v.dependencies.entries.map fun e => .dependency e.1 e.2)

/-- Statements for what a recipe says about the package. -/
def Outline.ownStatements (o : Outline) : List Statement :=
  .name o.name :: (o.targetType.toList.map .targetType ++
    o.dependencies.entries.map fun e => .dependency e.1 e.2)

/-- Statements for the ways in which the package can be built. -/
def Outline.buildStatements (o : Outline) : List Statement :=
  o.configurations.map (fun v => .configuration v.name (some v.details)) ++
    o.buildTypes.map fun t => .buildType t none

/-- Statements for a recipe. -/
def Outline.statements (o : Outline) : List Statement :=
  o.ownStatements ++ o.buildStatements

lemma Variant.statedBy_details (v : Variant) : v.StatedBy (v.name, v.details) where
  name := rfl
  platforms := by simp [details, List.flatMap_append, List.flatMap_map, Detail.platforms?]
  targetType := by
    simp [details, List.filterMap_cons, List.filterMap_append, List.filterMap_map,
      Detail.targetType?, Function.comp_def]
  dependencies := by
    simp [details, List.filterMap_cons, List.filterMap_append, List.filterMap_map,
      Detail.dependency?, Function.comp_def]

section

-- What statements of each kind give when those of one kind are looked for.
attribute [local simp] Outline.statements Outline.ownStatements Outline.buildStatements
  List.filterMap_cons List.filterMap_append List.filterMap_map Function.comp_def

lemma Outline.statedBy_statements (o : Outline) : o.StatedBy o.statements where
  name := by simp [Statement.name?]
  targetType := by simp [Statement.targetType?]
  dependencies := by simp [Statement.dependency?]
  configurations := by
    simp [Statement.configuration?, List.forall₂_map_right_iff, Variant.statedBy_details]
  buildTypes := by simp [Statement.buildType?]

lemma Outline.dependenciesFirst_statements (o : Outline) : DependenciesFirst o.statements :=
  ⟨o.ownStatements, o.buildStatements, rfl, by simp [Statement.configuration?],
    by simp [Statement.dependency?]⟩

end

/-! ## Tag documents -/

open Sdl (Forest Head IsWord)

/-- The words that are used in tag documents. -/
def words : List String :=
  ["name", "targetType", "dependency", "configuration", "buildType", "platforms", "version", "path",
    "repository"]

lemma isWord_of_mem_words {w : String} (h : w ∈ words) : IsWord w := by
  simp only [words, List.mem_cons, List.not_mem_nil, or_false] at h
  rcases h with rfl | rfl | rfl | rfl | rfl | rfl | rfl | rfl | rfl <;>
    exact ⟨by decide, by simp [Text.isBlank], by decide⟩

/-- A statement with values and no attributes. -/
def plainHead (word : String) (h : word ∈ words) (values : List String) : Head where
  name := word
  values := values
  named := .inl (isWord_of_mem_words h)
  keys := Head.keys_nil
  distinct := List.nodup_nil

/-- A statement that a package is needed. -/
def dependencyHead (package : String) (asked : Requirement) : Head where
  name := "dependency"
  values := [package]
  attributes := asked.attributes
  named := .inl (isWord_of_mem_words (by decide))
  keys := by
    intro a ha
    refine isWord_of_mem_words ?_
    cases asked <;> simp_all [Requirement.attributes, words]
  distinct := by cases asked <;> simp [Requirement.attributes]

def Detail.head : Detail → Head
  | .platforms specifications => plainHead "platforms" (by decide) specifications
  | .targetType text => plainHead "targetType" (by decide) [text]
  | .dependency package asked => dependencyHead package asked

def Statement.head : Statement → Head
  | .name text => plainHead "name" (by decide) [text]
  | .targetType text => plainHead "targetType" (by decide) [text]
  | .dependency package asked => dependencyHead package asked
  | .configuration c _ => plainHead "configuration" (by decide) [c]
  | .buildType t _ => plainHead "buildType" (by decide) [t]

/-- The forest of some statements without blocks. -/
def detailForest : List Detail → Forest
  | [] => .nil
  | d :: ds => .leaf d.head (detailForest ds)

/-- The block of a statement, if it has one. -/
def Statement.block? : Statement → Option Forest
  | .configuration _ details => details.map detailForest
  | .buildType _ block => block
  | _ => none

/-- The forest of some statements. -/
def statementForest : List Statement → Forest
  | [] => .nil
  | s :: ss =>
    match s.block? with
    | none => .leaf s.head (statementForest ss)
    | some inner => .block s.head inner (statementForest ss)

end DubCheck
