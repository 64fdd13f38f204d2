import DubCheck.Recipe.OfTags
import DubCheck.Proofs.Recipe.Outline
/-!
# Entering the statements of a recipe

However a recipe is written, reading it comes down to entering statements in an empty one.  What has
been entered in the end does not depend on how statements of different kinds are mixed, although
what the recipe itself asks of a package may come after what a configuration asks.

* `Statement.enter`: what a statement changes.
* `lookup_foldl_enter`: what is asked of a package after some statements.
* `says_of_statedBy`: statements for an outline give a recipe that says what is in it.
* `dependencies_of_dependenciesFirst`: the order of the dependencies, when those of the recipe
  itself come first.
-/

namespace DubCheck

/-! ## Entering statements -/

/-- Put in what the configurations of a recipe depend on. -/
def Recipe.addMissing (r : Recipe) (ds : List (String × Requirement)) : Recipe :=
  ds.foldl (fun r d => r.addMissingDependency d.1 d.2.text) r

/-- The configuration that is declared by its name and the statements in its block. -/
def declared (c : String × List Detail) : Configuration where
  name := .string c.1
  platforms := (c.2.flatMap Detail.platforms?).map .string
  targetType := optionalText (c.2.filterMap Detail.targetType?).getLast?

/-- What a statement changes in a recipe. -/
def Statement.enter (r : Recipe) : Statement → Recipe
  | .name text => { r with name := text }
  | .targetType text => { r with targetType := .string text }
  | .dependency package asked => r.addDependency package asked.text
  | .configuration c details =>
    { r with configurations := r.configurations ++ [declared (c, details.getD [])] }.addMissing
      ((details.getD []).filterMap Detail.dependency?)
  | .buildType t _ => { r with customBuildTypes := r.customBuildTypes ++ [t] }

namespace Recipe

variable {r : Recipe}

lemma addMissingDependency_eq (package asked : String) :
    r.addMissingDependency package asked =
      { r with dependencies := (r.addMissingDependency package asked).dependencies } := by
  rw [addMissingDependency]
  split <;> rfl

lemma addMissing_eq (ds : List (String × Requirement)) :
    r.addMissing ds = { r with dependencies := (r.addMissing ds).dependencies } := by
  induction ds generalizing r with
  | nil => rfl
  | cons d ds ih =>
    have hstep : r.addMissing (d :: ds) =
        (r.addMissingDependency d.1 d.2.text).addMissing ds := rfl
    rw [hstep, ih, addMissingDependency_eq]

lemma lookup_addMissing (ds : List (String × Requirement)) (package : String) :
    (r.addMissing ds).dependencies.lookup package =
      (r.dependencies.lookup package).or ((ds.lookup package).map (·.text)) := by
  induction ds generalizing r with
  | nil => simp [addMissing]
  | cons d ds ih =>
    obtain ⟨name, asked⟩ := d
    have hstep : r.addMissing ((name, asked) :: ds) =
        (r.addMissingDependency name asked.text).addMissing ds := rfl
    rw [hstep, ih, lookup_cons_eq, addMissingDependency]
    by_cases hname : package = name
    · subst hname
      cases h : r.dependencies.lookup package with
      | some text => simp [h]
      | none => simp [addDependency, lookup_insertPair]
    · rw [if_neg hname]
      split
      · rfl
      · rw [addDependency, lookup_insertPair, if_neg hname]

/-! ## What has been entered -/

variable (ss : List Statement)

lemma name_foldl_enter :
    (ss.foldl Statement.enter r).name = (ss.filterMap Statement.name?).getLast?.getD r.name := by
  induction ss generalizing r with
  | nil => rfl
  | cons s ss ih =>
    rw [List.foldl_cons, ih]
    cases s with
    | name text => simp [Statement.enter, Statement.name?, List.getLast?_cons]
    | configuration c details =>
      rw [Statement.enter, addMissing_eq]
      rfl
    | _ => rfl

lemma targetType_foldl_enter :
    (ss.foldl Statement.enter r).targetType =
      ((ss.filterMap Statement.targetType?).getLast?.map .string).getD r.targetType := by
  induction ss generalizing r with
  | nil => rfl
  | cons s ss ih =>
    rw [List.foldl_cons, ih]
    cases s with
    | targetType text =>
      have hkinds : (Statement.targetType text :: ss).filterMap Statement.targetType? =
          text :: ss.filterMap Statement.targetType? := rfl
      rw [hkinds, List.getLast?_cons]
      cases (ss.filterMap Statement.targetType?).getLast? <;> rfl
    | configuration c details =>
      rw [Statement.enter, addMissing_eq]
      rfl
    | _ => rfl

lemma configurations_foldl_enter :
    (ss.foldl Statement.enter r).configurations =
      r.configurations ++ (ss.filterMap Statement.configuration?).map declared := by
  induction ss generalizing r with
  | nil => exact (List.append_nil _).symm
  | cons s ss ih =>
    rw [List.foldl_cons, ih]
    cases s with
    | configuration c details =>
      have hkinds : (Statement.configuration c details :: ss).filterMap Statement.configuration? =
          (c, details.getD []) :: ss.filterMap Statement.configuration? := rfl
      rw [Statement.enter, addMissing_eq, hkinds, List.map_cons]
      exact List.append_assoc _ [_] _
    | _ => rfl

lemma customBuildTypes_foldl_enter :
    (ss.foldl Statement.enter r).customBuildTypes =
      r.customBuildTypes ++ ss.filterMap Statement.buildType? := by
  induction ss generalizing r with
  | nil => exact (List.append_nil _).symm
  | cons s ss ih =>
    rw [List.foldl_cons, ih]
    cases s with
    | buildType t block => simp [Statement.enter, Statement.buildType?]
    | configuration c details =>
      rw [Statement.enter, addMissing_eq]
      rfl
    | _ => rfl

/-- What the recipe itself asks of a package comes first, then what was there, and then what the
configurations ask. -/
lemma lookup_foldl_enter (package : String)
    (h : ((ss.filterMap Statement.dependency?).map (·.1)).Nodup) :
    (ss.foldl Statement.enter r).dependencies.lookup package =
      (((ss.filterMap Statement.dependency?).lookup package).map (·.text)).or
        ((r.dependencies.lookup package).or ((((ss.filterMap Statement.configuration?).flatMap
          fun c => c.2.filterMap Detail.dependency?).lookup package).map (·.text))) := by
  induction ss generalizing r with
  | nil => simp
  | cons s ss ih =>
    rw [List.foldl_cons]
    cases s with
    | dependency name asked =>
      have hkinds : (Statement.dependency name asked :: ss).filterMap Statement.dependency? =
          (name, asked) :: ss.filterMap Statement.dependency? := rfl
      have hothers : (Statement.dependency name asked :: ss).filterMap Statement.configuration? =
          ss.filterMap Statement.configuration? := rfl
      rw [hkinds, List.map_cons, List.nodup_cons] at h
      rw [ih h.2, hkinds, hothers, lookup_cons_eq, Statement.enter, addDependency,
        lookup_insertPair]
      by_cases hname : package = name
      · subst hname
        rw [lookup_eq_none_of_not_mem h.1]
        simp
      · rw [if_neg hname, if_neg hname]
    | configuration c details =>
      rw [ih h, Statement.enter, lookup_addMissing]
      simp [List.filterMap_cons, Statement.configuration?, Statement.dependency?,
        List.lookup_append, Option.or_assoc, Option.map_or]
    | _ => exact ih h

/-! ## The order of statements -/

lemma declared_of_statedBy {v : Variant} {c : String × List Detail} (h : v.StatedBy c) :
    declared c = v.configuration := by
  rw [declared, h.name, h.platforms, h.targetType]
  cases hv : v.targetType <;> simp [Variant.configuration, optionalText, hv]

lemma map_declared_of_statedBy {vs : List Variant} {cs : List (String × List Detail)}
    (h : List.Forall₂ Variant.StatedBy vs cs) :
    cs.map declared = vs.map (·.configuration) := by
  induction h with
  | nil => rfl
  | cons hv _ ih => rw [List.map_cons, List.map_cons, declared_of_statedBy hv, ih]

lemma flatMap_dependencies_of_statedBy {vs : List Variant} {cs : List (String × List Detail)}
    (h : List.Forall₂ Variant.StatedBy vs cs) :
    (cs.flatMap fun c => c.2.filterMap Detail.dependency?) =
      vs.flatMap (·.dependencies.entries) := by
  induction h with
  | nil => rfl
  | cons hv _ ih => rw [List.flatMap_cons, List.flatMap_cons, hv.dependencies, ih]

/-- When the statements have been entered in a recipe that says nothing, it says what they say,
however statements of different kinds are mixed. -/
lemma says_of_statedBy {o : Outline} {ss : List Statement} (h : o.StatedBy ss)
    (directory file : Path) :
    (ss.foldl Statement.enter { directory := directory, file := file }).Says o where
  name := by rw [name_foldl_enter, h.name]; rfl
  targetType := by
    rw [targetType_foldl_enter, h.targetType]
    cases o.targetType <;> rfl
  configurations := by
    rw [configurations_foldl_enter, map_declared_of_statedBy h.configurations, List.nil_append]
  buildTypes := by rw [customBuildTypes_foldl_enter, h.buildTypes, List.nil_append]
  dependencies := by
    intro package
    have hdistinct : ((ss.filterMap Statement.dependency?).map (·.1)).Nodup := by
      rw [h.dependencies]
      exact o.dependencies.distinct
    rw [lookup_foldl_enter ss package hdistinct, h.dependencies,
      flatMap_dependencies_of_statedBy h.configurations, Outline.asked?, List.lookup_append]
    simp [Option.map_or]

/-- Put in what a configuration asks of a package, unless something is asked of it already. -/
def insertMissing (found : List (String × String)) (e : String × Requirement) :
    List (String × String) :=
  if (found.lookup e.1).isSome then found else insertPair e.1 e.2.text found

/-- The dependencies of a recipe in which those of the recipe itself come first. -/
def orderedDependencies (own fromConfigurations : List (String × Requirement)) :
    List (String × String) :=
  fromConfigurations.foldl insertMissing
    (own.foldl (fun found e => insertPair e.1 e.2.text found) [])

lemma dependencies_addMissing (ds : List (String × Requirement)) :
    (r.addMissing ds).dependencies = ds.foldl insertMissing r.dependencies := by
  induction ds generalizing r with
  | nil => rfl
  | cons d ds ih =>
    have hstep : r.addMissing (d :: ds) =
        (r.addMissingDependency d.1 d.2.text).addMissing ds := rfl
    rw [hstep, ih, List.foldl_cons, addMissingDependency, insertMissing]
    split <;> rfl

lemma dependencies_foldl_enter_of_no_configuration
    (h : ss.filterMap Statement.configuration? = []) :
    (ss.foldl Statement.enter r).dependencies = (ss.filterMap Statement.dependency?).foldl
      (fun found e => insertPair e.1 e.2.text found) r.dependencies := by
  induction ss generalizing r with
  | nil => rfl
  | cons s ss ih =>
    rw [List.foldl_cons]
    cases s with
    | configuration c details => cases h
    | _ => exact ih h

lemma dependencies_foldl_enter_of_no_dependency
    (h : ss.filterMap Statement.dependency? = []) :
    (ss.foldl Statement.enter r).dependencies = ((ss.filterMap Statement.configuration?).flatMap
      fun c => c.2.filterMap Detail.dependency?).foldl insertMissing r.dependencies := by
  induction ss generalizing r with
  | nil => rfl
  | cons s ss ih =>
    rw [List.foldl_cons]
    cases s with
    | dependency package asked => cases h
    | configuration c details =>
      have hkinds : (Statement.configuration c details :: ss).filterMap Statement.configuration? =
          (c, details.getD []) :: ss.filterMap Statement.configuration? := rfl
      rw [ih h, Statement.enter, dependencies_addMissing, hkinds, List.flatMap_cons,
        List.foldl_append]
    | _ => exact ih h

lemma dependencies_of_dependenciesFirst {o : Outline} {ss : List Statement} (h : o.StatedBy ss)
    (hfirst : DependenciesFirst ss) (directory file : Path) :
    (ss.foldl Statement.enter { directory := directory, file := file }).dependencies =
      orderedDependencies o.dependencies.entries
        (o.configurations.flatMap (·.dependencies.entries)) := by
  obtain ⟨before, after, rfl, hbefore, hafter⟩ := hfirst
  have hown := h.dependencies
  have hblocks := flatMap_dependencies_of_statedBy h.configurations
  rw [List.filterMap_append, hafter, List.append_nil] at hown
  rw [List.filterMap_append, hbefore, List.nil_append] at hblocks
  rw [List.foldl_append, dependencies_foldl_enter_of_no_dependency after hafter,
    dependencies_foldl_enter_of_no_configuration before hbefore, hown, hblocks]
  rfl

end Recipe

end DubCheck
