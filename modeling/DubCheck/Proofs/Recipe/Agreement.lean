import DubCheck.Recipe.Load
import DubCheck.Proofs.Document.RoundTrip
import DubCheck.Proofs.Recipe.Entering
import DubCheck.Proofs.Text.Utf8
/-!
# The two formats of recipes agree

Documents and tag documents are read in different ways: the members of an object in a fixed order,
and statements as they come.  Both come down to entering statements one after the other.

* `ofDocument_of_givenBy`: a document is read as the statements of its outline in a fixed order.
* `ofTags_statementForest`: a tag document is read as its statements.
* `load_agree`: recipes that are loaded from the two formats say the same.
-/

namespace DubCheck.Recipe

open Sdl (Forest Head IsWord)

variable {r : Recipe}

/-! ## Reading documents -/

lemma requirementOfMembers_attributes (q : Requirement) :
    requirementOfMembers (q.attributes.map fun a => (a.1, .string a.2)) = q.text := by
  cases q <;> rfl

lemma requirement_of_givenBy {q : Requirement} {d : Document} (h : q.GivenBy d) :
    requirement d = q.text := by
  cases h with
  | object => exact requirementOfMembers_attributes q
  | text => rfl

lemma dependenciesOf_of_givenBy {ds : Dependencies} {members : List (String × Document)}
    (h : ds.GivenBy ((members.lookup "dependencies").getD (.object []))) :
    dependenciesOf (.object members) = .ok (ds.entries.map fun e => (e.1, e.2.text)) := by
  obtain ⟨found, hfound, hentries⟩ := h
  have hpairs : (found.map fun m => (m.1, requirement m.2)) =
      ds.entries.map fun e => (e.1, e.2.text) := by
    generalize ds.entries = entries at hentries
    clear hfound
    induction hentries with
    | nil => rfl
    | cons he _ ih => rw [List.map_cons, List.map_cons, ih, he.1, requirement_of_givenBy he.2]
  rw [← hpairs]
  simp only [dependenciesOf, Document.getD, hfound]
  rfl

/-- The members of an object for a configuration are read as the statements for it. -/
lemma addConfiguration_of_givenBy {v : Variant} {members : List (String × Document)}
    (h : v.GivenBy members) : r.addConfiguration (.object members) =
      .ok ((Statement.configuration v.name (some v.details)).enter r) := by
  have htarget : declared (v.name, v.details) =
      ⟨.string v.name, v.platforms.map .string, optionalText v.targetType⟩ := by
    have hv := v.statedBy_details
    rw [declared, hv.platforms, hv.targetType]
    cases v.targetType <;> rfl
  simp only [addConfiguration, Document.holds, any_of_lookup h.name, Document.member, h.name,
    Document.getD, h.platforms, h.targetType, dependenciesOf_of_givenBy h.dependencies]
  simp only [Statement.enter, Option.getD_some, htarget, v.statedBy_details.dependencies,
    addMissing]
  simp [Except.mapError, bind, Except.bind, pure, Except.pure, Document.items, List.foldl_map]

lemma foldlM_addConfiguration {vs : List Variant} {objects : List (List (String × Document))}
    (h : List.Forall₂ Variant.GivenBy vs objects) :
    (objects.map Document.object).foldlM addConfiguration r =
      .ok ((vs.map fun v => .configuration v.name (some v.details)).foldl Statement.enter r) := by
  induction h generalizing r with
  | nil => rfl
  | cons hv _ ih =>
    rw [List.map_cons, List.foldlM_cons, addConfiguration_of_givenBy hv, List.map_cons,
      List.foldl_cons]
    exact ih

lemma foldl_enter_buildTypes (types : List String) :
    (types.map fun t => Statement.buildType t none).foldl Statement.enter r =
      { r with customBuildTypes := r.customBuildTypes ++ types } := by
  induction types generalizing r with
  | nil => rw [List.map_nil, List.foldl_nil, List.append_nil]
  | cons t types ih =>
    rw [List.map_cons, List.foldl_cons, ih, Statement.enter, List.append_assoc]
    rfl

lemma foldl_enter_ownStatements (o : Outline) (htype : r.targetType = .null) :
    o.ownStatements.foldl Statement.enter r =
      (o.dependencies.entries.map fun e => (e.1, e.2.text)).foldl
        (fun r d => r.addDependency d.1 d.2)
        { r with name := o.name, targetType := optionalText o.targetType } := by
  rw [Outline.ownStatements, List.foldl_cons, List.foldl_append, List.foldl_map, List.foldl_map,
    List.foldl_map]
  cases o.targetType with
  | none =>
    rw [show optionalText none = r.targetType from htype.symm]
    rfl
  | some text => rfl

/-- A document is read as the statements for what it says, entered in a fixed order. -/
lemma ofDocument_of_givenBy {o : Outline} {members : List (String × Document)}
    (h : o.GivenBy members) (htype : r.targetType = .null) (hnone : r.customBuildTypes = []) :
    r.ofDocument (.object members) = .ok (o.statements.foldl Statement.enter r) := by
  obtain ⟨objects, hobjects, hconfigurations⟩ := h.configurations
  obtain ⟨types, htypes, hkeys⟩ := h.buildTypes
  -- Build types are put in the place of those that there are, of which there are none.
  have hbefore : ((o.configurations.map fun v => .configuration v.name (some v.details)).foldl
      Statement.enter (o.ownStatements.foldl Statement.enter r)).customBuildTypes = [] := by
    rw [← List.foldl_append, customBuildTypes_foldl_enter, hnone]
    simp [Outline.ownStatements, Statement.buildType?, List.filterMap_cons, List.filterMap_append,
      List.filterMap_map, Function.comp_def]
  rw [Outline.statements, Outline.buildStatements, List.foldl_append, List.foldl_append,
    foldl_enter_buildTypes, hbefore, List.nil_append, ← hkeys, foldl_enter_ownStatements o htype]
  simp only [ofDocument, Document.isObject, Document.get?, h.name, h.targetType, hobjects, htypes,
    dependenciesOf_of_givenBy h.dependencies]
  simp [Except.mapError, bind, Except.bind, pure, Except.pure, Document.items, Document.membersFor,
    foldlM_addConfiguration hconfigurations, Document.display]

/-! ## Reading tag documents -/

/-- What a statement in the block of a configuration changes in a recipe. -/
def enterDetail (r : Recipe) : Detail → Recipe
  | .platforms specifications =>
    r.changeLatest fun c => { c with platforms := c.platforms ++ specifications.map .string }
  | .targetType text => r.changeLatest fun c => { c with targetType := .string text }
  | .dependency package asked => r.addMissingDependency package asked.text

lemma addTag_detail (h : r.configurations ≠ []) (d : Detail) :
    r.addTag (d.head.tag ["configuration"]) = r.enterDetail d := by
  have hsome : r.configurations.isEmpty = false := by simpa using h
  cases d with
  | platforms specifications => simp [addTag, Detail.head, plainHead, Head.tag, hsome,
      addConfigurationTag, enterDetail]
  | targetType text => simp [addTag, Detail.head, plainHead, Head.tag, hsome,
      addConfigurationTag, enterDetail]
  | dependency package asked => simp [addTag, Detail.head, dependencyHead, Head.tag, hsome,
      addConfigurationTag, enterDetail, tagRequirement, requirementOfMembers_attributes]

lemma changeLatest_append {cs : List Configuration} {c : Configuration}
    (h : r.configurations = cs ++ [c]) (change : Configuration → Configuration) :
    r.changeLatest change = { r with configurations := cs ++ [change c] } := by
  simp [changeLatest, h]

/-- The configuration declared last, when the statements of its block have been entered. -/
def detailed (c : Configuration) (ds : List Detail) : Configuration where
  name := c.name
  platforms := c.platforms ++ (ds.flatMap Detail.platforms?).map .string
  targetType := ((ds.filterMap Detail.targetType?).getLast?.map .string).getD c.targetType

/-- A configuration that has been declared without a block is given by its name. -/
lemma detailed_name (name : String) (ds : List Detail) :
    detailed { name := .string name } ds = declared (name, ds) := by
  simp [detailed, declared, optionalText]

lemma foldl_addTag_details {cs : List Configuration} {c : Configuration} (ds : List Detail)
    (h : r.configurations = cs ++ [c]) :
    ((detailForest ds).tags ["configuration"]).foldl addTag r =
      { r with configurations := cs ++ [detailed c ds] }.addMissing
        (ds.filterMap Detail.dependency?) := by
  induction ds generalizing r c with
  | nil =>
    have hc : detailed c [] = c := by simp [detailed]
    rw [hc, ← h]
    rfl
  | cons d ds ih =>
    have hne : r.configurations ≠ [] := by simp [h]
    rw [detailForest, Forest.tags, List.foldl_cons, addTag_detail hne]
    -- A tag in the block is about the configuration that was added last, but a dependency goes to
    -- the recipe.
    cases d with
    | platforms specifications =>
      have hc : detailed { c with platforms := c.platforms ++ specifications.map .string } ds =
          detailed c (.platforms specifications :: ds) := by
        simp [detailed, Detail.platforms?, Detail.targetType?, List.filterMap_cons]
      rw [enterDetail, changeLatest_append h, ih rfl, hc]
      rfl
    | targetType text =>
      have hc : detailed { c with targetType := .string text } ds =
          detailed c (.targetType text :: ds) := by
        have hkinds : (Detail.targetType text :: ds).filterMap Detail.targetType? =
            text :: ds.filterMap Detail.targetType? := rfl
        rw [detailed, detailed, hkinds, List.getLast?_cons]
        cases (ds.filterMap Detail.targetType?).getLast? <;> rfl
      rw [enterDetail, changeLatest_append h, ih rfl, hc]
      rfl
    | dependency package asked =>
      have hlatest : (r.addMissingDependency package asked.text).configurations = cs ++ [c] := by
        rw [addMissingDependency_eq]
        exact h
      have hframe : { r.addMissingDependency package asked.text with
          configurations := cs ++ [detailed c ds] } =
          { r with configurations := cs ++ [detailed c ds] }.addMissingDependency package
            asked.text := by
        simp only [addMissingDependency]
        split <;> rfl
      rw [enterDetail, ih hlatest, hframe]
      rfl

/-- The tags in a block are inside the tag that the block belongs to. -/
lemma parents_of_mem_tags {f : Forest} {parents : List String} {t : Sdl.Tag}
    (h : t ∈ f.tags parents) : ∃ inner, t.parents = parents ++ inner := by
  induction f generalizing parents with
  | nil => cases h
  | leaf head rest ih =>
    rcases List.mem_cons.mp h with rfl | h
    · exact ⟨[], (List.append_nil _).symm⟩
    · exact ih h
  | block head inner rest ihs iht =>
    rcases List.mem_cons.mp h with rfl | h
    · exact ⟨[], (List.append_nil _).symm⟩
    · rcases List.mem_append.mp h with h | h
      · obtain ⟨names, hnames⟩ := ihs h
        exact ⟨head.name :: names, by rw [hnames, List.append_assoc]; rfl⟩
      · exact iht h

/-- Tags in blocks other than those of configurations say nothing. -/
lemma foldl_addTag_outside {tags : List Sdl.Tag}
    (h : ∀ t ∈ tags, t.parents ≠ [] ∧ t.parents ≠ ["configuration"]) : tags.foldl addTag r = r := by
  induction tags with
  | nil => rfl
  | cons t tags ih =>
    rw [List.forall_mem_cons] at h
    have ht : r.addTag t = r := by simp [addTag, h.1]
    rw [List.foldl_cons, ht]
    exact ih h.2

/-- What is in the block of a build type does not matter. -/
lemma foldl_addTag_buildType (block : Forest) :
    (block.tags ["buildType"]).foldl addTag r = r := by
  refine foldl_addTag_outside fun t ht => ?_
  obtain ⟨inner, hinner⟩ := parents_of_mem_tags ht
  simp [hinner]

/-- The tags of a statement, with those of its block. -/
lemma tags_statementForest (s : Statement) :
    (statementForest (s :: ss)).tags [] = s.head.tag [] ::
      ((s.block?.map (·.tags [s.head.name])).getD [] ++ (statementForest ss).tags []) := by
  cases hblock : s.block? <;> simp [statementForest, hblock, Forest.tags]

lemma foldl_addTag_statement (s : Statement) :
    (s.head.tag [] :: (s.block?.map (·.tags [s.head.name])).getD []).foldl addTag r =
      s.enter r := by
  cases s with
  | name text => rfl
  | targetType text => rfl
  | dependency package asked =>
    simp [addTag, addTopTag, Statement.head, Statement.block?, dependencyHead, Head.tag,
      tagRequirement, requirementOfMembers_attributes, Statement.enter]
  | configuration c details =>
    have htop : r.addTag ((Statement.configuration c details).head.tag []) =
        { r with configurations := r.configurations ++ [{ name := .string c }] } := rfl
    rw [List.foldl_cons, htop, Statement.enter]
    cases details with
    | none => rfl
    | some ds =>
      have hblock := foldl_addTag_details (r := { r with configurations :=
        r.configurations ++ [{ name := .string c }] }) ds rfl
      rw [detailed_name] at hblock
      exact hblock
  | buildType t block =>
    have htop : r.addTag ((Statement.buildType t block).head.tag []) =
        { r with customBuildTypes := r.customBuildTypes ++ [t] } := rfl
    rw [List.foldl_cons, htop, Statement.enter]
    cases block with
    | none => rfl
    | some inner => exact foldl_addTag_buildType inner

/-- Tags are read as the statements that they were written for, entered one after the other. -/
lemma ofTags_statementForest :
    r.ofTags ((statementForest ss).tags []) = ss.foldl Statement.enter r := by
  unfold ofTags
  induction ss generalizing r with
  | nil => rfl
  | cons s ss ih =>
    rw [tags_statementForest, ← List.cons_append, List.foldl_append, foldl_addTag_statement, ih]
    rfl

/-! ## Loading -/

/-- The recipe of a directory is in the file of this name and has this text. -/
structure Holds (h : Host) (directory : Path) (name : String) (text : String) : Prop where
  locate : locate h directory = .ok (some (directory.join (Path.ofText name)))
  bytes : h.files.bytes? h.directory (directory.join (Path.ofText name)) =
    some (Text.Utf8.encode text)

/-- The text is a document that says what is in the outline.  Lines may end in any way. -/
def WritesDocument (o : Outline) (text : String) : Prop :=
  ∃ members, o.GivenBy members ∧
    Document.read (Text.translateNewlines text.toList) = .ok (.object members)

/-- The text is a tag document of these statements.  Lines may end in any way. -/
def WritesStatements (ss : List Statement) (text : String) : Prop :=
  (statementForest ss).Writes (Text.translateNewlines text.toList)

/-- The recipes say the same: a package that one of them needs the other needs too, and both ask
the same of it. -/
structure SaysSame (r₁ r₂ : Recipe) : Prop where
  name : r₁.name = r₂.name
  targetType : r₁.targetType = r₂.targetType
  configurations : r₁.configurations = r₂.configurations
  buildTypes : r₁.customBuildTypes = r₂.customBuildTypes
  dependencies : ∀ package, r₁.dependencies.lookup package = r₂.dependencies.lookup package

lemma Says.saysSame {r₁ r₂ : Recipe} {o : Outline} (h₁ : r₁.Says o) (h₂ : r₂.Says o) :
    r₁.SaysSame r₂ where
  name := h₁.name.trans h₂.name.symm
  targetType := h₁.targetType.trans h₂.targetType.symm
  configurations := h₁.configurations.trans h₂.configurations.symm
  buildTypes := h₁.buildTypes.trans h₂.buildTypes.symm
  dependencies package := (h₁.dependencies package).trans (h₂.dependencies package).symm

section

variable {h : Host} {directory : Path} {name text : String}

lemma load_of_holds (hfile : Holds h directory name text) :
    load h directory = ofText { directory := directory, file := directory.join (Path.ofText name) }
      (Text.translateNewlines text.toList) := by
  have htext : textOfBytes (Text.Utf8.encode text) = .ok (Text.translateNewlines text.toList) := by
    rw [textOfBytes, Text.Utf8.decode_encode]
    rfl
  simp only [load, hfile.locate, hfile.bytes, bind, Except.bind, Option.getD_some, htext]

lemma name_join_ofText (h : Path.ofText name = ⟨.relative, [name]⟩) :
    (directory.join (Path.ofText name)).name = name := by
  simp [h, Path.join, Path.name]

/-- The recipe of a document that is loaded has the statements in their fixed order. -/
lemma load_of_writesDocument {o : Outline} (hfile : Holds h directory "dub.json" text)
    (htext : WritesDocument o text) :
    load h directory = .ok (o.statements.foldl Statement.enter
      { directory := directory, file := directory.join (Path.ofText "dub.json") }) := by
  obtain ⟨members, hmembers, hread⟩ := htext
  have hname : (directory.join (Path.ofText "dub.json")).name = "dub.json" :=
    name_join_ofText (by cbv)
  have hend : "dub.json".endsWith ".sdl" = false := by cbv
  rw [load_of_holds hfile, ofText, hname, hend, hread]
  exact ofDocument_of_givenBy hmembers rfl rfl

/-- The recipe of a tag document that is loaded has its statements. -/
lemma load_of_writesStatements {ss : List Statement} (hfile : Holds h directory "dub.sdl" text)
    (htext : WritesStatements ss text) :
    load h directory = .ok (ss.foldl Statement.enter
      { directory := directory, file := directory.join (Path.ofText "dub.sdl") }) := by
  have hname : (directory.join (Path.ofText "dub.sdl")).name = "dub.sdl" :=
    name_join_ofText (by cbv)
  have hend : "dub.sdl".endsWith ".sdl" = true := by cbv
  rw [load_of_holds hfile, ofText, hname, hend, if_pos rfl, Sdl.readTags_of_written htext,
    ← ofTags_statementForest]
  rfl

end

section Plain

open Document (Plain)

lemma plain_requirement (q : Requirement) : Plain 1 q.document := by
  refine .object ?_ ?_
  · cases q <;> simp [Requirement.attributes]
  · intro m hm
    obtain ⟨a, -, rfl⟩ := List.mem_map.mp hm
    exact .text

lemma plain_dependencies (ds : Dependencies) : Plain 2 ds.document := by
  refine .object ?_ ?_
  · rw [List.map_map]
    exact ds.distinct
  · intro m hm
    obtain ⟨e, -, rfl⟩ := List.mem_map.mp hm
    exact plain_requirement e.2

lemma plain_variant (v : Variant) : Plain 3 (.object v.members) := by
  refine .object ?_ ?_
  · cases h : v.targetType <;> simp [Variant.members, h]
  · have hplatforms : Plain 2 (.array (v.platforms.map .string)) :=
      .array (List.forall_mem_map.mpr fun _ _ => .text)
    simp only [Variant.members, List.forall_mem_append, List.forall_mem_cons, List.forall_mem_map]
    exact ⟨⟨.text, hplatforms, plain_dependencies v.dependencies, by simp⟩, fun _ _ => .text⟩

lemma plain_outline (o : Outline) : Plain 5 (.object o.members) := by
  refine .object ?_ ?_
  · cases h : o.targetType <;> simp [Outline.members, h]
  · have hdependencies : Plain 4 o.dependencies.document :=
      (plain_dependencies o.dependencies).mono (by decide)
    have hconfigurations : Plain 4 (.array (o.configurations.map fun v => .object v.members)) :=
      .array (List.forall_mem_map.mpr fun v _ => plain_variant v)
    have htypes : Plain 4 (.object (o.buildTypes.map fun t => (t, .object []))) := by
      refine .object ?_ (List.forall_mem_map.mpr fun _ _ => .object (by simp) (by simp))
      rw [List.map_map]
      exact (List.map_id _).symm ▸ o.distinct
    simp only [Outline.members, List.forall_mem_append, List.forall_mem_cons, List.forall_mem_map]
    exact ⟨⟨.text, hdependencies, hconfigurations, htypes, by simp⟩, fun _ _ => .text⟩

end Plain

/-- The object for an outline is a document for it when it has been written. -/
lemma writesDocument_write (o : Outline) :
    WritesDocument o (Document.write (.object o.members)) := by
  have hplain := plain_outline o
  refine ⟨o.members, o.givenBy_members, ?_⟩
  rw [Text.translateNewlines_eq_self hplain.oneLine.return_not_mem]
  exact Document.read_write (hplain.mono (by decide))

/-- Every outline can be written as a document. -/
lemma exists_writesDocument (o : Outline) : ∃ text, WritesDocument o text :=
  ⟨_, writesDocument_write o⟩

/-- All statements can be written. -/
lemma exists_writesStatements (ss : List Statement) : ∃ text, WritesStatements ss text := by
  obtain ⟨text, htext, hreturn⟩ := (statementForest ss).exists_writes
  refine ⟨String.ofList text, ?_⟩
  rw [WritesStatements, String.toList_ofList, Text.translateNewlines_eq_self hreturn]
  exact htext

/-- **The two formats of recipes agree.** -/
theorem load_agree (o : Outline) :
    (∃ text, WritesDocument o text) ∧ (∃ ss, o.StatedBy ss ∧ DependenciesFirst ss) ∧
    ∀ ss, o.StatedBy ss → (∃ text, WritesStatements ss text) ∧
      ∀ text₁ text₂ h₁ h₂ directory₁ directory₂, WritesDocument o text₁ →
        WritesStatements ss text₂ → Holds h₁ directory₁ "dub.json" text₁ →
        Holds h₂ directory₂ "dub.sdl" text₂ →
        ∃ r₁ r₂, load h₁ directory₁ = .ok r₁ ∧ load h₂ directory₂ = .ok r₂ ∧ r₁.Says o ∧
          r₁.SaysSame r₂ ∧ (DependenciesFirst ss → r₁.dependencies = r₂.dependencies) := by
  refine ⟨exists_writesDocument o, ⟨_, o.statedBy_statements, o.dependenciesFirst_statements⟩,
    fun ss hss => ⟨exists_writesStatements ss, ?_⟩⟩
  intro text₁ text₂ h₁ h₂ directory₁ directory₂ htext₁ htext₂ hfile₁ hfile₂
  have hsays := says_of_statedBy o.statedBy_statements directory₁
    (directory₁.join (Path.ofText "dub.json"))
  have hsays' := says_of_statedBy hss directory₂ (directory₂.join (Path.ofText "dub.sdl"))
  refine ⟨_, _, load_of_writesDocument hfile₁ htext₁, load_of_writesStatements hfile₂ htext₂,
    hsays, hsays.saysSame hsays', fun hfirst => ?_⟩
  rw [dependencies_of_dependenciesFirst hss hfirst, dependencies_of_dependenciesFirst
    o.statedBy_statements o.dependenciesFirst_statements]

/-- A recipe with a package on which it and its configuration depend. -/
def sampleOutline : Outline where
  name := "demo"
  dependencies := { entries := [("vibe", .version "~>1")] }
  configurations :=
    [{ name := "app", platforms := ["posix"], dependencies := { entries := [("vibe", .any)] } }]

/-- A document for it. -/
def sampleDocument : String :=
  "\x7b\"name\": \"demo\", \"dependencies\": \x7b\"vibe\": \"~>1\"\x7d,\n \"configurations\": " ++
    "[\x7b\"name\": \"app\", \"platforms\": [\"posix\"], " ++
    "\"dependencies\": \x7b\"vibe\": \x7b\x7d\x7d\x7d]\x7d"

/-- Statements for it, in which the package itself comes last. -/
def sampleStatements : List Statement :=
  [.configuration "app" (some [.platforms ["posix"], .dependency "vibe" .any]), .name "demo",
    .dependency "vibe" (.version "~>1")]

/-- A tag document of these statements. -/
def sampleTags : String :=
  "configuration \"app\" \x7b\n platforms \"posix\"\n dependency \"vibe\";\x7d\nname \"demo\"\n" ++
    "dependency \"vibe\" version=\"~>1\"\n"

/-- What is in the document. -/
def sampleMembers : List (String × Document) :=
  let app := [("name", .string "app"), ("platforms", .array [.string "posix"]),
    ("dependencies", .object [("vibe", .object [])])]
  [("name", .string "demo"), ("dependencies", .object [("vibe", .string "~>1")]),
    ("configurations", .array [.object app])]

lemma read_sampleDocument :
    Document.read (Text.translateNewlines sampleDocument.toList) = .ok (.object sampleMembers) := by
  cbv

/-- A host with one file in one directory. -/
def sampleHost (name : String) (bytes : List UInt8) : Host where
  files := ⟨[("p", .directory [(name, .file bytes false)])]⟩
  directory := []
  environment := []
  machine := "x86_64"
  dub := fun _ => .finished [] [] 0

/-- The directory of a package with a recipe in this file. -/
lemma holds_sample {name text : String} (h : name ∈ ["dub.json", "dub.sdl"]) :
    Holds (sampleHost name (Text.Utf8.encode text)) ⟨.slash, ["p"]⟩ name text := by
  generalize hbytes : Text.Utf8.encode text = bytes
  simp only [List.mem_cons, List.not_mem_nil, or_false] at h
  rcases h with rfl | rfl
  · exact ⟨by cbv, by rw [hbytes]; cbv⟩
  · exact ⟨by cbv, by rw [hbytes]; cbv⟩

lemma statedBy_sampleStatements : sampleOutline.StatedBy sampleStatements where
  name := rfl
  targetType := rfl
  dependencies := rfl
  configurations := .cons ⟨rfl, rfl, rfl, rfl⟩ .nil
  buildTypes := rfl

lemma givenBy_sampleMembers : sampleOutline.GivenBy sampleMembers where
  name := rfl
  targetType := rfl
  dependencies := ⟨_, rfl, .cons ⟨rfl, .text _⟩ .nil⟩
  configurations := by
    refine ⟨[_], rfl, .cons ⟨rfl, rfl, rfl, _, rfl, .cons ⟨rfl, ?_⟩ .nil⟩ .nil⟩
    exact .object .any
  buildTypes := ⟨[], rfl, rfl⟩

lemma escaped_self {cs : List Char} (h : ∀ c ∈ cs, c ∉ ['\\', '"', '\n']) : Sdl.Escaped cs cs := by
  induction cs with
  | nil => exact .nil
  | cons c cs ih =>
    rw [List.forall_mem_cons] at h
    exact .plain h.1 (ih h.2)

/-- A statement with one value that needs no escapes. -/
lemma writes_of_value {h : Head} {value : String} (hname : IsWord h.name)
    (hvalues : h.values = [value]) (hattributes : h.attributes = [])
    (hplain : ∀ c ∈ value.toList, c ∉ ['\\', '"', '\n']) :
    h.Writes (h.name.toList ++ [('"' :: value.toList ++ ['"'])].flatMap (' ' :: ·)) := by
  have htexts : List.Forall₂ Sdl.WritesText h.values ['"' :: value.toList ++ ['"']] := by
    rw [hvalues]
    exact .cons (.quoted (escaped_self hplain)) .nil
  have hnone : List.Forall₂ Sdl.WritesAttribute h.attributes [] := by
    rw [hattributes]
    exact .nil
  exact .named hname htexts hnone

lemma writes_sampleTags : WritesStatements sampleStatements sampleTags := by
  have hword : ∀ w ∈ words, IsWord w := fun _ h => isWord_of_mem_words h
  have hplatforms := writes_of_value (h := Detail.head (.platforms ["posix"]))
    (hword "platforms" (by decide)) rfl rfl (by simp)
  have hany := writes_of_value (h := Detail.head (.dependency "vibe" .any))
    (hword "dependency" (by decide)) rfl rfl (by simp)
  have hconfiguration := writes_of_value (h := Statement.head (.configuration "app" none))
    (hword "configuration" (by decide)) rfl rfl (by simp)
  have hname := writes_of_value (h := Statement.head (.name "demo")) (hword "name" (by decide)) rfl
    rfl (by simp)
  have hversion := Head.Writes.named (h := Statement.head (.dependency "vibe" (.version "~>1")))
    (hword "dependency" (by decide)) (.cons (.quoted (escaped_self (by simp))) .nil)
    (.cons (.mk (.quoted (escaped_self (by simp)))) .nil)
  have hinner := Forest.Writes.gap (c := '\n') (by decide) (.gap (c := ' ') (by decide)
    (.leaf (e := '\n') hplatforms (by decide) (.gap (c := ' ') (by decide)
      (.leaf (e := ';') hany (by decide) .nil))))
  have hwrites := Forest.Writes.block (e := '\n') hconfiguration hinner (by decide)
    (.leaf (e := '\n') hname (by decide) (.leaf (e := '\n') hversion (by decide) .nil))
  rw [WritesStatements]
  convert hwrites using 1
  · rfl
  · cbv

theorem load_agree_sample :
    WritesDocument sampleOutline sampleDocument ∧ sampleOutline.StatedBy sampleStatements ∧
      WritesStatements sampleStatements sampleTags ∧
      ∃ r₁ r₂ : Recipe,
        load (sampleHost "dub.json" (Text.Utf8.encode sampleDocument)) ⟨.slash, ["p"]⟩ = .ok r₁ ∧
        load (sampleHost "dub.sdl" (Text.Utf8.encode sampleTags)) ⟨.slash, ["p"]⟩ = .ok r₂ ∧
        r₁.Says sampleOutline ∧ r₁.SaysSame r₂ := by
  have hdocument : WritesDocument sampleOutline sampleDocument :=
    ⟨sampleMembers, givenBy_sampleMembers, read_sampleDocument⟩
  obtain ⟨r₁, r₂, h₁, h₂, hsays, hsame, -⟩ :=
    ((load_agree sampleOutline).2.2 _ statedBy_sampleStatements).2 _ _ _ _ _ _ hdocument
      writes_sampleTags (holds_sample (by decide)) (holds_sample (by decide))
  exact ⟨hdocument, statedBy_sampleStatements, writes_sampleTags, r₁, r₂, h₁, h₂, hsays, hsame⟩

end DubCheck.Recipe
