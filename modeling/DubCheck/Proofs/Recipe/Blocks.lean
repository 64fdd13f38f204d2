import DubCheck.Proofs.Recipe.Agreement
import DubCheck.Proofs.Sdl.Layout
/-!
# The blocks of configurations

In a tag document, a configuration should be what is said directly in its own block, whatever stands
in other blocks.  Reading keeps to that but for one case: when a statement `configuration` has a
block and no value, what is said in this block is about the configuration that was declared before
it.

* `configurations_foldl_addTag`: the configurations of a layout, with what has strayed to them.
* `configuresByBlocks_iff`: a configuration is what its own block says just if nothing strays to it
  that it does not say itself.
-/

namespace DubCheck.Recipe

open Sdl (Tag Lexeme Layout)

/-! ## Configurations and their blocks -/

/-- What a tag says about the configuration in whose block it stands, dependencies apart. -/
def tagDetails (t : Tag) : List Detail :=
  match t.name, t.values with
  | "platforms", values => [.platforms values]
  | "targetType", value :: _ => [.targetType value]
  | _, _ => []

/-- What a statement says about the configuration in whose block it stands. -/
def statementDetails (s : List Lexeme) : List Detail :=
  ((Tag.ofStatement? [] s).map tagDetails).getD []

/-- What is said directly in a block, if there is one. -/
def blockDetails (block? : Option Layout) : List Detail :=
  (block?.map fun block => block.statements.flatMap (statementDetails ·.1)).getD []

/-- The configuration that a statement with a block declares, if it does. -/
def declaration? (item : List Lexeme × Option Layout) : Option (String × List Detail) :=
  match Tag.ofStatement? [] item.1 with
  | some t =>
    if t.name = "configuration" then t.values.head?.map (·, blockDetails item.2) else none
  | none => none

/-- What is said in the block of a statement that would declare a configuration if it had a
value. -/
def namelessDetails (item : List Lexeme × Option Layout) : List Detail :=
  match Tag.ofStatement? [] item.1 with
  | some t => if t.name = "configuration" ∧ t.values = [] then blockDetails item.2 else []
  | none => []

/-- The recipe that a text gives that stands in the file `dub.sdl` of a directory. -/
def ofSdl (directory : Path) (text : List Char) : Except Failure Recipe :=
  ofText { directory := directory, file := directory.join (Path.ofText "dub.sdl") } text

/-- The configurations that a text gives are those that statements at the top declare, each with
what is said directly in its own block. -/
def ConfiguresByBlocks (text : List Char) : Prop :=
  ∀ (directory : Path) (r : Recipe) (layout : Layout), ofSdl directory text = .ok r →
    layout.Lays (Sdl.lexemes 1 text).1 →
    r.configurations = (layout.statements.filterMap declaration?).map declared

/-! ## What strays -/

/-- The configurations that statements declare, each with what is said in nameless configurations
between it and the next one, and what is said so before the first one. -/
def withStrays : List (List Lexeme × Option Layout) →
    List Detail × List ((String × List Detail) × List Detail)
  | [] => ([], [])
  | item :: rest =>
    match declaration? item with
    | some c => ([], (c, (withStrays rest).1) :: (withStrays rest).2)
    | none => (namelessDetails item ++ (withStrays rest).1, (withStrays rest).2)

/-- What strays to a configuration does not change it: there are no platforms in it, and the target
type in it is the one that the configuration has. -/
def Harmless (own strays : List Detail) : Prop :=
  strays.flatMap Detail.platforms? = [] ∧
    ∀ t ∈ (strays.filterMap Detail.targetType?).getLast?,
      (own.filterMap Detail.targetType?).getLast? = some t

/-! ## One tag -/

variable {r : Recipe} {t : Tag} {c : Configuration} {cs : List Configuration}
  {ds ds' : List Detail}

lemma detailed_nil (c : Configuration) : detailed c [] = c := by
  simp [detailed]

lemma detailed_detailed (c : Configuration) (ds ds' : List Detail) :
    detailed (detailed c ds) ds' = detailed c (ds ++ ds') := by
  rw [detailed, detailed, detailed, List.flatMap_append, List.map_append, List.filterMap_append,
    List.getLast?_append]
  cases (ds'.filterMap Detail.targetType?).getLast? <;> simp

lemma configurations_changeLatest (change : Configuration → Configuration) :
    (r.changeLatest change).configurations = r.configurations.modifyLast change := by
  rcases List.eq_nil_or_concat' r.configurations with h | ⟨cs, c, h⟩
  · rw [changeLatest, h]
    exact h
  · rw [changeLatest_append h, h, List.modifyLast_concat]

lemma modifyLast_detailed_nil (cs : List Configuration) :
    cs.modifyLast (detailed · []) = cs := by
  rcases List.eq_nil_or_concat' cs with rfl | ⟨cs, c, rfl⟩
  · rfl
  · rw [List.modifyLast_concat, detailed_nil]

lemma modifyLast_modifyLast_detailed (cs : List Configuration) (ds ds' : List Detail) :
    (cs.modifyLast (detailed · ds)).modifyLast (detailed · ds') =
      cs.modifyLast (detailed · (ds ++ ds')) := by
  rcases List.eq_nil_or_concat' cs with rfl | ⟨cs, c, rfl⟩
  · rfl
  · rw [List.modifyLast_concat, List.modifyLast_concat, List.modifyLast_concat, detailed_detailed]

/-- What a tag in the block of a configuration says: platforms and a target type are about the
configuration, and a dependency is about the package. -/
lemma configurations_addConfigurationTag (r : Recipe) (t : Tag) :
    (r.addConfigurationTag t).configurations =
      r.configurations.modifyLast (detailed · (tagDetails t)) := by
  obtain ⟨name, values, attributes, parents⟩ := t
  by_cases hplatforms : name = "platforms"
  · subst hplatforms
    change (r.changeLatest _).configurations =
      r.configurations.modifyLast (detailed · [.platforms values])
    rw [configurations_changeLatest]
    simp [detailed, Detail.platforms?, Detail.targetType?]
  by_cases htarget : name = "targetType"
  · subst htarget
    cases values with
    | nil => exact (modifyLast_detailed_nil _).symm
    | cons value values =>
      change (r.changeLatest _).configurations =
        r.configurations.modifyLast (detailed · [.targetType value])
      rw [configurations_changeLatest]
      simp [detailed, Detail.platforms?, Detail.targetType?]
  have hnone : tagDetails ⟨name, values, attributes, parents⟩ = [] := by
    unfold tagDetails
    split <;> simp_all
  rw [hnone, modifyLast_detailed_nil, addConfigurationTag]
  split
  · contradiction
  · contradiction
  · rw [addMissingDependency_eq]
  · rfl

/-- A tag in the block of a configuration is about the configuration that was declared last. -/
lemma configurations_addTag_inside (h : t.parents = ["configuration"]) :
    (r.addTag t).configurations = r.configurations.modifyLast (detailed · (tagDetails t)) := by
  by_cases hnone : r.configurations = []
  · have hself : r.addTag t = r := by simp [addTag, h, hnone]
    rw [hself, hnone]
    rfl
  · have hadd : r.addTag t = r.addConfigurationTag t := by simp [addTag, h, hnone]
    rw [hadd, configurations_addConfigurationTag]

/-- The tag of a statement is the same in any block, but for what is around it. -/
lemma ofStatement?_eq_map (opened : List String) (s : List Lexeme) :
    Tag.ofStatement? opened s =
      (Tag.ofStatement? [] s).map fun t => { t with parents := opened.reverse } := by
  cases s <;> rfl

lemma parents_of_ofStatement? {opened : List String} {s : List Lexeme}
    (h : Tag.ofStatement? opened s = some t) : t.parents = opened.reverse := by
  rw [ofStatement?_eq_map, Option.map_eq_some_iff] at h
  obtain ⟨t', -, rfl⟩ := h
  rfl

/-- The tags of a layout are inside the tags that the layout stands in. -/
lemma parents_of_mem_layout {layout : Layout} {opened : List String} (h : t ∈ layout.tags opened) :
    ∃ inner, t.parents = opened.reverse ++ inner := by
  have hhere : ∀ {opened : List String} {s : List Lexeme} {t : Tag},
      t ∈ (Tag.ofStatement? opened s).toList → t.parents = opened.reverse ++ [] := by
    intro opened s t ht
    rw [parents_of_ofStatement? (Option.mem_toList.mp ht), List.append_nil]
  induction layout generalizing opened with
  | last s => exact ⟨[], hhere h⟩
  | ended s rest ih =>
    rcases List.mem_append.mp h with h | h
    · exact ⟨[], hhere h⟩
    · exact ih h
  | block s inner rest ihinner ihrest =>
    rcases List.mem_append.mp h with h | h
    · exact ⟨[], hhere h⟩
    rcases List.mem_append.mp h with h | h
    · obtain ⟨names, hnames⟩ := ihinner h
      exact ⟨_, by rw [hnames, List.reverse_cons, List.append_assoc]⟩
    · exact ihrest h

/-- What stands in the block of anything but a configuration says nothing. -/
lemma foldl_addTag_other {name : String} (hname : name ≠ "configuration") (block : Layout) :
    (block.tags [name]).foldl addTag r = r := by
  refine foldl_addTag_outside fun t ht => ?_
  obtain ⟨inner, hinner⟩ := parents_of_mem_layout ht
  simp [hinner, hname]

/-- What stands in a block inside another one says nothing. -/
lemma foldl_addTag_nested (name name' : String) (block : Layout) :
    (block.tags [name, name']).foldl addTag r = r := by
  refine foldl_addTag_outside fun t ht => ?_
  obtain ⟨inner, hinner⟩ := parents_of_mem_layout ht
  simp [hinner]

/-! ## One statement with its block -/

lemma configurations_foldl_statement (s : List Lexeme) :
    ((Tag.ofStatement? ["configuration"] s).toList.foldl addTag r).configurations =
      r.configurations.modifyLast (detailed · (statementDetails s)) := by
  rw [ofStatement?_eq_map, statementDetails]
  cases Tag.ofStatement? [] s with
  | none => exact (modifyLast_detailed_nil _).symm
  | some t =>
    change (r.addTag { t with parents := ["configuration"] }).configurations = _
    rw [configurations_addTag_inside rfl]
    rfl

/-- What is said directly in the block of a configuration is about the configuration that was
declared last. -/
lemma configurations_foldl_block (block : Layout) :
    ((block.tags ["configuration"]).foldl addTag r).configurations =
      r.configurations.modifyLast (detailed · (blockDetails (some block))) := by
  change _ = r.configurations.modifyLast
    (detailed · (block.statements.flatMap (statementDetails ·.1)))
  induction block generalizing r with
  | last s =>
    rw [Layout.tags, configurations_foldl_statement, Layout.statements, List.flatMap_singleton]
  | ended s rest ih =>
    rw [Layout.tags, List.foldl_append, ih, configurations_foldl_statement,
      modifyLast_modifyLast_detailed, Layout.statements, List.flatMap_cons]
  | block s inner rest _ ih =>
    rw [Layout.tags, List.foldl_append, List.foldl_append, foldl_addTag_nested, ih,
      configurations_foldl_statement, modifyLast_modifyLast_detailed, Layout.statements,
      List.flatMap_cons]

/-- A statement at the top that begins no configuration declares none. -/
lemma configurations_addTopTag_other (h : t.name ≠ "configuration") :
    (r.addTopTag t).configurations = r.configurations := by
  unfold addTopTag
  split
  · rfl
  · split <;> first | rfl | contradiction

/-- The tags of a statement at the top and its block. -/
def itemTags (item : List Lexeme × Option Layout) : List Tag :=
  (Tag.ofStatement? [] item.1).toList ++
    (item.2.map (·.tags [((Tag.ofStatement? [] item.1).map (·.name)).getD ""])).getD []

lemma tags_eq_flatMap (layout : Layout) : layout.tags [] = layout.statements.flatMap itemTags := by
  induction layout with
  | last s => simp [Layout.tags, Layout.statements, itemTags]
  | ended s rest ih => simp [Layout.tags, Layout.statements, itemTags, ih]
  | block s inner rest _ ih => simp [Layout.tags, Layout.statements, itemTags, ih]

/-- A statement at the top declares a configuration, or what is said in its block is about the one
before. -/
lemma configurations_foldl_item (item : List Lexeme × Option Layout) :
    ((itemTags item).foldl addTag r).configurations =
      match declaration? item with
      | some c => r.configurations ++ [declared c]
      | none => r.configurations.modifyLast (detailed · (namelessDetails item)) := by
  obtain ⟨s, block?⟩ := item
  have hother : ∀ {name : String} {r : Recipe}, name ≠ "configuration" →
      (((block?.map (·.tags [name])).getD []).foldl addTag r).configurations =
        r.configurations := by
    intro name r hname
    cases block? with
    | none => rfl
    | some block => exact congrArg _ (foldl_addTag_other hname block)
  have hblock : ∀ {r : Recipe},
      (((block?.map (·.tags ["configuration"])).getD []).foldl addTag r).configurations =
        r.configurations.modifyLast (detailed · (blockDetails block?)) := by
    intro r
    cases block? with
    | none => exact (modifyLast_detailed_nil _).symm
    | some block => exact configurations_foldl_block block
  rw [itemTags, declaration?, namelessDetails, List.foldl_append]
  cases htag : Tag.ofStatement? [] s with
  | none =>
    change (((block?.map (·.tags [""])).getD []).foldl addTag r).configurations =
      r.configurations.modifyLast (detailed · [])
    rw [hother (by decide), modifyLast_detailed_nil]
  | some t =>
    have htop : r.addTag t = r.addTopTag t := by simp [addTag, parents_of_ofStatement? htag]
    change (((block?.map (·.tags [t.name])).getD []).foldl addTag (r.addTag t)).configurations = _
    rw [htop]
    by_cases hname : t.name = "configuration"
    · rw [hname, hblock]
      obtain ⟨name, values, attributes, parents⟩ := t
      obtain rfl : name = "configuration" := hname
      cases values with
      | nil => rfl
      | cons value values =>
        have hdeclared : r.addTopTag ⟨"configuration", value :: values, attributes, parents⟩ =
            { r with configurations := r.configurations ++ [{ name := .string value }] } := rfl
        rw [hdeclared, List.modifyLast_concat, detailed_name]
        rfl
    · rw [hother hname, configurations_addTopTag_other hname]
      simp [hname, modifyLast_detailed_nil]

/-! ## All statements -/

/-- The configurations of some statements are those that they declare, each with what has strayed to
it. -/
lemma configurations_foldl_items (items : List (List Lexeme × Option Layout)) :
    ((items.flatMap itemTags).foldl addTag r).configurations =
      r.configurations.modifyLast (detailed · (withStrays items).1) ++
        (withStrays items).2.map fun g => detailed (declared g.1) g.2 := by
  induction items generalizing r with
  | nil =>
    change r.configurations = r.configurations.modifyLast (detailed · []) ++ []
    rw [modifyLast_detailed_nil, List.append_nil]
  | cons item items ih =>
    rw [List.flatMap_cons, List.foldl_append, ih, configurations_foldl_item, withStrays]
    cases declaration? item with
    | none =>
      change (r.configurations.modifyLast _).modifyLast _ ++ _ = _
      rw [modifyLast_modifyLast_detailed]
    | some c =>
      change (r.configurations ++ [declared c]).modifyLast _ ++ _ = _
      rw [List.modifyLast_concat, modifyLast_detailed_nil, List.append_assoc]
      rfl

/-- A text in `dub.sdl` is read as its tags. -/
lemma ofSdl_eq (directory : Path) (text : List Char) :
    ofSdl directory text = ((Sdl.readTags text).map (Recipe.ofTags
      { directory := directory, file := directory.join (Path.ofText "dub.sdl") })).mapError
        fun e => .recipe (.sdl (directory.join (Path.ofText "dub.sdl")).text e) := by
  have hname : (directory.join (Path.ofText "dub.sdl")).name = "dub.sdl" :=
    name_join_ofText (by cbv)
  have hend : "dub.sdl".endsWith ".sdl" = true := by cbv
  rw [ofSdl, ofText, hname, hend, if_pos rfl]

/-- The texts that load are those without a fault that have a layout. -/
lemma ofSdl_eq_ok_iff (directory : Path) (text : List Char) (r : Recipe) :
    ofSdl directory text = .ok r ↔ (Sdl.lexemes 1 text).2 = none ∧
      ∃ layout : Layout, layout.Lays (Sdl.lexemes 1 text).1 ∧
        r = Recipe.ofTags { directory := directory, file := directory.join (Path.ofText "dub.sdl") }
          (layout.tags []) := by
  rw [ofSdl_eq]
  constructor
  · intro h
    obtain ⟨tags, hread, rfl⟩ := map_eq_ok_iff.mp (mapError_eq_ok_iff.mp h)
    obtain ⟨hfault, layout, hlays, rfl⟩ := (Sdl.readTags_eq_ok_iff text tags).mp hread
    exact ⟨hfault, layout, hlays, rfl⟩
  · rintro ⟨hfault, layout, hlays, rfl⟩
    rw [(Sdl.readTags_eq_ok_iff text _).mpr ⟨hfault, layout, hlays, rfl⟩]
    rfl

/-- The configurations of a text that loads are those that statements at the top declare, each with
what is said directly in its own block and what strays to it. -/
theorem configurations_ofSdl {directory : Path} {text : List Char} {layout : Layout}
    (h : ofSdl directory text = .ok r) (hlays : layout.Lays (Sdl.lexemes 1 text).1) :
    r.configurations =
      (withStrays layout.statements).2.map fun g => detailed (declared g.1) g.2 := by
  obtain ⟨hfault, -⟩ := (ofSdl_eq_ok_iff directory text r).mp h
  rw [(ofSdl_eq_ok_iff directory text _).mpr ⟨hfault, layout, hlays, rfl⟩] at h
  cases h
  rw [ofTags, tags_eq_flatMap, configurations_foldl_items]
  rfl

lemma declarations_withStrays (items : List (List Lexeme × Option Layout)) :
    items.filterMap declaration? = (withStrays items).2.map (·.1) := by
  induction items with
  | nil => rfl
  | cons item items ih =>
    rw [List.filterMap_cons, withStrays]
    cases declaration? item with
    | none => exact ih
    | some c => rw [ih]; rfl

/-- What strays to a configuration leaves it as it is just if it is harmless. -/
lemma detailed_declared_eq_iff (c : String × List Detail) (ds : List Detail) :
    detailed (declared c) ds = declared c ↔ Harmless c.2 ds := by
  have htarget : ∀ strayed own : Option String,
      (strayed.map Document.string).getD (optionalText own) = optionalText own ↔
        ∀ t ∈ strayed, own = some t := by
    intro strayed own
    cases strayed <;> cases own <;> simp [optionalText, eq_comm]
  rw [detailed, declared, Configuration.mk.injEq, List.append_right_eq_self, List.map_eq_nil_iff,
    htarget]
  exact ⟨fun h => h.2, fun h => ⟨rfl, h⟩⟩

/-- **Configurations and their blocks.**  A text in `dub.sdl` loads just if there is no fault in it
and it has a layout.  Then each configuration is what its own block says just if nothing changes it
that is said in the blocks of nameless configurations after it. -/
theorem configuresByBlocks_iff (text : List Char) :
    (∀ directory, (∃ r, ofSdl directory text = .ok r) ↔ (Sdl.lexemes 1 text).2 = none ∧
      ∃ layout : Layout, layout.Lays (Sdl.lexemes 1 text).1) ∧
    (ConfiguresByBlocks text ↔ ∀ layout : Layout, (Sdl.lexemes 1 text).2 = none →
      layout.Lays (Sdl.lexemes 1 text).1 →
      ∀ g ∈ (withStrays layout.statements).2, Harmless g.1.2 g.2) := by
  have hgiven : ∀ {r : Recipe} {directory : Path} {layout : Layout},
      ofSdl directory text = .ok r → layout.Lays (Sdl.lexemes 1 text).1 →
      (r.configurations = (layout.statements.filterMap declaration?).map declared ↔
        ∀ g ∈ (withStrays layout.statements).2, Harmless g.1.2 g.2) := by
    intro r directory layout hr hlays
    rw [configurations_ofSdl hr hlays, declarations_withStrays, List.map_map, List.map_inj_left]
    exact forall₂_congr fun g _ => detailed_declared_eq_iff g.1 g.2
  refine ⟨fun directory => ?_, fun h layout hfault hlays => ?_,
    fun h directory r layout hr hlays => ?_⟩
  · constructor
    · rintro ⟨r, hr⟩
      obtain ⟨hfault, layout, hlays, -⟩ := (ofSdl_eq_ok_iff directory text r).mp hr
      exact ⟨hfault, layout, hlays⟩
    · rintro ⟨hfault, layout, hlays⟩
      exact ⟨_, (ofSdl_eq_ok_iff directory text _).mpr ⟨hfault, layout, hlays, rfl⟩⟩
  · have hr := (ofSdl_eq_ok_iff (Path.ofText "") text _).mpr ⟨hfault, layout, hlays, rfl⟩
    exact (hgiven hr hlays).mp (h _ _ layout hr hlays)
  · obtain ⟨hfault, -⟩ := (ofSdl_eq_ok_iff directory text r).mp hr
    exact (hgiven hr hlays).mpr (h layout hfault hlays)

/-- A configuration without a block, and after it a nameless one with platforms. -/
def namelessText : List Char :=
  "configuration \"a\"\nconfiguration \x7b\n platforms \"windows\"\n\x7d".toList

/-- The statements of this text. -/
def namelessLayout : Layout :=
  .ended [⟨.word, "configuration".toList, 1⟩, ⟨.quoted, "\"a\"".toList, 1⟩]
    (.block [⟨.word, "configuration".toList, 2⟩]
      (.ended [] (.ended [⟨.word, "platforms".toList, 3⟩, ⟨.quoted, "\"windows\"".toList, 3⟩]
        (.last [])))
      (.last []))

lemma lays_namelessLayout : namelessLayout.Lays (Sdl.lexemes 1 namelessText).1 := by
  have hlexemes : (Sdl.lexemes 1 namelessText).1 =
      [⟨.word, "configuration".toList, 1⟩, ⟨.quoted, "\"a\"".toList, 1⟩] ++
        ⟨.ending, ['\n'], 1⟩ :: ([⟨.word, "configuration".toList, 2⟩] ++
          ⟨.opening, ['\x7b'], 2⟩ :: (([] ++ ⟨.ending, ['\n'], 2⟩ ::
            ([⟨.word, "platforms".toList, 3⟩, ⟨.quoted, "\"windows\"".toList, 3⟩] ++
              ⟨.ending, ['\n'], 3⟩ :: [])) ++ ⟨.closing, ['\x7d'], 4⟩ :: [])) := by
    cbv
  have hstatement : ∀ l ∈ [⟨.word, "platforms".toList, 3⟩, ⟨.quoted, "\"windows\"".toList, 3⟩],
      Lexeme.InStatement l := by
    simp [Lexeme.InStatement]
  rw [hlexemes]
  refine .ended (by simp [Lexeme.InStatement]) rfl (.block (by simp [Lexeme.InStatement]) rfl ?_ rfl
    (.last (List.forall_mem_nil _)))
  exact .ended (List.forall_mem_nil _) rfl (.ended hstatement rfl (.last (List.forall_mem_nil _)))

theorem not_configuresByBlocks_of_nameless : ¬ ConfiguresByBlocks namelessText := by
  intro h
  have hfault : (Sdl.lexemes 1 namelessText).2 = none := by cbv
  have hharmless := (configuresByBlocks_iff namelessText).2.mp h namelessLayout hfault
    lays_namelessLayout
  have hstrays : (withStrays namelessLayout.statements).2 =
      [(("a", []), [.platforms ["windows"]])] := by cbv
  rw [hstrays, List.forall_mem_singleton] at hharmless
  cases hharmless.1

end DubCheck.Recipe
