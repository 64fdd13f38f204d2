import DubCheck.Proofs.Document.Capacity
import DubCheck.Proofs.Recipe.Agreement
import DubCheck.Proofs.Text.Search
/-!
# How loading a recipe fails

Loading the recipe of a directory gives the recipe, or there is a failure that says why there is
none: there is no file for it, or what is in the file cannot be read.  Nothing else should come of
it, whatever the directory is and whatever the file holds.  Something else does where the system
refuses to look for a file, where the bytes of the file are not those of a text, where the reader of
documents does not cope with the text, and where an object has members of a shape that recipes do
not have.

* `Misshaped`: the shapes that recipes do not have.
* `loads_ofDocument_iff`: an object becomes a recipe, or is refused as one, unless it is misshaped.
* `loadsLawfully_iff`: when a recipe is loaded lawfully.
-/

namespace DubCheck

namespace Document

/-- A document that has items: a sequence, an object, or a text, whose characters are its items. -/
def IsListing : Document → Prop
  | .array _ => True
  | .object _ => True
  | .string _ => True
  | _ => False

lemma items_of_isListing {d : Document} (h : d.IsListing) : ∃ items, d.items = .ok items := by
  cases d with
  | array items => exact ⟨items, rfl⟩
  | object members => exact ⟨_, rfl⟩
  | string s => exact ⟨_, rfl⟩
  | _ => cases h

lemma items_of_not_isListing {d : Document} (h : ¬ d.IsListing) : ∃ e, d.items = .error e := by
  cases d with
  | array | object | string => exact absurd trivial h
  | _ => exact ⟨_, rfl⟩

lemma membersFor_of_not_isObject {d : Document} (h : d.isObject = false) (ability : String) :
    ∃ e, d.membersFor ability = .error e := by
  cases d with
  | object => cases h
  | _ => exact ⟨_, rfl⟩

lemma same_text_iff {d : Document} {text : String} :
    d.same (.string text) = true ↔ d = .string text := by
  cases d with
  | string s => simp [same, sameLeaf]
  | _ => exact iff_of_false (by simp [same, sameLeaf]) (by rintro ⟨⟩)

lemma exists_of_isObject {d : Document} (h : d.isObject = true) :
    ∃ members, d = .object members := by
  cases d with
  | object members => exact ⟨members, rfl⟩
  | _ => cases h

end Document

namespace Recipe

open Text (translateNewlines)
open Text.Utf8 (IsText encode)

variable {r : Recipe} {d : Document} {members : List (String × Document)}

/-! ## The shapes of recipes -/

/-- The value under a key is of some shape, if there is one. -/
def WhereGiven (members : List (String × Document)) (key : String) (shape : Document → Prop) :
    Prop :=
  ∀ d, members.lookup key = some d → shape d

/-- A configuration that can be put in. -/
inductive Usable : Document → Prop where
  | object {members : List (String × Document)} {name : Document}
    (name : members.lookup "name" = some name)
    (platforms : WhereGiven members "platforms" Document.IsListing)
    (dependencies : WhereGiven members "dependencies" fun d => d.isObject = true) :
    Usable (.object members)

/-- A configuration that is refused because it has no name.  In a sequence the name is looked for
among the items, and in a text among its parts. -/
inductive Nameless : Document → Prop where
  | object {members : List (String × Document)} (name : members.lookup "name" = none) :
    Nameless (.object members)
  | array {items : List Document} (name : .string "name" ∉ items) : Nameless (.array items)
  | string {s : String} (name : ¬ "name".toList <:+: s.toList) : Nameless (.string s)

/-- There is a configuration that can neither be put in nor be refused, and those before it can be
put in. -/
inductive Breaks : List Document → Prop where
  | here {d : Document} {rest : List Document} (usable : ¬ Usable d) (nameless : ¬ Nameless d) :
    Breaks (d :: rest)
  | later {d : Document} {rest : List Document} (usable : Usable d) (breaks : Breaks rest) :
    Breaks (d :: rest)

/-- The members of an object are not of the shapes that those of a recipe have.  Build types are not
looked at if a configuration is refused. -/
inductive Misshaped (members : List (String × Document)) : Prop where
  | dependencies (shape : ¬ WhereGiven members "dependencies" fun d => d.isObject = true)
  | configurations (shape : ¬ WhereGiven members "configurations" Document.IsListing)
  | configuration {d : Document} {items : List Document}
    (given : members.lookup "configurations" = some d) (items_eq : d.items = .ok items)
    (breaks : Breaks items)
  | buildTypes (shape : ¬ WhereGiven members "buildTypes" fun d => d.isObject = true)
    (usable : WhereGiven members "configurations" fun d =>
      ∀ items, d.items = .ok items → ∀ c ∈ items, Usable c)

/-- A recipe is loaded, or a failure says why there is none. -/
def Loads (outcome : Except Failure Recipe) : Prop :=
  Lawful .recipe (fun _ => True) outcome

lemma loads_ok (r : Recipe) : Loads (.ok r) :=
  lawful_ok_iff.mpr trivial

lemma loads_recipe (cause : RecipeError) : Loads (.error (.recipe cause)) :=
  lawful_error_iff.mpr ⟨cause, rfl⟩

lemma not_loads_of_error {e : Failure} (h : ∀ cause, e ≠ .recipe cause) : ¬ Loads (.error e) := by
  intro hloads
  obtain ⟨cause, hcause⟩ := lawful_error_iff.mp hloads
  exact h cause hcause

/-! ## Documents -/

/-- The items under a key that can be left out. -/
lemma items_of_given {key : String} (h : WhereGiven members key Document.IsListing) :
    ∃ items, ((members.lookup key).getD (.array [])).items = .ok items := by
  cases hlookup : members.lookup key with
  | none => exact ⟨[], rfl⟩
  | some d => exact Document.items_of_isListing (h d hlookup)

lemma items_of_not_given {key : String} (h : ¬ WhereGiven members key Document.IsListing) :
    ∃ e, ((members.lookup key).getD (.array [])).items = .error e := by
  simp only [WhereGiven, not_forall] at h
  obtain ⟨d, hlookup, hd⟩ := h
  rw [hlookup]
  exact Document.items_of_not_isListing hd

/-- The members of the object under a key that can be left out. -/
lemma members_of_given {key : String} (ability : String)
    (h : WhereGiven members key fun d => d.isObject = true) :
    ∃ found, ((members.lookup key).getD (.object [])).membersFor ability = .ok found := by
  cases hlookup : members.lookup key with
  | none => exact ⟨[], rfl⟩
  | some d =>
    obtain ⟨found, rfl⟩ := Document.exists_of_isObject (h d hlookup)
    exact ⟨found, rfl⟩

lemma members_of_not_given {key : String} (ability : String)
    (h : ¬ WhereGiven members key fun d => d.isObject = true) :
    ∃ e, ((members.lookup key).getD (.object [])).membersFor ability = .error e := by
  simp only [WhereGiven, not_forall, Bool.not_eq_true] at h
  obtain ⟨d, hlookup, hd⟩ := h
  rw [hlookup]
  exact Document.membersFor_of_not_isObject hd ability

lemma dependenciesOf_of_given (h : WhereGiven members "dependencies" fun d => d.isObject = true) :
    ∃ found, dependenciesOf (.object members) = .ok found := by
  obtain ⟨found, hfound⟩ := members_of_given "items" h
  refine ⟨found.map fun m => (m.1, requirement m.2), ?_⟩
  simp only [dependenciesOf, Document.getD, Except.mapError, bind, Except.bind, hfound]
  rfl

lemma dependenciesOf_of_not_given
    (h : ¬ WhereGiven members "dependencies" fun d => d.isObject = true) :
    ∃ e, dependenciesOf (.object members) = .error (.shape e) := by
  obtain ⟨e, he⟩ := members_of_not_given "items" h
  refine ⟨e, ?_⟩
  simp only [dependenciesOf, Document.getD, Except.mapError, bind, Except.bind, he]

lemma addConfiguration_of_usable (h : Usable d) : ∃ r', r.addConfiguration d = .ok r' := by
  obtain ⟨hname, hplatforms, hdependencies⟩ := h
  obtain ⟨items, hitems⟩ := items_of_given hplatforms
  obtain ⟨found, hfound⟩ := dependenciesOf_of_given hdependencies
  simp only [addConfiguration, Document.holds, any_of_lookup hname, Document.member, hname,
    Document.getD, hfound, Except.mapError, bind, Except.bind, hitems]
  exact ⟨_, rfl⟩

lemma any_of_lookup_none {key : String} (h : members.lookup key = none) :
    (members.any fun m => m.1 == key) = false := by
  rw [List.any_eq_false]
  intro m hm heq
  have hne := List.lookup_eq_none_iff.mp h m hm
  rw [beq_iff_eq.mp heq] at hne
  exact (bne_iff_ne.mp hne) rfl

/-- A configuration is refused if no name is found in it. -/
lemma nameless_iff : Nameless d ↔ d.holds "name" = .ok false := by
  cases d with
  | object members =>
    cases hname : members.lookup "name" with
    | none => exact iff_of_true (.object hname) (congrArg Except.ok (any_of_lookup_none hname))
    | some name =>
      refine iff_of_false ?_ ?_
      · rintro ⟨hnone⟩
        rw [hname] at hnone
        cases hnone
      · rw [Document.holds, any_of_lookup hname]
        rintro ⟨⟩
  | array items =>
    have hany : .string "name" ∉ items ↔
        (items.any fun d => d.same (.string "name")) = false := by
      simp only [List.any_eq_false, Document.same_text_iff]
      exact ⟨fun hname d hd heq => hname (heq ▸ hd), fun hall hname => hall _ hname rfl⟩
    rw [Document.holds, Except.ok.injEq, ← hany]
    refine ⟨?_, .array⟩
    rintro (_ | ⟨hname⟩)
    exact hname
  | string s =>
    rw [Document.holds, Except.ok.injEq, ← Bool.not_eq_true, Text.occursIn_iff]
    refine ⟨?_, .string⟩
    rintro (_ | _ | ⟨hname⟩)
    exact hname
  | _ => exact iff_of_false (by rintro ⟨⟩) (by rintro ⟨⟩)

lemma addConfiguration_of_nameless (h : Nameless d) :
    ∃ cause, r.addConfiguration d = .error (.recipe cause) := by
  refine ⟨.unnamed r.file.text, ?_⟩
  rw [addConfiguration, nameless_iff.mp h]
  rfl

lemma addConfiguration_of_neither (husable : ¬ Usable d) (hnameless : ¬ Nameless d) :
    ∃ e, r.addConfiguration d = .error (.shape e) := by
  rw [nameless_iff] at hnameless
  rw [addConfiguration]
  cases hholds : d.holds "name" with
  | error e => exact ⟨e, rfl⟩
  | ok found =>
    cases found with
    | false => exact absurd hholds hnameless
    | true =>
      cases d with
      -- Of what holds a name only an object has a value under it.
      | object members =>
        cases hname : members.lookup "name" with
        | none => exact absurd (nameless_iff.mp (.object hname)) hnameless
        | some name =>
          simp only [Document.member, Document.getD, Except.mapError, bind, Except.bind]
          by_cases hplatforms : WhereGiven members "platforms" Document.IsListing
          · obtain ⟨items, hitems⟩ := items_of_given hplatforms
            obtain ⟨e, he⟩ := dependenciesOf_of_not_given fun hdependencies =>
              husable (.object hname hplatforms hdependencies)
            simp only [hitems, he]
            exact ⟨e, rfl⟩
          · obtain ⟨e, he⟩ := items_of_not_given hplatforms
            simp only [he]
            exact ⟨e, rfl⟩
      | array | string => exact ⟨_, rfl⟩
      | _ => cases hholds

/-- Configurations are put in one after the other, up to the first that is not usable. -/
lemma foldlM_addConfiguration_cases (items : List Document) (r : Recipe) :
    (∀ c ∈ items, Usable c) ∧ ¬ Breaks items ∧
        (∃ r', items.foldlM addConfiguration r = .ok r') ∨
      (∃ c ∈ items, ¬ Usable c) ∧ ¬ Breaks items ∧
        (∃ cause, items.foldlM addConfiguration r = .error (.recipe cause)) ∨
      Breaks items ∧ ∃ e, items.foldlM addConfiguration r = .error (.shape e) := by
  -- What has been put in before does not matter for what can be put in.
  induction items generalizing r with
  | nil => exact Or.inl ⟨by simp, by rintro ⟨⟩, r, rfl⟩
  | cons c items ih =>
    rw [List.foldlM_cons]
    by_cases husable : Usable c
    · obtain ⟨r', hr'⟩ := addConfiguration_of_usable (r := r) husable
      rw [hr']
      have hlater : Breaks (c :: items) → Breaks items := by
        rintro (⟨hc, -⟩ | ⟨-, hrest⟩)
        · exact absurd husable hc
        · exact hrest
      rcases ih r' with ⟨hall, hbreaks, hr⟩ | ⟨⟨d, hd, hnot⟩, hbreaks, hr⟩ | ⟨hbreaks, hr⟩
      · exact Or.inl ⟨List.forall_mem_cons.mpr ⟨husable, hall⟩, mt hlater hbreaks, hr⟩
      · exact Or.inr (Or.inl ⟨⟨d, List.mem_cons_of_mem c hd, hnot⟩, mt hlater hbreaks, hr⟩)
      · exact Or.inr (Or.inr ⟨.later husable hbreaks, hr⟩)
    · by_cases hnameless : Nameless c
      · obtain ⟨cause, hcause⟩ := addConfiguration_of_nameless (r := r) hnameless
        refine Or.inr (Or.inl ⟨⟨c, List.mem_cons_self, husable⟩, ?_, cause, ?_⟩)
        · rintro (⟨-, hc⟩ | ⟨hc, -⟩)
          · exact hc hnameless
          · exact husable hc
        · rw [hcause]
          rfl
      · obtain ⟨e, he⟩ := addConfiguration_of_neither (r := r) husable hnameless
        refine Or.inr (Or.inr ⟨.here husable hnameless, e, ?_⟩)
        rw [he]
        rfl

section

variable {items : List Document}
  (hitems : ((members.lookup "configurations").getD (.array [])).items = .ok items)

include hitems

/-- The items are those of the value under the key, if there is one. -/
lemma whereGiven_configurations_iff {P : List Document → Prop} (hnil : P []) :
    (WhereGiven members "configurations" fun d => ∀ items, d.items = .ok items → P items) ↔
      P items := by
  rw [WhereGiven]
  cases hlookup : members.lookup "configurations" with
  | none =>
    rw [hlookup] at hitems
    cases hitems
    exact iff_of_true (by rintro d ⟨⟩) hnil
  | some d =>
    rw [hlookup] at hitems
    constructor
    · intro h
      exact h d rfl items hitems
    · rintro h d ⟨⟩ items' hitems'
      cases hitems.symm.trans hitems'
      exact h

lemma misshaped_iff (hdependencies : WhereGiven members "dependencies" fun d => d.isObject = true)
    (hconfigurations : WhereGiven members "configurations" Document.IsListing) :
    Misshaped members ↔ Breaks items ∨ (∀ c ∈ items, Usable c) ∧
      ¬ WhereGiven members "buildTypes" fun d => d.isObject = true := by
  constructor
  · rintro (hshape | hshape | ⟨hlookup, heq, hbreaks⟩ | ⟨hshape, husable⟩)
    · exact absurd hdependencies hshape
    · exact absurd hconfigurations hshape
    · rw [hlookup] at hitems
      cases hitems.symm.trans heq
      exact Or.inl hbreaks
    · exact Or.inr ⟨(whereGiven_configurations_iff hitems (by simp)).mp husable, hshape⟩
  · rintro (hbreaks | ⟨husable, hshape⟩)
    · cases hlookup : members.lookup "configurations" with
      | none =>
        rw [hlookup] at hitems
        cases hitems
        cases hbreaks
      | some d =>
        rw [hlookup] at hitems
        exact .configuration hlookup hitems hbreaks
    · exact .buildTypes hshape ((whereGiven_configurations_iff hitems (by simp)).mpr husable)

end

/-- An object becomes a recipe, or is refused as one, unless it is misshaped. -/
theorem loads_ofDocument_iff : Loads (r.ofDocument (.object members)) ↔ ¬ Misshaped members := by
  rw [ofDocument]
  -- The cases come in the order in which the members are looked at.
  by_cases hdependencies : WhereGiven members "dependencies" fun d => d.isObject = true
  · obtain ⟨found, hfound⟩ := dependenciesOf_of_given hdependencies
    by_cases hconfigurations : WhereGiven members "configurations" Document.IsListing
    · obtain ⟨items, hitems⟩ := items_of_given hconfigurations
      simp only [Document.isObject, Document.get?, hfound, hitems, Except.mapError, bind,
        Except.bind]
      rw [misshaped_iff hitems hdependencies hconfigurations]
      rcases foldlM_addConfiguration_cases items _ with
        ⟨hall, hbreaks, r', hr'⟩ | ⟨⟨c, hc, hnot⟩, hbreaks, cause, hcause⟩ | ⟨hbreaks, e, he⟩
      · rw [hr']
        by_cases htypes : WhereGiven members "buildTypes" fun d => d.isObject = true
        · obtain ⟨types, htypes'⟩ := members_of_given "keys" htypes
          simp only [htypes']
          refine iff_of_true (loads_ok _) ?_
          rintro (h | ⟨-, h⟩)
          · exact hbreaks h
          · exact h htypes
        · obtain ⟨e, he⟩ := members_of_not_given "keys" htypes
          simp only [he]
          exact iff_of_false (not_loads_of_error (by rintro cause ⟨⟩))
            (not_not_intro (Or.inr ⟨hall, htypes⟩))
      · rw [hcause]
        refine iff_of_true (loads_recipe cause) ?_
        rintro (h | ⟨hall, -⟩)
        · exact hbreaks h
        · exact hnot (hall c hc)
      · rw [he]
        exact iff_of_false (not_loads_of_error (by rintro cause ⟨⟩))
          (not_not_intro (Or.inl hbreaks))
    · obtain ⟨e, he⟩ := items_of_not_given hconfigurations
      simp only [Document.isObject, Document.get?, hfound, he, Except.mapError, bind, Except.bind]
      exact iff_of_false (not_loads_of_error (by rintro cause ⟨⟩))
        (not_not_intro (.configurations hconfigurations))
  · obtain ⟨e, he⟩ := dependenciesOf_of_not_given hdependencies
    rw [he]
    exact iff_of_false (not_loads_of_error (by rintro cause ⟨⟩))
      (not_not_intro (.dependencies hdependencies))

/-! ## Files -/

/-- The reader copes with the text of a document, and if there is an object in it, its members have
the shapes of those of a recipe. -/
def Manages (text : List Char) : Prop :=
  ¬ Document.Overtaxes text ∧
    ∀ members, Document.read text = .ok (.object members) → ¬ Misshaped members

/-- A text of tags becomes a recipe or is refused as one. -/
lemma loads_ofText_of_tags {text : List Char} (hname : r.file.name.endsWith ".sdl" = true) :
    Loads (r.ofText text) := by
  rw [ofText, if_pos hname]
  cases Sdl.readTags text with
  | ok tags => exact loads_ok _
  | error e => exact loads_recipe _

lemma loads_ofText_iff {text : List Char} (hname : r.file.name.endsWith ".sdl" = false) :
    Loads (r.ofText text) ↔ Manages text := by
  rw [ofText, hname, Manages]
  simp only [Bool.false_eq_true, if_false]
  have hread := fun good => Document.lawful_read_iff .recipe good (by rintro e n ⟨⟩)
    (by rintro e c ⟨⟩) text (.malformed r.file.text)
  refine lawful_bind_iff.trans ((hread _).trans (and_congr_right fun _ => ?_))
  constructor
  · intro hall members hmembers
    exact loads_ofDocument_iff.mp (hall _ hmembers)
  · intro hall d hd
    cases d with
    | object members => exact loads_ofDocument_iff.mpr (hall members hd)
    | _ => exact loads_recipe _

/-- The system refuses to look for one of the files that may hold the recipe, and those that come
before it are not there. -/
def LookupRefused (h : Host) (directory : Path) : Prop :=
  ∃ before name after, fileNames = before ++ name :: after ∧
    (∀ other ∈ before, h.lookForFile (directory.join (Path.ofText other)) = .ok false) ∧
    h.files.status h.directory (directory.join (Path.ofText name)) = .error .nameTooLong

section

variable {h : Host} {p : Path}

lemma lookForFile_eq_error_iff {e : Failure} :
    h.lookForFile p = .error e ↔
      h.files.status h.directory p = .error .nameTooLong ∧ e = .system .nameTooLong p.text := by
  rw [Host.lookForFile, Host.look, FileTree.look]
  rcases h.files.status h.directory p with fault | node
  · cases fault with
    | nameTooLong => exact ⟨by rintro ⟨⟩; exact ⟨rfl, rfl⟩, by rintro ⟨-, rfl⟩; rfl⟩
    | _ => exact iff_of_false (by rintro ⟨⟩) (by rintro ⟨⟨⟩, -⟩)
  · exact iff_of_false (by rintro ⟨⟩) (by rintro ⟨⟨⟩, -⟩)

/-- A file that is looked for and found has bytes. -/
lemma bytes_of_lookForFile (hp : h.lookForFile p = .ok true) :
    ∃ bytes, h.files.bytes? h.directory p = some bytes := by
  rw [Host.lookForFile, Host.look, FileTree.look] at hp
  rw [FileTree.bytes?, FileTree.find?]
  generalize h.files.status h.directory p = status at hp
  rcases status with fault | node
  · cases fault <;> cases hp
  · cases node with
    | directory entries => cases hp
    | file bytes executable => exact ⟨bytes, rfl⟩

end

section

variable {h : Host} {directory file : Path}

lemma lookupRefused_iff :
    LookupRefused h directory ↔
      ∃ path, locate h directory = .error (.system .nameTooLong path) := by
  simp only [locate, findM?_eq_error_iff, lookForFile_eq_error_iff, LookupRefused]
  constructor
  · rintro ⟨before, name, after, heq, hbefore, hstatus⟩
    refine ⟨_, _, _, _, by rw [heq, List.map_append, List.map_cons], ?_, hstatus, rfl⟩
    simpa using hbefore
  · rintro ⟨path, before, p, after, heq, hbefore, hstatus, -⟩
    obtain ⟨before, rest, hnames, rfl, hrest⟩ := List.map_eq_append_iff.mp heq
    obtain ⟨name, after, rfl, rfl, -⟩ := List.map_eq_cons_iff.mp hrest
    exact ⟨before, name, after, hnames, by simpa using hbefore, hstatus⟩

lemma locate_eq_error {e : Failure} (he : locate h directory = .error e) :
    ∃ path, e = .system .nameTooLong path := by
  obtain ⟨before, p, after, -, -, hp⟩ := findM?_eq_error_iff.mp he
  exact ⟨p.text, (lookForFile_eq_error_iff.mp hp).2⟩

/-- Of the three files that may hold a recipe one is for tags. -/
lemma endsWith_of_locate (hfile : locate h directory = .ok (some file)) :
    file.name.endsWith ".sdl" = true ↔ file.name = "dub.sdl" := by
  have hjson : (directory.join (Path.ofText "dub.json")).name = "dub.json" :=
    name_join_ofText (by cbv)
  have hsdl : (directory.join (Path.ofText "dub.sdl")).name = "dub.sdl" :=
    name_join_ofText (by cbv)
  have hpackage : (directory.join (Path.ofText "package.json")).name = "package.json" :=
    name_join_ofText (by cbv)
  have hmem := (of_findM?_eq_some hfile).1
  simp only [fileNames, List.map_cons, List.map_nil, List.mem_cons, List.not_mem_nil,
    or_false] at hmem
  rcases hmem with rfl | rfl | rfl
  · rw [hjson]
    exact iff_of_false (Bool.eq_false_iff.mp (by cbv)) (by decide)
  · rw [hsdl]
    exact iff_of_true (by cbv) rfl
  · rw [hpackage]
    exact iff_of_false (Bool.eq_false_iff.mp (by cbv)) (by decide)

lemma loads_load_iff {text : String} (hlocate : locate h directory = .ok (some file))
    (hbytes : h.files.bytes? h.directory file = some (encode text)) :
    Loads (load h directory) ↔
      file.name = "dub.sdl" ∨ Manages (translateNewlines text.toList) := by
  have htext : textOfBytes (encode text) = .ok (translateNewlines text.toList) := by
    rw [textOfBytes, Text.Utf8.decode_encode]
    rfl
  rw [load, hlocate, ← endsWith_of_locate hlocate]
  simp only [bind, Except.bind, hbytes, Option.getD_some, htext]
  by_cases hname : file.name.endsWith ".sdl" = true
  · exact iff_of_true (loads_ofText_of_tags hname) (Or.inl hname)
  · rw [or_iff_right hname]
    exact loads_ofText_iff (Bool.eq_false_iff.mpr hname)

lemma not_loads_of_not_isText {bytes : List UInt8} (hlocate : locate h directory = .ok (some file))
    (hbytes : h.files.bytes? h.directory file = some bytes) (htext : ¬ IsText bytes) :
    ¬ Loads (load h directory) := by
  rcases Text.Utf8.decode_cases bytes with ⟨text, heq, -⟩ | ⟨-, f, hf⟩
  · exact absurd ⟨text, heq⟩ htext
  · rw [load, hlocate]
    simp only [bind, Except.bind, hbytes, Option.getD_some, textOfBytes, hf]
    exact not_loads_of_error (by rintro cause ⟨⟩)

end

/-- A recipe is loaded from a directory, or a failure says why there is none. -/
def LoadsLawfully (h : Host) (directory : Path) : Prop :=
  Loads (load h directory)

/-- A recipe is loaded lawfully just if the system does not refuse to look for its file, and what is
in the file is text, of tags or of a document that loading manages. -/
theorem loadsLawfully_iff (h : Host) (directory : Path) :
    LoadsLawfully h directory ↔ ¬ LookupRefused h directory ∧
      ∀ file bytes, locate h directory = .ok (some file) →
        h.files.bytes? h.directory file = some bytes →
          ∃ text, bytes = encode text ∧
            (file.name = "dub.sdl" ∨ Manages (translateNewlines text.toList)) := by
  constructor
  · intro hloads
    refine ⟨fun hrefused => ?_, fun file bytes hlocate hbytes => ?_⟩
    · obtain ⟨path, hpath⟩ := lookupRefused_iff.mp hrefused
      rw [LoadsLawfully, load, hpath] at hloads
      exact not_loads_of_error (by rintro cause ⟨⟩) hloads
    · by_cases htext : IsText bytes
      · obtain ⟨text, rfl⟩ := htext
        exact ⟨text, rfl, (loads_load_iff hlocate hbytes).mp hloads⟩
      · exact absurd hloads (not_loads_of_not_isText hlocate hbytes htext)
  · rintro ⟨hrefused, hfile⟩
    cases hlocate : locate h directory with
    | error e =>
      obtain ⟨path, rfl⟩ := locate_eq_error hlocate
      exact absurd (lookupRefused_iff.mpr ⟨path, hlocate⟩) hrefused
    | ok found =>
      cases found with
      | none =>
        rw [LoadsLawfully, load, hlocate]
        exact loads_recipe _
      | some file =>
        obtain ⟨bytes, hbytes⟩ := bytes_of_lookForFile (of_findM?_eq_some hlocate).2
        obtain ⟨text, rfl, hmanages⟩ := hfile file bytes hlocate hbytes
        exact (loads_load_iff hlocate hbytes).mpr hmanages

/-! Dependencies are given as a sequence. -/

/-- An object whose dependencies are a sequence. -/
def sequenceText : String :=
  "\x7b\"dependencies\": []\x7d"

/-- The object is not refused as a recipe: that a sequence has no members is passed on. -/
theorem not_loadsLawfully_of_sequence :
    load (sampleHost "dub.json" (encode sequenceText)) ⟨.slash, ["p"]⟩ =
        .error (.shape (.lacks "list" "items")) ∧
      ¬ LoadsLawfully (sampleHost "dub.json" (encode sequenceText)) ⟨.slash, ["p"]⟩ := by
  have hread : Document.read (translateNewlines sequenceText.toList) =
      .ok (.object [("dependencies", .array [])]) := by
    cbv
  have hname : ((⟨.slash, ["p"]⟩ : Path).join (Path.ofText "dub.json")).name = "dub.json" :=
    name_join_ofText (by cbv)
  have hend : "dub.json".endsWith ".sdl" = false := by cbv
  have hload : load (sampleHost "dub.json" (encode sequenceText)) ⟨.slash, ["p"]⟩ =
      .error (.shape (.lacks "list" "items")) := by
    rw [load_of_holds (holds_sample (by decide)), ofText, hname, hend, hread]
    rfl
  refine ⟨hload, ?_⟩
  rw [LoadsLawfully, hload]
  exact not_loads_of_error (by rintro cause ⟨⟩)

end Recipe

end DubCheck
