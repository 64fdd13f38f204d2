import DubCheck.Proofs.Project.Coherence
import DubCheck.Proofs.Project.Selecting
import DubCheck.Proofs.Recipe.Default
import DubCheck.Proofs.Workspace.ArchType
import DubCheck.Proofs.Workspace.Startup
import DubCheck.Workspace.Selections
/-!
# What comes of selecting several values

What is asked for on a command line is selected, one thing after another.  The results of the
selections are not looked at: that there are no paths is no failure.  But if nothing fails, then
everything that was asked for is selected, and what was not asked for is as it was.

* `Session.Chosen`, `Session.Chooses`: one value, and several values, that have been selected.
* `Session.Chooses.record`: the paths stay coherent with what providers have been asked.
* `Session.wishConfiguration_chosen`, `Session.wishNamed_chosen`, `Session.wishCompiler_chosen`:
  whatever is asked for without a failure is selected.
* `Session.fulfils_of_applyWishes`: what this comes to for all that is asked for.
-/

namespace DubCheck

namespace Project

variable {provider : Dub.Provider} {resolver : Resolver} {pick : Pick} {w v : Workbench}
  {found : Bool}

/-- An operation whose question is interrupted does not succeed. -/
lemma Course.answer_ne_of_ok {course : Course} (h : (course.follow provider).1 = .ok found)
    {x : Exchange} (hx : course.exchange? provider = some x) :
    x.answer ≠ .error .interrupted := by
  cases course with
  | ends result => cases hx
  | asks settings w =>
    cases hx
    intro hanswer
    simp only at hanswer
    simp only [Course.follow, hanswer] at h
    cases h

/-- A value that can be selected becomes one of the selections. -/
lemma selection_of_takes (provider : Dub.Provider) (h : w.project.Takes resolver w.host pick) :
    ((select provider resolver pick).apply w).2.project.selection =
      w.project.selection.set pick := by
  have hdeclares := declares_withPick h.offered h.valid
  rw [select_apply, selectCourse_of_takes h, ← refreshCourse_of_declares hdeclares,
    ← refresh_apply, project_refresh]
  rfl

/-- Where selecting a value succeeds, the value is selected, or it is not offered and nothing has
changed in the project. -/
lemma select_ok_cases (h : (select provider resolver pick).apply w = (.ok found, v)) :
    v.project.selection = w.project.selection.set pick ∨
      ¬ w.project.Offers resolver w.host pick ∧ found = false ∧
        v.project.selection = w.project.selection := by
  by_cases htakes : w.project.Takes resolver w.host pick
  · have hselection := selection_of_takes provider htakes
    rw [h] at hselection
    exact Or.inl hselection
  · have hblocked : ¬ ∃ e, w.project.Blocked resolver w.host pick e := by
      rintro ⟨e, he⟩
      rw [select_apply, selectCourse_of_blocked he] at h
      cases h
    right
    by_cases hoffers : w.project.Offers resolver w.host pick
    · -- The active configuration is not declared, which is a failure.
      obtain ⟨hp, hd⟩ := not_or.mp fun hvalid => htakes ⟨hoffers, hvalid⟩
      obtain ⟨_, _, hcourse⟩ :=
        (selectCourse_of_not_declares hoffers hp hd).resolve_right hblocked
      rw [select_apply, hcourse] at h
      cases h
    · obtain ⟨text, hcourse⟩ := (selectCourse_of_not_offers hoffers).resolve_right hblocked
      rw [select_apply, hcourse] at h
      cases h
      exact ⟨hoffers, rfl, rfl⟩

end Project

namespace Session

variable {s t u : Session} {l m n : Loaded} {pick : Pick} {picks more : List Pick} {wish : Wish}
  {wishes : Wishes} {found : Bool} {name : String}

/-! ## Selecting one value -/

/-- The call that selecting a value comes to in the current project. -/
def call (s : Session) (pick : Pick) : Project.Call where
  operation := .select pick
  host := s.host
  provider := s.workspace.provider
  resolver := s.workspace.resolver

/-- A value has been tried in the current project, and nobody has interrupted the question for the
paths. -/
structure Tried (s : Session) (l : Loaded) (pick : Pick) (t : Session) (m : Loaded) : Prop where
  session : ((select pick).apply s).2 = t
  loaded : t.loaded? = some m
  project : m.project = (s.call pick).after l.project
  answered : (s.call pick).Answered l.project

/-- A value has been selected in the current project. -/
structure Chosen (s : Session) (l : Loaded) (pick : Pick) (t : Session) (m : Loaded) : Prop
    extends Tried s l pick t m where
  selection : m.project.selection = l.project.selection.set pick

/-- Where selecting a value succeeds, it has been tried.  It is selected, or it is not offered and
the selections are what they were. -/
lemma tried_of_select (hl : s.loaded? = some l) (h : (select pick).apply s = (.ok found, t)) :
    ∃ m, Tried s l pick t m ∧
      (m.project.selection = l.project.selection.set pick ∨
        ¬ l.project.Offers s.workspace.resolver s.host pick ∧ found = false ∧
          m.project.selection = l.project.selection) := by
  rcases hselect : (Project.select s.workspace.provider s.workspace.resolver pick).apply
    ⟨s.host, l.project⟩ with ⟨result, w⟩
  obtain ⟨t', happly, hloaded⟩ := onCurrent_of_apply hl hselect
  have hsame : (result, t') = (.ok found, t) := by
    rw [← h, ← happly]
    simp only [select, Act.apply_bind, Act.apply_get]
  cases hsame
  refine ⟨{ l with project := w.project }, ⟨by rw [h], hloaded, ?_, ?_⟩,
    Project.select_ok_cases hselect⟩
  · simp only [call, Project.Call.after, hselect]
  · intro x hx
    rw [Project.select_apply] at hselect
    exact Project.Course.answer_ne_of_ok (congrArg Prod.fst hselect) hx

lemma chosen_of_offers (hl : s.loaded? = some l)
    (ho : l.project.Offers s.workspace.resolver s.host pick)
    (h : (select pick).apply s = (.ok found, t)) : ∃ m, Chosen s l pick t m := by
  obtain ⟨m, htried, hselection | ⟨hno, -, -⟩⟩ := tried_of_select hl h
  · exact ⟨m, htried, hselection⟩
  · exact absurd ho hno

/-! ## Selecting several values -/

/-- The session after several values have been selected, one after another. -/
def selecting (s : Session) (picks : List Pick) : Session :=
  picks.foldl (fun s pick => ((select pick).apply s).2) s

/-- The calls that this comes to in the current project. -/
def calls (s : Session) : List Pick → List Project.Call
  | [] => []
  | pick :: picks => s.call pick :: ((select pick).apply s).2.calls picks

/-- Several values have been selected in the current project, one after another. -/
inductive Chooses : Session → Loaded → List Pick → Session → Loaded → Prop where
  /-- Nothing has been selected. -/
  | nil {s : Session} {l : Loaded} : s.loaded? = some l → Chooses s l [] s l
  /-- A value has been selected, and then others. -/
  | cons {s t u : Session} {l m n : Loaded} {pick : Pick} {picks : List Pick} :
    Chosen s l pick t m → Chooses t m picks u n → Chooses s l (pick :: picks) u n

namespace Chooses

lemma loaded (h : Chooses s l picks t m) : t.loaded? = some m := by
  induction h with
  | nil hl => exact hl
  | cons _ _ ih => exact ih

lemma append (h : Chooses s l picks t m) (k : Chooses t m more u n) :
    Chooses s l (picks ++ more) u n := by
  induction h with
  | nil _ => exact k
  | cons hchosen _ ih => exact .cons hchosen (ih k)

lemma single (h : Chosen s l pick t m) : Chooses s l [pick] t m :=
  .cons h (.nil h.loaded)

lemma session (h : Chooses s l picks t m) : t = s.selecting picks := by
  induction h with
  | nil _ => rfl
  | cons hchosen _ ih =>
    rw [ih, ← hchosen.session]
    rfl

lemma selection (h : Chooses s l picks t m) :
    m.project.selection = picks.foldl Selection.set l.project.selection := by
  induction h with
  | nil _ => rfl
  | cons hchosen _ ih => rw [ih, hchosen.selection, List.foldl_cons]

/-- The calls lead to the project that is there in the end, and keep the paths coherent. -/
lemma record (h : Chooses s l picks t m) {exchanges : List Project.Exchange}
    (hr : Project.Record.Coherent ⟨l.project, exchanges⟩) :
    let r := (s.calls picks).foldl Project.Record.after ⟨l.project, exchanges⟩
    r.project = m.project ∧ r.Coherent := by
  induction h generalizing exchanges with
  | nil _ => exact ⟨rfl, hr⟩
  | cons hchosen _ ih =>
    have hafter := hr.after_of_answered hchosen.answered
    rw [Project.Record.after, ← hchosen.project] at hafter
    have hrest := ih hafter
    rw [hchosen.project, ← hchosen.session] at hrest
    exact hrest

end Chooses

/-! ## Asking for a value -/

lemma configurations_apply (hl : s.loaded? = some l) :
    configurations.apply s = (l.project.recipe.configurationNames s.host, s) := by
  simp only [configurations, Act.apply_bind, project_apply, hl, Option.elim_some, Act.apply_get,
    Act.apply_ofExcept]

lemma buildTypes_apply (hl : s.loaded? = some l) :
    buildTypes.apply s = (.ok l.project.recipe.buildTypes, s) := by
  simp only [buildTypes, Act.apply_bind, project_apply, hl, Option.elim_some, Act.apply_pure]

lemma require_of_any {available : List Document}
    (h : available.any (·.same wish.document) = true) (what : String) (s : Session) :
    (require what wish available).apply s = (.ok (), s) := by
  simp only [require, h, if_true, Act.apply_pure]

lemma require_eq_ok {what : String} {available : List Document}
    (h : (require what wish available).apply s = (.ok (), t)) :
    t = s ∧ available.any (·.same wish.document) = true := by
  by_cases hany : available.any (·.same wish.document) = true
  · rw [require_of_any hany] at h
    cases h
    exact ⟨rfl, hany⟩
  · unfold require at h
    rw [if_neg hany] at h
    obtain ⟨_, _, _, hthrow⟩ := Act.exists_of_bind_eq_ok h
    cases hthrow

/-- A configuration that is declared is selected when it is asked for. -/
lemma wishConfiguration_of_declares (hl : s.loaded? = some l)
    (hd : l.project.recipe.Declares s.host wish.document) :
    (wishConfiguration wish).apply s =
      (select (.configuration wish.document) >>= fun _ => pure ()).apply s := by
  obtain ⟨names, hn, -⟩ := id hd
  have hrequire := require_of_any ((Recipe.declares_iff hn).mp hd) "configuration" s
  rw [wishConfiguration, Act.apply_bind, configurations_apply hl, hn]
  simp only [Act.apply_bind, hrequire]

/-- A configuration that is asked for without a failure is selected. -/
lemma wishConfiguration_chosen (hl : s.loaded? = some l)
    (h : (wishConfiguration wish).apply s = (.ok (), t)) :
    ∃ m, Chosen s l (.configuration wish.document) t m := by
  obtain ⟨names, _, hask, hrest⟩ := Act.exists_of_bind_eq_ok h
  rw [configurations_apply hl] at hask
  obtain ⟨hn, rfl⟩ := Prod.mk.inj hask
  obtain ⟨_, _, hrequire, hlast⟩ := Act.exists_of_bind_eq_ok hrest
  obtain ⟨rfl, hany⟩ := require_eq_ok hrequire
  obtain ⟨found, _, hselect, hpure⟩ := Act.exists_of_bind_eq_ok hlast
  cases hpure
  exact chosen_of_offers hl ((Recipe.declares_iff hn).mpr hany) hselect

/-- What is among names has a name itself, and it is one of them. -/
lemma exists_mem_of_any {names : List String}
    (h : (names.map Document.string).any (·.same wish.document) = true) :
    ∃ name ∈ names, wish = .named name := by
  obtain ⟨_, hmem, hsame⟩ := List.any_eq_true.mp h
  obtain ⟨name, hname, rfl⟩ := List.mem_map.mp hmem
  cases wish with
  | named other =>
    obtain rfl := Document.same_string_iff.mp hsame
    exact ⟨name, hname, rfl⟩
  | nameless => simp [Wish.document, Document.same, Document.sameLeaf] at hsame

/-- Something that is asked for by its name without a failure is selected. -/
lemma wishNamed_chosen {what : String} {pick : String → Pick} {ask : Act Session (List String)}
    {names : List String} (hl : s.loaded? = some l) (hask : ask.apply s = (.ok names, s))
    (ho : ∀ name ∈ names, l.project.Offers s.workspace.resolver s.host (pick name))
    (h : (do
      require what wish ((← ask).map .string)
      selectNamed pick wish : Act Session Unit).apply s = (.ok (), t)) :
    ∃ name m, wish = .named name ∧ Chosen s l (pick name) t m := by
  obtain ⟨_, _, hasked, hrest⟩ := Act.exists_of_bind_eq_ok h
  rw [hask] at hasked
  cases hasked
  obtain ⟨_, _, hrequire, hlast⟩ := Act.exists_of_bind_eq_ok hrest
  obtain ⟨rfl, hany⟩ := require_eq_ok hrequire
  obtain ⟨name, hmem, rfl⟩ := exists_mem_of_any hany
  obtain ⟨found, _, hselect, hpure⟩ := Act.exists_of_bind_eq_ok hlast
  cases hpure
  obtain ⟨m, hchosen⟩ := chosen_of_offers hl (ho name hmem) hselect
  exact ⟨name, m, rfl, hchosen⟩

lemma wishBuildType_chosen (hl : s.loaded? = some l)
    (h : (wishBuildType wish).apply s = (.ok (), t)) :
    ∃ name m, wish = .named name ∧ Chosen s l (.buildType name) t m :=
  wishNamed_chosen hl (buildTypes_apply hl) (fun _ hmem => hmem) h

lemma wishArchType_chosen (hl : s.loaded? = some l)
    (h : (wishArchType wish).apply s = (.ok (), t)) :
    ∃ name m, wish = .named name ∧ Chosen s l (.archType name) t m := by
  have hask : archTypes.apply s =
      (.ok (l.project.selection.archTypes s.workspace.resolver), s) := by
    rw [archTypes_apply, selection?, hl]
    rfl
  exact wishNamed_chosen hl hask (fun _ hmem => hmem) h

/-- That a compiler is active is found out by looking at the project. -/
lemma active_of_check (hl : s.loaded? = some l)
    (h : (do
      if (← project).selection.compiler ≠ name then throw (.compilerNotFound name)
      : Act Session Unit).apply s = (.ok (), t)) :
    l.project.selection.compiler = name ∧ t = s := by
  rw [Act.apply_bind, project_apply, hl] at h
  dsimp only [Option.elim_some] at h
  by_cases hname : l.project.selection.compiler = name
  · rw [if_neg (not_not.mpr hname)] at h
    cases h
    exact ⟨hname, rfl⟩
  · rw [if_pos hname] at h
    cases h

/-- A compiler that is asked for without a failure is selected.  If it has been rejected, it is the
one that was active already. -/
lemma wishCompiler_chosen (hl : s.loaded? = some l)
    (h : (wishCompiler wish).apply s = (.ok (), t)) :
    ∃ name m, wish = .named name ∧ Chosen s l (.compiler name) t m := by
  cases wish with
  | nameless =>
    obtain ⟨_, _, _, hthrow⟩ := Act.exists_of_bind_eq_ok h
    cases hthrow
  | named name =>
    obtain ⟨found, t', hselect, hrest⟩ := Act.exists_of_bind_eq_ok h
    obtain ⟨m, htried, hcases⟩ := tried_of_select hl hselect
    cases found with
    | true =>
      cases hrest
      obtain hselection | ⟨-, hfound, -⟩ := hcases
      · exact ⟨name, m, rfl, htried, hselection⟩
      · cases hfound
    | false =>
      -- The compiler was rejected or there are no paths, and the active compiler tells which.
      obtain ⟨hactive, rfl⟩ := active_of_check htried.loaded hrest
      obtain hselection | ⟨-, -, hselection⟩ := hcases
      · exact ⟨name, m, rfl, htried, hselection⟩
      · refine ⟨name, m, rfl, htried, ?_⟩
        rw [← hactive, hselection]
        rfl

end Session

/-! ## Asking for several values -/

/-- The name that something is asked for by, if it is not left out. -/
def Wish.name? : Wish → Option String
  | .named name => some name
  | .nameless => none

lemma Wish.bind_name?_map_named (name? : Option String) :
    (name?.map Wish.named).bind Wish.name? = name? := by
  cases name? <;> rfl

/-- The values that are selected where all this is asked for, in the order in which they are. -/
def Wishes.picks (w : Wishes) : List Pick :=
  (w.configuration.map fun wish => .configuration wish.document).toList ++
    ((w.compiler.bind Wish.name?).map .compiler).toList ++
    ((w.buildType.bind Wish.name?).map .buildType).toList ++
    ((w.archType.bind Wish.name?).map .archType).toList

/-- Everything that was asked for is selected, and the rest is as it was before. -/
structure Selection.Fulfils (after before : Selection) (w : Wishes) : Prop where
  configuration : after.configuration = (w.configuration.map (·.document)).getD before.configuration
  buildType : .named after.buildType = w.buildType.getD (.named before.buildType)
  archType : .named after.archType = w.archType.getD (.named before.archType)
  compiler : .named after.compiler = w.compiler.getD (.named before.compiler)

lemma Selection.fulfils_foldl_picks (before : Selection) (configuration : Option Wish)
    (buildType archType compiler : Option String) :
    let w : Wishes :=
      ⟨configuration, buildType.map .named, archType.map .named, compiler.map .named⟩
    (w.picks.foldl Selection.set before).Fulfils before w := by
  cases configuration <;> cases buildType <;> cases archType <;> cases compiler <;>
    exact ⟨rfl, rfl, rfl, rfl⟩

namespace Session

variable {s t : Session} {l : Loaded} {wish? : Option Wish} {wishes : Wishes}

lemma chooses_of_configuration (hl : s.loaded? = some l)
    (h : (wish?.forM wishConfiguration).apply s = (.ok (), t)) :
    ∃ m, Chooses s l (wish?.map fun wish => .configuration wish.document).toList t m := by
  cases wish? with
  | none =>
    cases h
    exact ⟨l, .nil hl⟩
  | some wish =>
    obtain ⟨m, hchosen⟩ := wishConfiguration_chosen hl h
    exact ⟨m, .single hchosen⟩

/-- What is asked for by its name is selected, if anything is asked for. -/
lemma chooses_of_named {act : Wish → Act Session Unit} {pick : String → Pick}
    (hl : s.loaded? = some l)
    (hact : ∀ {wish}, (act wish).apply s = (.ok (), t) →
      ∃ name m, wish = .named name ∧ Chosen s l (pick name) t m)
    (h : (wish?.forM act).apply s = (.ok (), t)) :
    ∃ (name? : Option String) (m : Loaded), wish? = name?.map .named ∧
      Chooses s l (name?.map pick).toList t m := by
  cases wish? with
  | none =>
    cases h
    exact ⟨none, l, rfl, .nil hl⟩
  | some wish =>
    obtain ⟨name, m, rfl, hchosen⟩ := hact h
    exact ⟨some name, m, rfl, .single hchosen⟩

/-- **Selecting what is asked for.**  If asking for values does not fail, whatever the providers
answer, then everything that was asked for is selected, and what was not asked for is as it was.
All that has happened is that the values were selected one after another, so that the paths are
coherent with what providers have been asked if they were before. -/
theorem fulfils_of_applyWishes (hl : s.loaded? = some l)
    (h : (applyWishes wishes).apply s = (.ok (), t)) :
    t = s.selecting wishes.picks ∧ ∃ m, t.loaded? = some m ∧
      m.project.selection.Fulfils l.project.selection wishes ∧
      ∀ exchanges, Project.Record.Coherent ⟨l.project, exchanges⟩ →
        let r := (s.calls wishes.picks).foldl Project.Record.after ⟨l.project, exchanges⟩
        r.project = m.project ∧ r.Coherent := by
  obtain ⟨configuration, buildType, archType, compiler⟩ := wishes
  obtain ⟨_, s₁, h₁, hrest⟩ := Act.exists_of_bind_eq_ok h
  obtain ⟨_, s₂, h₂, hrest⟩ := Act.exists_of_bind_eq_ok hrest
  obtain ⟨_, s₃, h₃, h₄⟩ := Act.exists_of_bind_eq_ok hrest
  obtain ⟨m₁, hconfiguration⟩ := chooses_of_configuration hl h₁
  obtain ⟨compiler, m₂, rfl, hcompiler⟩ :=
    chooses_of_named hconfiguration.loaded (wishCompiler_chosen hconfiguration.loaded) h₂
  obtain ⟨buildType, m₃, rfl, hbuildType⟩ :=
    chooses_of_named hcompiler.loaded (wishBuildType_chosen hcompiler.loaded) h₃
  obtain ⟨archType, m₄, rfl, harchType⟩ :=
    chooses_of_named hbuildType.loaded (wishArchType_chosen hbuildType.loaded) h₄
  have hchooses := ((hconfiguration.append hcompiler).append hbuildType).append harchType
  have hpicks : Wishes.picks ⟨configuration, buildType.map .named, archType.map .named,
      compiler.map .named⟩ = (configuration.map fun wish => .configuration wish.document).toList ++
        (compiler.map .compiler).toList ++ (buildType.map .buildType).toList ++
        (archType.map .archType).toList := by
    simp only [Wishes.picks, Wish.bind_name?_map_named]
  rw [← hpicks] at hchooses
  refine ⟨hchooses.session, m₄, hchooses.loaded, ?_, fun exchanges => hchooses.record⟩
  rw [hchooses.selection]
  exact Selection.fulfils_foldl_picks ..

/-! A release build of the only configuration is asked for. -/

/-- The paths that the sample provider lists. -/
def samplePaths : PathSet :=
  ⟨["source"], [], ["source/app.d"]⟩

/-- The sample project with a selection and paths. -/
def projectWith (selection : Selection) (paths : PathSet) : Project :=
  ⟨Project.sampleRecipe, selection, paths⟩

/-- A session with this project on the sample host. -/
def sampleSession (log : List Note) (selection : Selection) (paths : PathSet) : Session where
  host := { Project.sampleHost with log := log }
  workspace := {
    directory := ["p"]
    settings := ⟨⟨.slash, [".dubsense"]⟩, "dub", "INFO", none⟩
    resolver := {}
    provider := Project.sampleProvider
    engine := .dub "dub" ["p"]
    projects := [{ project := projectWith selection paths }]
    current := some 0 }

/-- A release build of the only configuration. -/
def sampleWishes : Wishes where
  configuration := some (.named "app")
  buildType := some (.named "release")

lemma resolve_sampleHost (log : List Note) :
    ({} : Resolver).resolve { Project.sampleHost with log := log } "dmd" =
      .ok ⟨.dmd, "dmd", "/bin/dmd"⟩ :=
  (Resolver.resolve_logged ..).trans (by cbv)

/-- A value that can be selected is selected there, and its paths are listed. -/
lemma select_sampleSession (log : List Note) (selection : Selection) (paths : PathSet) (pick : Pick)
    (h : (projectWith selection paths).Takes {} { Project.sampleHost with log := log } pick)
    (hcompiler : (selection.set pick).compiler = "dmd") :
    ∃ log', (select pick).apply (sampleSession log selection paths) =
      (.ok true, sampleSession log' (selection.set pick) samplePaths) := by
  obtain ⟨settings, -, hselects⟩ := (Project.selects_of_offers
    (w := ⟨{ Project.sampleHost with log := log }, projectWith selection paths⟩)
    h.offered h.valid).2 ⟨.dmd, "dmd", "/bin/dmd"⟩ (hcompiler ▸ resolve_sampleHost log)
  obtain ⟨level, text, hselect⟩ := hselects Project.sampleProvider
    (.ok [["source", ""], [], ["source/app.d"]]) _ rfl (by rintro ⟨⟩)
  have hanswer : PathSet.ofAnswer (.ok [["source", ""], [], ["source/app.d"]]) = samplePaths := rfl
  have hloaded : (sampleSession log selection paths).workspace.projects[0]? =
      some { project := projectWith selection paths } := rfl
  rw [hanswer, Host.noted_eq] at hselect
  refine ⟨(Host.noted { Project.sampleHost with log := log } level text).log, ?_⟩
  simp only [select, Act.apply_bind, Act.apply_get]
  rw [onCurrent_apply_of_loaded _ rfl hloaded]
  exact congrArg (fun r => (r.1, (sampleSession log selection paths).putProject 0 r.2)) hselect

/-- The release build is selected there. -/
lemma applyWishes_sampleSession : ∃ log,
    (applyWishes sampleWishes).apply (sampleSession [] Project.sampleProject.selection {}) =
      (.ok (), sampleSession log
        { configuration := .string "app", buildType := "release", compiler := "dmd" }
        samplePaths) := by
  have hdeclares : ∀ log, Project.sampleRecipe.Declares { Project.sampleHost with log := log }
      (Wish.named "app").document :=
    fun log => ⟨[.string "app"], rfl, _, List.mem_singleton_self _, by cbv⟩
  obtain ⟨log₁, hconfiguration⟩ := select_sampleSession [] Project.sampleProject.selection {}
    (.configuration (Wish.named "app").document) ⟨hdeclares [], Or.inl rfl⟩ rfl
  have hmem : "release" ∈ Project.sampleRecipe.buildTypes := by decide
  obtain ⟨log₂, hbuildType⟩ := select_sampleSession log₁
    (Project.sampleProject.selection.set (.configuration (Wish.named "app").document)) samplePaths
    (.buildType "release") ⟨hmem, Or.inr (hdeclares log₁)⟩ rfl
  -- Both values are there to be asked for.
  have hasked : (wishConfiguration (.named "app")).apply
      (sampleSession [] Project.sampleProject.selection {}) = _ :=
    wishConfiguration_of_declares rfl (hdeclares [])
  rw [Act.apply_bind, hconfiguration] at hasked
  have hnames : ∀ selection, buildTypes.apply (sampleSession log₁ selection samplePaths) =
      (.ok Project.sampleRecipe.buildTypes, sampleSession log₁ selection samplePaths) :=
    fun selection => buildTypes_apply (l := { project := projectWith selection samplePaths }) rfl
  have hany : (Project.sampleRecipe.buildTypes.map Document.string).any
      (·.same (Wish.named "release").document) = true := by
    decide +kernel
  refine ⟨log₂, ?_⟩
  simp only [applyWishes, sampleWishes, Option.forM, Act.apply_bind, Act.apply_pure, hasked,
    wishBuildType, hnames, require_of_any hany, selectNamed, hbuildType]
  rfl

theorem fulfils_of_sampleWishes : ∃ t m,
    (sampleSession [] Project.sampleProject.selection {}).loaded? =
        some { project := Project.sampleProject } ∧
      (applyWishes sampleWishes).apply (sampleSession [] Project.sampleProject.selection {}) =
        (.ok (), t) ∧
      t.loaded? = some m ∧
      m.project.selection.Fulfils Project.sampleProject.selection sampleWishes ∧
      (let r := ((sampleSession [] Project.sampleProject.selection {}).calls
        sampleWishes.picks).foldl Project.Record.after ⟨Project.sampleProject, []⟩
      r.project = m.project ∧ r.Coherent) ∧
      m.project.paths = samplePaths := by
  obtain ⟨log, h⟩ := applyWishes_sampleSession
  have hl : (sampleSession [] Project.sampleProject.selection {}).loaded? =
      some { project := Project.sampleProject } := rfl
  obtain ⟨-, m, hm, hfulfils, hcoherent⟩ := fulfils_of_applyWishes hl h
  refine ⟨_, m, hl, h, hm, hfulfils, hcoherent [] (Or.inl rfl), ?_⟩
  cases hm
  rfl

end Session

end DubCheck
