import DubCheck.Proofs.Recipe.Default
import DubCheck.Proofs.Workspace.Isolation
import DubCheck.Proofs.Workspace.Startup
/-!
# Paths that are found again

The paths of a project are found again when it is loaded, when a value is selected in it and when an
update of it runs.  If dub does not list them, because it fails or because the compiler cannot be
found, none are left.  The one exception is an update that finds the active configuration not
declared any more: it fails before the old paths are taken away, and they stay.

* `Project.refresh_of_declares`, `Project.refresh_of_not_declares`: what becomes of the paths.
* `Session.renewed_run_iff`, `History.pathsLawful_step_iff`: which steps leave no old paths.
* `History.pathsLawful_iff`: what this means for all steps since the workspace was made.
-/

namespace DubCheck

/-! ## Projects -/

namespace Project

variable {w : Workbench} {resolver : Resolver} (program : String) (directory : Location)

/-- A project has the paths that dub lists for what is selected in it, and dub was asked for them
between two states of the host, once. -/
def Listed (h k : Host) (p : Project) : Prop :=
  ∃ settings imports stringImports sources, settings.Carries p.selection ∧
    k.runs =
      h.runs ++ [Dub.askRun program directory (Dub.listArguments settings pathFields)] ∧
    (Dub.answerOf program (h.dub (Dub.listArguments settings pathFields))).bind
      (Dub.splitLists · pathFields.length) = .ok [imports, stringImports, sources] ∧
    p.paths =
      ⟨imports.filter (· ≠ ""), stringImports.filter (· ≠ ""), sources.filter (· ≠ "")⟩

/-- The same project has new paths, or none: those that dub lists, if it lists any. -/
def Renews (w v : Workbench) : Prop :=
  v.project = { w.project with paths := v.project.paths } ∧
    (v.project.paths = {} ∨ v.project.Listed program directory w.host v.host)

/-- With a compiler, the paths are replaced by what comes of the answer of dub. -/
lemma askCourse_follow_of_compiler (hw : w.host.Quiet) {c : Compiler}
    (hc : resolver.resolve w.host w.project.selection.compiler = .ok c) :
    ∃ settings, settings.Carries w.project.selection ∧
      let arguments := Dub.listArguments settings pathFields
      let answer := (Dub.answerOf program (w.host.dub arguments)).bind
        (Dub.splitLists · pathFields.length)
      let v := ((askCourse resolver w).follow (.dub program directory)).2
      v.project = { w.project with paths := .ofAnswer answer } ∧
        v.host.runs = w.host.runs ++ [Dub.askRun program directory arguments] := by
  obtain ⟨settings, hcarries, hcourse⟩ := askCourse_of_resolve_ok hc
  have hlist := Dub.list_apply program directory (h := w.host) settings pathFields
  have hne := (Dub.list_sound program directory settings pathFields w.host hw).1
  rw [hlist] at hne
  obtain ⟨level, text, hconclude⟩ := conclude_bind_ofLists hne
    { w with host := { w.host with
      runs := w.host.runs ++
        [Dub.askRun program directory (Dub.listArguments settings pathFields)] } }
  refine ⟨settings, hcarries, ?_⟩
  rw [hcourse, Course.follow, hlist]
  dsimp only at hconclude ⊢
  rw [hconclude]
  exact ⟨rfl, Host.noted_runs level text⟩

/-- Asking for the paths leaves none of the old ones. -/
lemma askCourse_renews (hw : w.host.Quiet) :
    Renews program directory w ((askCourse resolver w).follow (.dub program directory)).2 := by
  cases hc : resolver.resolve w.host w.project.selection.compiler with
  | error e =>
    obtain ⟨level, text, hcourse⟩ := askCourse_of_resolve_error hc
    rw [hcourse]
    exact ⟨rfl, Or.inl rfl⟩
  | ok c =>
    obtain ⟨settings, hcarries, hproject, hruns⟩ :=
      askCourse_follow_of_compiler program directory hw hc
    rw [Renews, Listed, hproject]
    refine ⟨rfl, ?_⟩
    rcases PathSet.ofAnswer_cases ((Dub.answerOf program
        (w.host.dub (Dub.listArguments settings pathFields))).bind
          (Dub.splitLists · pathFields.length)) with hnone | ⟨_, _, _, hanswer, hpaths⟩
    · exact Or.inl hnone
    · exact Or.inr ⟨settings, _, _, _, hcarries, hruns, hanswer, hpaths⟩

/-- If the active configuration is declared, none of the old paths are left. -/
theorem refresh_of_declares (resolver : Resolver) (hw : w.host.Quiet)
    (hd : w.project.recipe.Declares w.host w.project.selection.configuration) :
    Renews program directory w ((refresh (.dub program directory) resolver).apply w).2 := by
  rw [refresh_apply, refreshCourse_of_declares hd]
  exact askCourse_renews program directory hw

/-- If the active configuration is not declared, the old paths stay. -/
theorem refresh_of_not_declares (provider : Dub.Provider) (resolver : Resolver)
    (hd : ¬ w.project.recipe.Declares w.host w.project.selection.configuration) :
    ∃ e, (refresh provider resolver).apply w = (.error e, w) := by
  have hcheck : ∃ e, w.project.check w.host = .error e := by
    cases hn : w.project.recipe.configurationNames w.host with
    | error e => exact ⟨e, check_of_error hn⟩
    | ok names =>
      rw [check_of_not_declares hn hd]
      cases Document.joined names with
      | error e => exact ⟨_, rfl⟩
      | ok text => exact ⟨_, rfl⟩
  obtain ⟨e, hcheck⟩ := hcheck
  refine ⟨e, ?_⟩
  rw [refresh_apply, refreshCourse, hcheck]
  rfl

/-- A value that is selected leaves none of the old paths, and the active configuration is one that
is declared. -/
lemma select_renews {pick : Pick} (hw : w.host.Quiet)
    (h : w.project.Takes resolver w.host pick) :
    let v := ((select (.dub program directory) resolver pick).apply w).2
    Renews program directory (withPick pick w) v ∧
      v.project.recipe.Declares w.host v.project.selection.configuration := by
  have hrenews : Renews program directory (withPick pick w)
      ((select (.dub program directory) resolver pick).apply w).2 := by
    rw [select_apply, selectCourse_of_takes h]
    exact askCourse_renews program directory (w := withPick pick w) hw
  refine ⟨hrenews, ?_⟩
  rw [hrenews.1]
  exact declares_withPick h.offered h.valid

end Project

/-! ## Sessions -/

namespace Session

variable {s t : Session} {index : Nat} {l : Loaded}

/-- A step finds the paths of the project at a place again. -/
def Refreshes (s : Session) (index : Nat) : Step → Prop
  | .startup => index = s.workspace.projects.length
  | .select pick => s.workspace.current = some index ∧
      ∃ l, s.workspace.projects[index]? = some l ∧
        l.project.Takes s.workspace.resolver s.host pick
  | .run i => ∃ ticket, s.workspace.queue[i]? = some ⟨ticket, .update index⟩
  | _ => False

/-- After a step the project at a place has no paths, or those that dub has listed in this step,
and these are paths of a configuration that its recipe declares. -/
def Renewed (s t : Session) (index : Nat) : Prop :=
  ∀ l, t.workspace.projects[index]? = some l →
    l.project.paths = {} ∨
      l.project.recipe.Declares s.host l.project.selection.configuration ∧
        l.project.Listed s.workspace.settings.dub s.workspace.directory s.host t.host

/-- If a step runs an update, the active configuration of the project is declared, or the project
has no paths. -/
def Tidy (s : Session) : Step → Prop
  | .run i => ∀ ticket index l, s.workspace.queue[i]? = some ⟨ticket, .update index⟩ →
      s.workspace.projects[index]? = some l →
        l.project.paths = {} ∨
          l.project.recipe.Declares s.host l.project.selection.configuration
  | _ => True

/-- Paths that a project has got are those of the session that it has been put into. -/
lemma renewed_of_renews {w v : Workbench} (hw : w.host.dub = s.host.dub)
    (hruns : w.host.runs = s.host.runs) (ht : t.host.runs = v.host.runs)
    (hput : t.workspace.projects[index]? = some { l with project := v.project })
    (hrenews : Project.Renews s.workspace.settings.dub s.workspace.directory w v)
    (hd : v.project.recipe.Declares s.host v.project.selection.configuration) :
    s.Renewed t index := by
  intro l' hl'
  rw [hput] at hl'
  cases hl'
  rcases hrenews.2 with hnone | hlisted
  · exact Or.inl hnone
  · rw [Project.Listed, hw, hruns, ← ht] at hlisted
    exact Or.inr ⟨hd, hlisted⟩

lemma refresh_renews (hs : s.Regular) {w : Workbench} (hw : w.host.Quiet)
    (hd : w.project.recipe.Declares w.host w.project.selection.configuration) :
    Project.Renews s.workspace.settings.dub s.workspace.directory w
      ((Project.refresh s.workspace.provider s.workspace.resolver).apply w).2 := by
  rw [hs.provider]
  exact Project.refresh_of_declares _ _ _ hw hd

/-! ### Selecting -/

lemma renewed_select (hs : s.Regular) {pick : Pick} (hc : s.workspace.current = some index)
    (hl : s.workspace.projects[index]? = some l)
    (h : l.project.Takes s.workspace.resolver s.host pick) :
    s.Renewed ((select pick).apply s).2 index := by
  obtain ⟨hrenews, hd⟩ := Project.select_renews s.workspace.settings.dub s.workspace.directory
    (w := ⟨s.host, l.project⟩) hs.quiet h
  simp only [select, Act.apply_bind, Act.apply_get, hs.provider]
  rw [onCurrent_apply_of_loaded _ hc hl]
  exact renewed_of_renews rfl rfl rfl (projects_putProject hl _) hrenews hd

/-! ### Starting -/

/-- The project that is found at startup has no paths yet. -/
lemma paths_of_starting {p : Project} (h : s.starting = .ok p) : p.paths = {} := by
  obtain ⟨recipe, platform, found, -, -, -, rfl⟩ := starting_eq_ok h
  rfl

lemma renewed_startup (hs : s.Regular) :
    s.Renewed (startup.apply s).2 s.workspace.projects.length := by
  cases h : s.starting with
  | error e =>
    obtain ⟨log, hstartup⟩ := startup_of_error h
    rw [hstartup]
    intro l hl
    simp at hl
  | ok p =>
    by_cases hd : p.recipe.Declares s.host p.selection.configuration
    · obtain ⟨log, hstartup⟩ := startup_of_declares h hd
      have hrenews := refresh_renews hs (w := ⟨{ s.host with log := log }, p⟩) hs.quiet hd
      rw [hstartup]
      refine renewed_of_renews (l := { project := p }) rfl rfl rfl (getElem?_begun s _) hrenews ?_
      rw [hrenews.1]
      exact hd
    · obtain ⟨log, hstartup⟩ := startup_of_not_declares h hd
      rw [hstartup]
      intro l hl
      have hloaded := getElem?_begun s p
      rw [show (s.begun p).workspace.projects =
        (s.opened p log).warned.workspace.projects from rfl, hl] at hloaded
      cases hloaded
      exact Or.inl (paths_of_starting h)

/-! ### Updating -/

/-- A recipe that is read again is given to the current project, whose paths stay. -/
lemma restart_of_loaded {recipe : Recipe}
    (hload : Recipe.load s.host (Path.ofLocation s.workspace.directory) = .ok recipe)
    (hc : s.workspace.current = some index) (hl : s.workspace.projects[index]? = some l) :
    ∃ log, restart.apply s = (.ok (), s.putProject index
      ⟨{ s.host with log := log }, { l.project with recipe := recipe }⟩) := by
  refine ⟨(s.host.noted .info ("Reloaded " ++ recipe.file.text)).log, ?_⟩
  simp only [restart, loadRecipe, Act.apply_bind, Act.apply_get, Act.apply_ofExcept, hload]
  rw [onCurrent_apply_of_loaded _ hc hl, ← Host.noted_eq]
  rfl

/-- The session with one more ticket given out, and with a project whose recipe has been read
again. -/
def reread (s : Session) (index : Nat) (p : Project) (log : List Note) : Session :=
  (s.putProject index ⟨{ s.host with log := log }, p⟩).withTicket

/-- An update that is asked for gives the project its recipe at once, and launches the rest. -/
lemma update_launches {recipe : Recipe}
    (hload : Recipe.load s.host (Path.ofLocation s.workspace.directory) = .ok recipe)
    (hc : s.workspace.current = some index) (hl : s.workspace.projects[index]? = some l) :
    ∃ log, update.apply s =
      (launch (s.workspace.tickets + 1) (.update index) >>=
        fun _ => pure (s.workspace.tickets + 1)).apply
          (s.reread index { l.project with recipe := recipe } log) := by
  obtain ⟨log, hrestart⟩ := restart_of_loaded (s := s.withTicket) hload hc hl
  refine ⟨log, ?_⟩
  have hcurrent : (s.withTicket.putProject index ⟨{ s.withTicket.host with log := log },
    { l.project with recipe := recipe }⟩).workspace.current = some index := hc
  simp only [update, Act.apply_bind, newTicket_apply, Act.apply_outcome, hrestart,
    currentIndex_apply, hcurrent, Option.elim_some]
  rfl

lemma launch_of_deferred (h : s.workspace.deferred = true) (ticket : Nat) (work : Work) :
    (launch ticket work).apply s = (.ok (), s.enqueued ⟨ticket, work⟩) := by
  simp only [launch, Act.apply_bind, Act.apply_get, h, if_true]
  rfl

lemma launch_of_not_deferred (h : s.workspace.deferred = false) (ticket : Nat) (work : Work) :
    (launch ticket work).apply s = (runJob ⟨ticket, work⟩).apply s := by
  simp only [launch, Act.apply_bind, Act.apply_get, h, Bool.false_eq_true, if_false]

/-- The old paths stay until the update runs. -/
lemma update_of_loaded (hdeferred : s.workspace.deferred = true) {recipe : Recipe}
    (hload : Recipe.load s.host (Path.ofLocation s.workspace.directory) = .ok recipe)
    (hc : s.workspace.current = some index) (hl : s.workspace.projects[index]? = some l) :
    ∃ log, update.apply s = (.ok (s.workspace.tickets + 1),
      (s.reread index { l.project with recipe := recipe } log).enqueued
        ⟨s.workspace.tickets + 1, .update index⟩) := by
  obtain ⟨log, hupdate⟩ := update_launches hload hc hl
  have hwaits : (s.reread index { l.project with recipe := recipe } log).workspace.deferred =
    true := hdeferred
  refine ⟨log, hupdate.trans ?_⟩
  rw [Act.apply_bind, launch_of_deferred hwaits]
  rfl

/-- A job that has run leaves the projects and the runs of dub as its work has left them. -/
lemma runJob_leaves (hs : s.Regular) (job : Job) :
    ((runJob job).apply s).2.workspace.projects =
        ((perform job.work).apply s).2.workspace.projects ∧
      ((runJob job).apply s).2.host.runs = ((perform job.work).apply s).2.host.runs := by
  obtain ⟨hne, -⟩ := perform_sound job.work s hs
  simp only [runJob, Act.apply_bind, Act.apply_outcome_of_ne hne]
  rcases (perform job.work).apply s with ⟨e | outcome, u⟩
  · exact ⟨rfl, Host.noted_runs _ _⟩
  · exact ⟨rfl, rfl⟩

lemma runQueued_leaves {i : Nat} {job : Job} (hjob : s.workspace.queue[i]? = some job) :
    ((runQueued i).apply s).2 = ((runJob job).apply (s.withoutJob i)).2 := by
  have htaken : (runQueued i).apply s =
      (runJob job >>= fun _ => pure (some job.work.name)).apply (s.withoutJob i) := by
    simp only [runQueued, Act.apply_bind, Act.apply_get, hjob, change, Act.apply_modify]
    rfl
  rw [htaken, Act.apply_bind]
  rcases (runJob job).apply (s.withoutJob i) with ⟨e | x, t⟩ <;> rfl

/-- The work of an update is to find the paths of its project again. -/
lemma perform_update_apply (hl : s.workspace.projects[index]? = some l) :
    (perform (.update index)).apply s =
      let found := (Project.refresh s.workspace.provider s.workspace.resolver).apply
        ⟨s.host, l.project⟩
      (found.1.map .hasPaths, s.putProject index found.2) := by
  simp only [perform, Act.apply_bind, Act.apply_get, onProject_apply_of_loaded _ hl]
  rcases (Project.refresh s.workspace.provider s.workspace.resolver).apply
    ⟨s.host, l.project⟩ with ⟨e | x, v⟩ <;> rfl

lemma perform_update_of_none (hl : s.workspace.projects[index]? = none) :
    (perform (.update index)).apply s = (.error .notStarted, s) := by
  simp only [perform, Act.apply_bind, Act.apply_get, onProject, Act.apply_ofFunction, hl]

/-- What an update leaves behind that runs: the project after its paths have been asked for. -/
lemma run_update_leaves (hs : s.Regular) {i ticket : Nat}
    (hjob : s.workspace.queue[i]? = some ⟨ticket, .update index⟩)
    (hl : s.workspace.projects[index]? = some l) :
    let v := ((Project.refresh s.workspace.provider s.workspace.resolver).apply
      ⟨s.host, l.project⟩).2
    let t := ((runQueued i).apply s).2
    t.workspace.projects[index]? = some { l with project := v.project } ∧
      t.host.runs = v.host.runs := by
  obtain ⟨hprojects, hruns⟩ :=
    runJob_leaves (hs.withoutJob i) ⟨ticket, .update index⟩
  rw [perform_update_apply (s := s.withoutJob i) hl] at hprojects hruns
  dsimp only
  rw [runQueued_leaves hjob, hprojects, hruns]
  exact ⟨projects_putProject (s := s.withoutJob i) hl _, rfl⟩

/-- An update that runs leaves none of the old paths exactly if there are none or the active
configuration is declared. -/
lemma renewed_run_iff (hs : s.Regular) {i ticket : Nat}
    (hjob : s.workspace.queue[i]? = some ⟨ticket, .update index⟩)
    (hl : s.workspace.projects[index]? = some l) :
    s.Renewed ((runQueued i).apply s).2 index ↔
      l.project.paths = {} ∨
        l.project.recipe.Declares s.host l.project.selection.configuration := by
  obtain ⟨hproject, hruns⟩ := run_update_leaves hs hjob hl
  by_cases hd : l.project.recipe.Declares s.host l.project.selection.configuration
  · have hrenews := refresh_renews hs (w := ⟨s.host, l.project⟩) hs.quiet hd
    refine iff_of_true (renewed_of_renews rfl rfl hruns hproject hrenews ?_) (Or.inr hd)
    rw [hrenews.1]
    exact hd
  · obtain ⟨e, hrefresh⟩ := Project.refresh_of_not_declares (w := ⟨s.host, l.project⟩)
      s.workspace.provider s.workspace.resolver hd
    rw [hrefresh] at hproject
    constructor
    · intro hrenewed
      exact (hrenewed l hproject).imp_right And.left
    · rintro (hnone | hd') l' hl'
      · rw [hproject] at hl'
        cases hl'
        exact Or.inl hnone
      · exact absurd hd' hd

lemma renewed_run_of_none (hs : s.Regular) {i ticket : Nat}
    (hjob : s.workspace.queue[i]? = some ⟨ticket, .update index⟩)
    (hl : s.workspace.projects[index]? = none) : s.Renewed ((runQueued i).apply s).2 index := by
  obtain ⟨hprojects, -⟩ := runJob_leaves (hs.withoutJob i) ⟨ticket, .update index⟩
  rw [perform_update_of_none (s := s.withoutJob i) hl] at hprojects
  intro l' hl'
  rw [runQueued_leaves hjob, hprojects] at hl'
  exact absurd (hl'.symm.trans hl) (by simp)

end Session

/-! ## All steps -/

namespace History

/-- A step leaves no paths behind that are older than the step, wherever it finds paths again. -/
def PathsLawful (x : History) (step : Step) : Prop :=
  ∀ index, x.session.Refreshes index step → x.session.Renewed (x.after step).session index

/-- **One step.**  A step leaves no old paths where it finds paths again exactly if it does not run
an update of a project that has paths and whose active configuration is not declared any more. -/
theorem pathsLawful_step_iff {x : History} (hs : x.session.Regular) (step : Step) :
    PathsLawful x step ↔ x.session.Tidy step := by
  cases step with
  | startup =>
    refine iff_of_true ?_ trivial
    rintro index rfl
    exact Session.renewed_startup hs
  | select pick =>
    refine iff_of_true ?_ trivial
    rintro index ⟨hc, l, hl, htakes⟩
    exact Session.renewed_select hs hc hl htakes
  | run i =>
    constructor
    · intro hlawful ticket index l hjob hl
      exact (Session.renewed_run_iff hs hjob hl).mp (hlawful index ⟨ticket, hjob⟩)
    · rintro htidy index ⟨ticket, hjob⟩
      cases hl : x.session.workspace.projects[index]? with
      | some l => exact (Session.renewed_run_iff hs hjob hl).mpr (htidy ticket index l hjob hl)
      | none => exact Session.renewed_run_of_none hs hjob hl
  | stop | restart | ask kind | change f =>
    refine iff_of_true ?_ trivial
    rintro index ⟨⟩

/-- The invariant is kept by any number of steps. -/
lemma Invariant.foldl_after {x : History} (hx : x.Invariant) {steps : List Step}
    (hsteps : ∀ step ∈ steps, step.Quiet) : (steps.foldl History.after x).Invariant := by
  induction steps generalizing x with
  | nil => exact hx
  | cons step steps ih =>
    rw [List.forall_mem_cons] at hsteps
    exact ih (hx.after hsteps.1) hsteps.2

/-- **No old paths.**  Since the workspace was made, every step that has found paths again has left
none that are older, exactly if no update has run for a project with paths whose active
configuration was not declared any more. -/
theorem pathsLawful_iff {s : Session} (hs : s.Fresh) {steps : List Step}
    (hsteps : ∀ step ∈ steps, step.Quiet) :
    (∀ before step, before ++ [step] <+: steps →
        PathsLawful (before.foldl after ⟨s, [], []⟩) step) ↔
      ∀ before step, before ++ [step] <+: steps →
        (before.foldl after ⟨s, [], []⟩).session.Tidy step := by
  have hregular : ∀ before step, before ++ [step] <+: steps →
      (before.foldl after ⟨s, [], []⟩).session.Regular := by
    intro before step hprefix
    refine (hs.invariant.foldl_after fun old hold => hsteps old ?_).regular
    exact hprefix.subset (List.mem_append_left _ hold)
  constructor
  · intro h before step hprefix
    exact (pathsLawful_step_iff (hregular before step hprefix) step).mp
      (h before step hprefix)
  · intro h before step hprefix
    exact (pathsLawful_step_iff (hregular before step hprefix) step).mpr
      (h before step hprefix)

end History

/-! ## A sample -/

namespace Session

/-- The answer of a dub that lists two paths. -/
def namedReply : Dub.Reply :=
  .finished (Text.Utf8.encode "/p\x00\x00\x00\x00/p/a.d") [] 0

/-- A host with a package that has one configuration, with a compiler and with this dub. -/
def namedHost (configuration : String) : Host where
  files := ⟨[("p", .directory [("dub.sdl",
      .file (Text.Utf8.encode ("configuration \"" ++ configuration ++ "\"")) false)]),
    ("bin", .directory [("dmd", .file [] true)])]⟩
  directory := []
  environment := [("PATH", "/bin")]
  machine := "x86_64"
  dub := fun _ => namedReply

/-- A new session for this package. -/
def namedSession : Session where
  host := namedHost "app"
  workspace := { Workspace.new ["p"]
    { homeDirectory := ⟨.slash, ["h"]⟩, dub := "dub", logLevel := "INFO",
      preferredCompiler := none } {} with deferred := true }

/-- What the recipe is loaded as. -/
def namedRecipe (configuration : String) : Recipe where
  directory := ⟨.slash, ["p"]⟩
  file := ⟨.slash, ["p", "dub.sdl"]⟩
  configurations := [{ name := .string configuration }]

/-- The project that is loaded at startup. -/
def namedProject : Project where
  recipe := namedRecipe "app"
  selection := { configuration := .string "app", compiler := "dmd" }

/-- The paths that dub lists. -/
def namedPaths : PathSet where
  importPaths := ["/p"]
  sourceFiles := ["/p/a.d"]

/-- The project is loaded, its configuration gets a name, and an update is asked for. -/
def updatingSteps (configuration : String) : List Step :=
  [.startup, .change fun _ => namedHost configuration, .ask .update]

lemma fresh_namedSession : namedSession.Fresh :=
  ⟨by rintro arguments ⟨⟩, rfl, rfl, rfl, rfl, rfl, rfl⟩

lemma quiet_updatingSteps (configuration : String) :
    ∀ step ∈ updatingSteps configuration ++ [.run 0], step.Quiet := by
  have hquiet : (namedHost configuration).Quiet := by
    rintro arguments ⟨⟩
  simp [updatingSteps, Step.Quiet, hquiet]

lemma declares_namedRecipe_iff (configuration : String) (h : Host) (name : String) :
    (namedRecipe configuration).Declares h (.string name) ↔ configuration = name := by
  have hnames : (namedRecipe configuration).configurationNames h =
      .ok [.string configuration] := rfl
  rw [Recipe.declares_iff hnames, List.any_cons, List.any_nil, Bool.or_false,
    Document.same_string_iff]

/-- When the project is loaded, dub lists its paths. -/
lemma startup_named : ∃ v : Except Failure Bool × Workbench,
    startup.apply namedSession =
        (v.1, ⟨v.2.host, (namedSession.begun v.2.project).workspace⟩) ∧
      v.2.project = { namedProject with paths := namedPaths } := by
  have hstarting : namedSession.starting = .ok namedProject := by
    cbv
  have hresolve : ∀ log, namedSession.workspace.resolver.resolve
      { namedSession.host with log := log } "dmd" = .ok ⟨.dmd, "dmd", "/bin/dmd"⟩ := by
    intro log
    cbv
  have hanswer : (Dub.answerOf "dub" namedReply).bind (Dub.splitLists · pathFields.length) =
      .ok [["/p"], [], ["/p/a.d"]] := by
    cbv
  have hdeclares : namedProject.recipe.Declares namedSession.host
      namedProject.selection.configuration :=
    (declares_namedRecipe_iff _ _ _).mpr rfl
  obtain ⟨log, hstartup⟩ := startup_of_declares hstarting hdeclares
  let w : Workbench := ⟨{ namedSession.host with log := log }, namedProject⟩
  have hprovider : namedSession.workspace.provider = .dub "dub" ["p"] := rfl
  obtain ⟨settings, -, hproject, -⟩ := Project.askCourse_follow_of_compiler "dub" ["p"] (w := w)
    fresh_namedSession.quiet (hresolve log)
  refine ⟨_, hstartup, ?_⟩
  have hcourse : Project.refreshCourse namedSession.workspace.resolver w =
      Project.askCourse namedSession.workspace.resolver w :=
    Project.refreshCourse_of_declares hdeclares
  have hreply : w.host.dub (Dub.listArguments settings pathFields) = namedReply := rfl
  rw [hreply, hanswer] at hproject
  rw [hprovider, Project.refresh_apply, hcourse, hproject]
  rfl

/-- The update waits, the project has its new recipe, and its paths are those that dub listed for
the old one. -/
lemma updating_named (configuration : String)
    (hload : Recipe.load (namedHost configuration) ⟨.slash, ["p"]⟩ =
      .ok (namedRecipe configuration)) :
    let t := ((updatingSteps configuration).foldl History.after ⟨namedSession, [], []⟩).session
    t.workspace.queue = [⟨1, .update 0⟩] ∧ t.workspace.projects[0]? =
      some { project := { namedProject with
        recipe := namedRecipe configuration, paths := namedPaths } } := by
  obtain ⟨v, hstartup, hv⟩ := startup_named
  let begun : Session :=
    ⟨namedHost configuration, (namedSession.begun v.2.project).workspace⟩
  have hloaded : begun.workspace.projects[0]? =
      some { project := { namedProject with paths := namedPaths } } := by
    rw [← hv]
    exact getElem?_begun namedSession v.2.project
  obtain ⟨log', hupdate⟩ := update_of_loaded (s := begun) rfl hload rfl hloaded
  have hsession : ((updatingSteps configuration).foldl History.after
      ⟨namedSession, [], []⟩).session = (update.apply begun).2 := by
    simp only [updatingSteps, List.foldl_cons, List.foldl_nil, History.after, History.reach,
      Kind.ask, hstartup]
    rw [show (⟨namedHost configuration, _⟩ : Session) = begun from rfl, hupdate]
  dsimp only
  rw [hsession, hupdate]
  exact ⟨rfl, projects_putProject hloaded _⟩

end Session

namespace History

/-- If the configuration keeps its name, the update leaves no old paths. -/
theorem pathsLawful_of_updatingSteps :
    Session.namedSession.Fresh ∧
      (∀ step ∈ Session.updatingSteps "app" ++ [.run 0], step.Quiet) ∧
      ∀ before step, before ++ [step] <+: Session.updatingSteps "app" ++ [.run 0] →
        PathsLawful (before.foldl after ⟨Session.namedSession, [], []⟩) step := by
  have hfresh := Session.fresh_namedSession
  have hquiet := Session.quiet_updatingSteps "app"
  refine ⟨hfresh, hquiet, (pathsLawful_iff hfresh hquiet).mpr ?_⟩
  rintro before step ⟨rest, hsteps⟩
  -- Only the fourth step runs an update.
  rcases before with _ | ⟨_, _ | ⟨_, _ | ⟨_, _ | ⟨_, before⟩⟩⟩⟩
  · cases hsteps
    trivial
  · cases hsteps
    trivial
  · cases hsteps
    trivial
  · cases hsteps
    obtain ⟨hqueue, hproject⟩ := Session.updating_named "app" (by cbv)
    intro ticket index l hjob hl
    rw [Session.updatingSteps] at hqueue hproject
    rw [hqueue] at hjob
    cases hjob
    rw [hproject] at hl
    cases hl
    exact Or.inr ((Session.declares_namedRecipe_iff _ _ _).mpr rfl)
  · simp [Session.updatingSteps] at hsteps

/-- If the configuration gets another name, the update leaves the paths of the old one. -/
theorem not_pathsLawful_of_other_name :
    ¬ ∀ before step, before ++ [step] <+: Session.updatingSteps "other" ++ [.run 0] →
        PathsLawful (before.foldl after ⟨Session.namedSession, [], []⟩) step := by
  intro h
  have htidy := (pathsLawful_iff Session.fresh_namedSession
    (Session.quiet_updatingSteps "other")).mp h _ _ List.prefix_rfl
  obtain ⟨hqueue, hproject⟩ := Session.updating_named "other" (by cbv)
  rcases htidy 1 0 _ (by rw [hqueue]; rfl) hproject with hnone | hdeclares
  · exact absurd (congrArg PathSet.importPaths hnone) (List.cons_ne_nil _ _)
  · exact absurd ((Session.declares_namedRecipe_iff _ _ _).mp hdeclares) (by decide)

end History

end DubCheck
