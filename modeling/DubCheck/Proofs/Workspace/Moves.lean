import DubCheck.Proofs.Workspace.Jobs
/-!
# Moves in a workspace

A project is started up, values are selected in it, it is checked, and the surroundings change.
Each of these moves leaves a recipe and a selection behind, and dub is run only for what is selected
then.

* `Host.Grows`, `Project.Moved`, `Session.Moved`: a host on which some runs have been made, and a
  project or a session that has got a selection, with runs for this selection only.
* `Session.startup_moved`, `Session.select_moved_of_takes`, `Session.select_moved_of_not_takes`,
  `Session.check_moved`: what each move does.
* `Session.runsFor_after`: every move makes only runs for what is selected after it.
-/

namespace DubCheck

/-! ## Hosts -/

/-- A run of dub was made for a selection: dub was told what is selected. -/
def Dub.Run.Tells (run : Run) (s : Selection) : Prop :=
  ∃ settings : Settings, settings.Carries s ∧ settings.selectors <:+: run.command

namespace Host

variable {P Q : Dub.Run → Prop} {h k m : Host}

/-- A host has made notes in its log and runs of dub with some property, and nothing else. -/
def Grows (P : Dub.Run → Prop) (h k : Host) : Prop :=
  ∃ log runs, k = { h with log := log, runs := h.runs ++ runs } ∧ ∀ run ∈ runs, P run

lemma grows_of_log (h : Host) (log : List Note) : h.Grows P { h with log := log } :=
  ⟨log, [], by rw [List.append_nil], by simp⟩

lemma grows_refl (h : Host) : h.Grows P h :=
  grows_of_log h h.log

lemma grows_noted (h : Host) (level : Level) (text : String) : h.Grows P (h.noted level text) := by
  rw [noted_eq]
  exact grows_of_log h _

lemma grows_ran {run : Dub.Run} (hrun : P run) (log : List Note) : h.Grows P (h.ran log run) :=
  ⟨log, [run], rfl, by simpa using hrun⟩

lemma Grows.trans (hk : h.Grows P k) (hm : k.Grows P m) : h.Grows P m := by
  obtain ⟨_, runs, rfl, hruns⟩ := hk
  obtain ⟨log, runs', rfl, hruns'⟩ := hm
  refine ⟨log, runs ++ runs', by simp, ?_⟩
  rw [List.forall_mem_append]
  exact ⟨hruns, hruns'⟩

lemma Grows.imp (hk : h.Grows P k) (hPQ : ∀ run, P run → Q run) : h.Grows Q k := by
  obtain ⟨log, runs, rfl, hruns⟩ := hk
  exact ⟨log, runs, rfl, fun run hrun => hPQ run (hruns run hrun)⟩

end Host

/-- Asking for lists is a run for what the settings carry. -/
lemma Dub.list_grows (program : String) (directory : Location) (settings : Settings)
    {s : Selection} (hs : settings.Carries s) (fields : List String) (h : Host) :
    h.Grows (·.Tells s) (((Provider.dub program directory).list settings fields).apply h).2 := by
  rw [list_apply]
  refine Host.grows_ran ⟨settings, hs, ?_⟩ h.log
  exact ((List.suffix_append _ _).trans (List.suffix_cons program _)).isInfix

/-! ## Projects -/

namespace Project

variable {s : Selection} {w v : Workbench} {resolver : Resolver} {program : String}
  {directory : Location}

/-- A project has got some selection, and has kept its recipe.  All runs of dub on the way were made
for this selection. -/
structure Moved (s : Selection) (w v : Workbench) : Prop where
  recipe : v.project.recipe = w.project.recipe
  selection : v.project.selection = s
  host : w.host.Grows (·.Tells s) v.host

lemma Moved.conclude (h : Moved s w v) (found : Except Failure PathSet) :
    Moved s w (conclude found v).2 := by
  unfold Project.conclude
  split
  · exact h
  · exact ⟨h.recipe, h.selection, h.host.trans (Host.grows_noted _ _ _)⟩
  · exact ⟨h.recipe, h.selection, h.host.trans (Host.grows_noted _ _ _)⟩

/-- Asking for the paths is a run of dub for what is selected, if it is a run at all. -/
lemma askCourse_moved (h : Moved w.project.selection v w) :
    Moved w.project.selection v
      ((askCourse resolver w).follow (.dub program directory)).2 := by
  unfold askCourse
  cases hs : w.project.selection.settings resolver w.host with
  | error e => exact h.conclude _
  | ok settings =>
    obtain ⟨hconfiguration, harch, hbuild, hcompiler⟩ := Selection.carries_of_settings hs
    have hgrows := Dub.list_grows program directory
      { settings with syntaxOnly := true, combined := true }
      ⟨hconfiguration, harch, hbuild, hcompiler⟩ pathFields w.host
    rw [Course.follow]
    generalize ((Dub.Provider.dub program directory).list
      { settings with syntaxOnly := true, combined := true } pathFields).apply w.host = reply
      at hgrows ⊢
    have hmoved : Moved w.project.selection v { w with host := reply.2 } :=
      ⟨h.recipe, h.selection, h.host.trans hgrows⟩
    exact hmoved.conclude _

lemma refresh_moved (w : Workbench) :
    Moved w.project.selection w ((refresh (.dub program directory) resolver).apply w).2 := by
  have hself : Moved w.project.selection w w := ⟨rfl, rfl, Host.grows_refl _⟩
  rw [refresh_apply]
  unfold refreshCourse
  split
  · exact hself
  · exact askCourse_moved hself

/-- A value that can be selected now becomes one of the selections. -/
lemma select_of_takes {pick : Pick} (h : w.project.Takes resolver w.host pick) :
    Moved (w.project.selection.set pick) w
      ((select (.dub program directory) resolver pick).apply w).2 := by
  rw [select_apply, selectCourse_of_takes h]
  have hpicked : Moved (w.project.selection.set pick) w (withPick pick w) :=
    ⟨rfl, rfl, Host.grows_refl _⟩
  exact askCourse_moved (w := withPick pick w) hpicked

/-- Any other value changes nothing. -/
lemma select_of_not_takes {pick : Pick} (h : ¬ w.project.Takes resolver w.host pick) :
    Moved w.project.selection w ((select (.dub program directory) resolver pick).apply w).2 := by
  obtain ⟨result, host, hhost, hcourse⟩ := selectCourse_of_not_takes h
  rw [select_apply, hcourse]
  refine ⟨rfl, rfl, ?_⟩
  rcases hhost with rfl | ⟨text, rfl⟩
  · exact Host.grows_refl _
  · exact Host.grows_noted _ _ _

end Project

/-! ## Sessions -/

/-- What a project is besides its paths. -/
structure Setup where
  /-- Its recipe. -/
  recipe : Recipe
  /-- What is selected. -/
  selection : Selection

namespace Session

variable {s t u : Session} {setup : Option Setup} {program : String} {directory : Location}

/-- The current project without its paths. -/
def setup? (s : Session) : Option Setup :=
  s.loaded?.map fun l => ⟨l.project.recipe, l.project.selection⟩

lemma selection?_eq (s : Session) : s.selection? = s.setup?.map (·.selection) := by
  rw [selection?, setup?, Option.map_map]
  rfl

lemma setup?_of_loaded {l : Loaded} (hl : s.loaded? = some l) :
    s.setup? = some ⟨l.project.recipe, l.project.selection⟩ := by
  rw [setup?, hl]
  rfl

/-- The workspace looks for compilers and asks about the project as it did. -/
structure Stays (s t : Session) : Prop where
  resolver : t.workspace.resolver = s.workspace.resolver
  provider : t.workspace.provider = s.workspace.provider
  engine : t.workspace.engine = s.workspace.engine

lemma Stays.trans (h : s.Stays t) (k : t.Stays u) : s.Stays u :=
  ⟨k.resolver.trans h.resolver, k.provider.trans h.provider, k.engine.trans h.engine⟩

/-- The current project, if there is one, has got a recipe and a selection, and all runs of dub on
the way were made for this selection. -/
structure Moved (setup : Option Setup) (s t : Session) : Prop where
  stays : s.Stays t
  becomes : t.setup? = setup
  host : s.host.Grows (fun run => ∃ x, setup = some x ∧ run.Tells x.selection) t.host

/-- Another host in the same workspace. -/
lemma moved_of_host {host : Host}
    (h : s.host.Grows (fun run => ∃ x, s.setup? = some x ∧ run.Tells x.selection) host) :
    Moved s.setup? s { s with host := host } :=
  ⟨⟨rfl, rfl, rfl⟩, rfl, h⟩

lemma moved_self (s : Session) : Moved s.setup? s s :=
  moved_of_host (Host.grows_refl _)

/-- A move that comes after something in which dub is not run. -/
lemma Moved.after_quiet (h : Moved setup t u) (hstays : s.Stays t)
    (hhost : s.host.Grows (fun _ => False) t.host) : Moved setup s u :=
  ⟨hstays.trans h.stays, h.becomes, (hhost.imp fun _ => False.elim).trans h.host⟩

lemma onCurrent_of_none {α : Type} {a : Act Workbench α} (hl : s.loaded? = none) :
    (onCurrent a).apply s = (.error .notStarted, s) := by
  simp only [onCurrent, currentIndex, Act.apply_bind, Act.apply_get]
  cases hc : s.workspace.current with
  | none => rfl
  | some index =>
    rw [loaded?, hc, Option.bind_some] at hl
    simp only [Act.apply_pure, onProject, Act.apply_ofFunction, hl]

/-- What is done to the current project is done to the session. -/
lemma onCurrent_moved {α : Type} {a : Act Workbench α} {l : Loaded} {x : Selection}
    (hl : s.loaded? = some l)
    (ha : Project.Moved x ⟨s.host, l.project⟩ (a.apply ⟨s.host, l.project⟩).2) :
    Moved (some ⟨l.project.recipe, x⟩) s ((onCurrent a).apply s).2 := by
  simp only [onCurrent, currentIndex, Act.apply_bind, Act.apply_get]
  cases hc : s.workspace.current with
  | none =>
    rw [loaded?, hc] at hl
    cases hl
  | some index =>
    rw [loaded?, hc, Option.bind_some] at hl
    simp only [Act.apply_pure, onProject, Act.apply_ofFunction, hl]
    refine ⟨⟨rfl, rfl, rfl⟩, ?_, ha.host.imp fun run hrun => ⟨_, rfl, hrun⟩⟩
    have hloaded : (s.putProject index (a.apply ⟨s.host, l.project⟩).2).loaded? =
        some { l with project := (a.apply ⟨s.host, l.project⟩).2.project } := by
      simp [loaded?, putProject, hc, List.getElem?_modify, hl]
    rw [setup?_of_loaded hloaded, ha.recipe, ha.selection]

/-! ## Moves -/

/-- What may be done with a workspace.  The surroundings may change at any time, only what has been
run is not forgotten. -/
inductive Move where
  /-- Load the project. -/
  | startup
  /-- Select a value. -/
  | select (pick : Pick)
  /-- Build what is selected. -/
  | check
  /-- Change the surroundings. -/
  | change (f : Host → Host)

/-- The session after a move. -/
def after (s : Session) : Move → Session
  | .startup => (startup.apply s).2
  | .select pick => ((select pick).apply s).2
  | .check => (check.apply s).2
  | .change f => { s with host := { f s.host with runs := s.host.runs } }

/-- A value is selected if it can be. -/
lemma select_moved_of_takes (hs : s.workspace.provider = .dub program directory) {pick : Pick}
    {l : Loaded} (hl : s.loaded? = some l)
    (h : l.project.Takes s.workspace.resolver s.host pick) :
    Moved (some ⟨l.project.recipe, l.project.selection.set pick⟩) s ((select pick).apply s).2 := by
  simp only [select, Act.apply_bind, Act.apply_get, hs]
  exact onCurrent_moved hl (Project.select_of_takes (w := ⟨s.host, l.project⟩) h)

lemma select_moved_of_not_takes (hs : s.workspace.provider = .dub program directory) {pick : Pick}
    {l : Loaded} (hl : s.loaded? = some l)
    (h : ¬ l.project.Takes s.workspace.resolver s.host pick) :
    Moved s.setup? s ((select pick).apply s).2 := by
  simp only [select, Act.apply_bind, Act.apply_get, hs, setup?_of_loaded hl]
  exact onCurrent_moved hl (Project.select_of_not_takes (w := ⟨s.host, l.project⟩) h)

lemma select_moved_of_none {pick : Pick} (hl : s.loaded? = none) :
    Moved s.setup? s ((select pick).apply s).2 := by
  simp only [select, Act.apply_bind, Act.apply_get, onCurrent_of_none hl]
  exact moved_self s

/-- A build is a run of dub for what it builds, if it is a run at all. -/
lemma runCheck_grows (hs : s.workspace.engine = .dub program directory) (x : Selection) :
    ∃ host, ((runCheck x).apply s).2 = { s with host := host } ∧
      s.host.Grows (·.Tells x) host := by
  cases hc : s.workspace.resolver.resolve s.host x.compiler with
  | error e =>
    rw [runCheck_of_error hc]
    exact ⟨s.host, rfl, Host.grows_refl _⟩
  | ok c =>
    have htells : ∀ flags killed, (Dub.buildRun program directory
        (x.checkSettings c).buildArguments flags killed).Tells x := by
      intro flags killed
      refine ⟨x.checkSettings c, ⟨rfl, rfl, rfl, Resolver.binary_of_resolve hc⟩, ?_⟩
      refine ⟨[program, "build"], ["--temp-build"], ?_⟩
      simp [Dub.buildRun, Dub.Settings.buildArguments, Selection.checkSettings]
    by_cases hreply : s.host.dub (x.checkSettings c).buildArguments = .interrupted
    · obtain ⟨log, flags, hrun⟩ := runCheck_of_interrupted hs hc hreply
      rw [hrun]
      exact ⟨_, rfl, Host.grows_ran (htells _ _) log⟩
    · obtain ⟨log, hrun⟩ := runCheck_of_compiler hs hc hreply
      rw [hrun]
      exact ⟨_, rfl, Host.grows_ran (htells _ _) log⟩

lemma check_moved (hs : s.workspace.engine = .dub program directory) :
    Moved s.setup? s (check.apply s).2 := by
  have hcheck : check = validate >>= fun _ => project >>= fun p => runCheck p.selection := rfl
  rw [hcheck]
  rcases validated_cases (fun p => runCheck p.selection) s with ⟨e, -, h⟩ | ⟨l, hl, h⟩
  · rw [h]
    exact moved_self s
  · obtain ⟨host, hrun, hgrows⟩ := runCheck_grows hs l.project.selection
    rw [h, hrun]
    exact moved_of_host (hgrows.imp fun run hrun => ⟨_, setup?_of_loaded hl, hrun⟩)

/-- The session with one more project, which is now the current one. -/
def begun (s : Session) (p : Project) : Session where
  host := s.host
  workspace := { s.workspace with
    projects := s.workspace.projects ++ [{ project := p }]
    current := some s.workspace.projects.length }

lemma loaded?_begun (s : Session) (p : Project) :
    (s.begun p).loaded? = some { project := p } := by
  simp [loaded?, begun]

lemma platformOf_apply (compiler : String) (s : Session) :
    ∃ result log, (platformOf compiler).apply s =
      (result, { s with host := { s.host with log := log } }) := by
  simp only [platformOf, Act.apply_bind, Act.apply_get]
  split
  · exact ⟨_, s.host.log, rfl⟩
  · rename_i e _
    refine ⟨.ok none, (s.host.noted .warning ("Default compiler unavailable: " ++ e.message)).log,
      ?_⟩
    rw [Act.apply_bind, note_apply, Host.noted_eq]
    rfl
  · exact ⟨_, s.host.log, rfl⟩

/-- What is told to whoever listens is not about what is selected. -/
lemma emit_moved (event : Document) (s : Session) : Moved s.setup? s ((emit event).apply s).2 := by
  simp only [emit, change, Act.apply_modify]
  split
  · exact ⟨⟨rfl, rfl, rfl⟩, rfl, Host.grows_refl _⟩
  · exact moved_self s

/-- What is done at startup once a project has been loaded: its paths are asked for if its
configuration is valid, and otherwise that is told. -/
def concludeStartup (provider : Dub.Provider) (resolver : Resolver) (valid : Bool) :
    Act Session Bool :=
  if valid then onCurrent (Project.refresh provider resolver)
  else do
    note .warning "Dub Error: No configuration available"
    emit invalidConfigurationEvent
    return false

lemma concludeStartup_moved (resolver : Resolver) (valid : Bool) {l : Loaded}
    (hl : s.loaded? = some l) :
    Moved s.setup? s
      ((concludeStartup (.dub program directory) resolver valid).apply s).2 := by
  cases valid with
  | true =>
    rw [setup?_of_loaded hl]
    exact onCurrent_moved hl (Project.refresh_moved ⟨s.host, l.project⟩)
  | false =>
    have hemit := emit_moved invalidConfigurationEvent
      { s with host := s.host.noted .warning "Dub Error: No configuration available" }
    exact hemit.after_quiet ⟨rfl, rfl, rfl⟩ (Host.grows_noted _ _ _)

/-- What is done at startup with the project that has been loaded. -/
def beginProject (s : Session) (text : String) (p : Project) : Act Session Bool := do
  modify (·.begun p)
  note .info text
  concludeStartup s.workspace.provider s.workspace.resolver (← Act.ofExcept (p.isValid s.host))

/-- The project that is loaded at startup, with what is selected in it. -/
def projectOf (s : Session) (recipe : Recipe) (found : Option Document) : Project where
  recipe := recipe
  selection :=
    { configuration := (found.filter (·.truthy)).getD (.string "")
      compiler :=
        s.workspace.resolver.defaultCompiler s.host s.workspace.settings.preferredCompiler }

/-- What the log says when a project has been loaded. -/
def startupNote (s : Session) (recipe : Recipe) (found : Option Document) : String :=
  let name := if recipe.name.isEmpty then s.workspace.directory.getLast?.getD "" else recipe.name
  let p := s.projectOf recipe found
  s!"Loaded {name} from {recipe.file.text} " ++
    s!"(configuration={shownOrNone p.selection.configuration}, compiler={p.selection.compiler})"

lemma startup_eq : startup = (do
    let recipe ← loadRecipe
    let s ← get
    let platform ← platformOf
      (s.workspace.resolver.defaultCompiler s.host s.workspace.settings.preferredCompiler)
    let found ← Act.ofExcept (recipe.defaultConfiguration s.host platform)
    beginProject s (s.startupNote recipe found) (s.projectOf recipe found)) := rfl

lemma beginProject_moved (hs : s.workspace.provider = .dub program directory) (text : String)
    (p : Project) (t : Session) :
    Moved (some ⟨p.recipe, p.selection⟩) t ((beginProject s text p).apply t).2 := by
  have hloaded : ∀ host, Session.loaded? { t.begun p with host := host } = some { project := p } :=
    fun host => loaded?_begun { t with host := host } p
  have hgrows : ∀ h : Host, h.Grows (fun _ => False) (h.noted .info text) :=
    fun h => Host.grows_noted h .info text
  simp only [beginProject, Act.apply_bind, Act.apply_modify, note_apply, Act.apply_ofExcept, hs]
  cases p.isValid s.host with
  | error e =>
    rw [← setup?_of_loaded (hloaded _)]
    exact (moved_self _).after_quiet ⟨rfl, rfl, rfl⟩ (hgrows _)
  | ok valid =>
    rw [← setup?_of_loaded (hloaded _)]
    exact (concludeStartup_moved _ valid (hloaded _)).after_quiet ⟨rfl, rfl, rfl⟩ (hgrows _)

/-- What happens at startup if a project is found. -/
lemma startup_apply_of_found {recipe : Recipe} {platform : Option Platform}
    {found : Option Document} {log : List Note}
    (hload : Recipe.load s.host (Path.ofLocation s.workspace.directory) = .ok recipe)
    (hplatform : (platformOf (s.workspace.resolver.defaultCompiler s.host
      s.workspace.settings.preferredCompiler)).apply s =
        (.ok platform, { s with host := { s.host with log := log } }))
    (hfound : recipe.defaultConfiguration s.host platform = .ok found) :
    startup.apply s =
      (beginProject s (s.startupNote recipe found) (s.projectOf recipe found)).apply
        { s with host := { s.host with log := log } } := by
  rw [startup_eq]
  simp only [loadRecipe, Act.apply_bind, Act.apply_get, Act.apply_ofExcept, hload, hplatform,
    hfound]

/-- Either a project is found at startup, or nothing changes but the log. -/
lemma startup_cases (s : Session) :
    (∃ result log, startup.apply s = (result, { s with host := { s.host with log := log } })) ∨
      ∃ recipe platform found log,
        Recipe.load s.host (Path.ofLocation s.workspace.directory) = .ok recipe ∧
        (platformOf (s.workspace.resolver.defaultCompiler s.host
          s.workspace.settings.preferredCompiler)).apply s =
            (.ok platform, { s with host := { s.host with log := log } }) ∧
        recipe.defaultConfiguration s.host platform = .ok found := by
  obtain ⟨result, log, hplatform⟩ := platformOf_apply
    (s.workspace.resolver.defaultCompiler s.host s.workspace.settings.preferredCompiler) s
  rw [startup_eq]
  cases hload : Recipe.load s.host (Path.ofLocation s.workspace.directory) with
  | error e =>
    refine Or.inl ⟨.error e, s.host.log, ?_⟩
    simp only [loadRecipe, Act.apply_bind, Act.apply_get, Act.apply_ofExcept, hload]
  | ok recipe =>
    cases result with
    | error e =>
      refine Or.inl ⟨.error e, log, ?_⟩
      simp only [loadRecipe, Act.apply_bind, Act.apply_get, Act.apply_ofExcept, hload, hplatform]
    | ok platform =>
      cases hfound : recipe.defaultConfiguration s.host platform with
      | error e =>
        refine Or.inl ⟨.error e, log, ?_⟩
        simp only [loadRecipe, Act.apply_bind, Act.apply_get, Act.apply_ofExcept, hload, hplatform,
          hfound]
      | ok found => exact Or.inr ⟨recipe, platform, found, log, rfl, hplatform, hfound⟩

/-- The project that is found at startup. -/
lemma startup_moved_of_found (hs : s.workspace.provider = .dub program directory)
    {recipe : Recipe} {platform : Option Platform} {found : Option Document} {log : List Note}
    (hload : Recipe.load s.host (Path.ofLocation s.workspace.directory) = .ok recipe)
    (hplatform : (platformOf (s.workspace.resolver.defaultCompiler s.host
      s.workspace.settings.preferredCompiler)).apply s =
        (.ok platform, { s with host := { s.host with log := log } }))
    (hfound : recipe.defaultConfiguration s.host platform = .ok found) :
    Moved (some ⟨recipe, (s.projectOf recipe found).selection⟩) s (startup.apply s).2 := by
  rw [startup_apply_of_found hload hplatform hfound]
  exact (beginProject_moved hs _ (s.projectOf recipe found) _).after_quiet ⟨rfl, rfl, rfl⟩
    (Host.grows_of_log s.host log)

/-- The project that is loaded at startup, unless nothing is loaded. -/
lemma startup_moved (hs : s.workspace.provider = .dub program directory) :
    Moved s.setup? s (startup.apply s).2 ∨ ∃ recipe found,
      Moved (some ⟨recipe, (s.projectOf recipe found).selection⟩) s (startup.apply s).2 := by
  rcases startup_cases s with ⟨result, log, h⟩ | ⟨recipe, platform, found, log, hl, hp, hf⟩
  · rw [h]
    exact Or.inl (moved_of_host (Host.grows_of_log s.host log))
  · exact Or.inr ⟨recipe, found, startup_moved_of_found hs hl hp hf⟩

/-- Starting up does not change who is asked. -/
lemma startup_stays (hs : s.workspace.provider = .dub program directory) :
    s.Stays (startup.apply s).2 := by
  rcases startup_moved hs with hmoved | ⟨_, _, hmoved⟩ <;> exact hmoved.stays

/-! ## What every move does -/

/-- The workspace asks dub, about its own project. -/
def AsksDub (s : Session) : Prop :=
  ∃ program directory, s.workspace.provider = .dub program directory ∧
    s.workspace.engine = .dub program directory

lemma AsksDub.stays (hs : s.AsksDub) (h : s.Stays t) : t.AsksDub := by
  obtain ⟨program, directory, hprovider, hengine⟩ := hs
  exact ⟨program, directory, h.provider.trans hprovider, h.engine.trans hengine⟩

/-- Whatever has been run since was run for what is selected now. -/
structure RunsFor (s t : Session) : Prop where
  stays : s.Stays t
  runs : ∃ runs, t.host.runs = s.host.runs ++ runs ∧
    ∀ run ∈ runs, ∃ x, t.selection? = some x ∧ run.Tells x

lemma Moved.runsFor (h : Moved setup s t) : s.RunsFor t := by
  obtain ⟨hstays, rfl, _, runs, ht, hruns⟩ := h
  refine ⟨hstays, runs, by rw [ht], fun run hrun => ?_⟩
  obtain ⟨x, hx, htells⟩ := hruns run hrun
  exact ⟨x.selection, by rw [selection?_eq, hx]; rfl, htells⟩

/-- Every move makes only runs for what is selected after it. -/
theorem runsFor_after (hs : s.AsksDub) (move : Move) : s.RunsFor (s.after move) := by
  obtain ⟨program, directory, hprovider, hengine⟩ := hs
  cases move with
  | startup =>
    rcases startup_moved hprovider with hmoved | ⟨_, _, hmoved⟩
    · exact hmoved.runsFor
    · exact hmoved.runsFor
  | select pick =>
    cases hl : s.loaded? with
    | none => exact (select_moved_of_none hl).runsFor
    | some l =>
      by_cases h : l.project.Takes s.workspace.resolver s.host pick
      · exact (select_moved_of_takes hprovider hl h).runsFor
      · exact (select_moved_of_not_takes hprovider hl h).runsFor
  | check => exact (check_moved hengine).runsFor
  | change f => exact ⟨⟨rfl, rfl, rfl⟩, [], (List.append_nil _).symm, by simp⟩

end Session

end DubCheck
