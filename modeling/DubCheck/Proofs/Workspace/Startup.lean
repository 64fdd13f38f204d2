import DubCheck.Proofs.Workspace.Moves
/-!
# How starting up goes

What is loaded at startup, and what is selected in it, is read off the files and the settings before
anything changes.  The project that is found is opened.  If its configuration is declared, its paths
are asked for; otherwise that is told, and dub is not run.

* `Session.starting`: the project that is found, or why there is none.
* `Session.startup_of_error`, `Session.startup_of_declares`, `Session.startup_of_not_declares`:
  the three ways in which a startup can go.
-/

namespace DubCheck

namespace Recipe

variable {r : Recipe} {h : Host}

/-- If there is a default configuration or none, the names of all are known. -/
lemma exists_names_of_defaultConfiguration {platform : Option Platform} {found : Option Document}
    (hf : r.defaultConfiguration h platform = .ok found) :
    ∃ names, r.configurationNames h = .ok names := by
  unfold defaultConfiguration at hf
  unfold configurationNames
  split at hf
  · rename_i hempty
    obtain ⟨name, hi, -⟩ := bind_eq_ok_iff.mp hf
    rw [if_pos hempty, hi]
    exact ⟨_, rfl⟩
  · rename_i hempty
    rw [if_neg hempty]
    exact ⟨_, rfl⟩

end Recipe

namespace Project

/-- Asking for the paths replaces the paths and nothing else. -/
lemma project_refresh (provider : Dub.Provider) (resolver : Resolver) (w : Workbench) :
    ((refresh provider resolver).apply w).2.project =
      { w.project with
        paths := ((refresh provider resolver).apply w).2.project.paths } := by
  have hconclude : ∀ found (v : Workbench), (conclude found v).2.project =
      { v.project with paths := (conclude found v).2.project.paths } := by
    intro found v
    unfold conclude
    split <;> rfl
  rw [refresh_apply, refreshCourse]
  cases w.project.check w.host with
  | error e => rfl
  | ok u =>
    unfold askCourse
    cases w.project.selection.settings resolver w.host with
    | error e => exact hconclude _ w
    | ok settings => exact hconclude _ _

/-- If the configuration is declared, it is known whether there are paths, also if dub does not list
them. -/
lemma exists_refresh_eq_ok (program : String) (directory : Location) (resolver : Resolver)
    {w : Workbench} (hw : w.host.Quiet)
    (hd : w.project.recipe.Declares w.host w.project.selection.configuration) :
    ∃ found v, (refresh (.dub program directory) resolver).apply w = (.ok found, v) := by
  rw [refresh_apply, refreshCourse_of_declares hd]
  cases hc : resolver.resolve w.host w.project.selection.compiler with
  | error e =>
    obtain ⟨level, text, hcourse⟩ := askCourse_of_resolve_error hc
    rw [hcourse]
    exact ⟨_, _, rfl⟩
  | ok c =>
    obtain ⟨settings, -, hcourse⟩ := askCourse_of_resolve_ok hc
    have hanswer : (Dub.answerOf program (w.host.dub (Dub.listArguments settings pathFields))).bind
        (Dub.splitLists · pathFields.length) ≠ .error .interrupted :=
      bind_ne_interrupted (Dub.answerOf_ne_interrupted program (hw _))
        fun _ => Dub.splitLists_ne_interrupted _ _
    rw [hcourse, Course.follow, Dub.list_apply]
    obtain ⟨level, text, hconclude⟩ := conclude_bind_ofLists hanswer _
    exact ⟨_, _, hconclude⟩

end Project

namespace Session

variable {s t : Session} {p : Project} {index : Nat} {l : Loaded} {found : Bool} {program : String}
  {directory : Location}

/-! ## Doing something with a project -/

lemma onProject_apply_of_loaded {α : Type} (a : Act Workbench α)
    (hl : s.workspace.projects[index]? = some l) :
    (onProject index a).apply s =
      ((a.apply ⟨s.host, l.project⟩).1, s.putProject index (a.apply ⟨s.host, l.project⟩).2) := by
  simp only [onProject, Act.apply_ofFunction, hl]

lemma onCurrent_apply_of_loaded {α : Type} (a : Act Workbench α)
    (hc : s.workspace.current = some index) (hl : s.workspace.projects[index]? = some l) :
    (onCurrent a).apply s =
      ((a.apply ⟨s.host, l.project⟩).1, s.putProject index (a.apply ⟨s.host, l.project⟩).2) := by
  rw [onCurrent, Act.apply_bind, currentIndex_apply, hc]
  exact onProject_apply_of_loaded a hl

lemma projects_putProject (hl : s.workspace.projects[index]? = some l) (w : Workbench) :
    (s.putProject index w).workspace.projects[index]? = some { l with project := w.project } := by
  simp [putProject, hl]

lemma projects_putProject_of_ne {other : Nat} (hne : index ≠ other) (w : Workbench) :
    (s.putProject index w).workspace.projects[other]? = s.workspace.projects[other]? := by
  simp [putProject, hne]

/-- What is done with the current project comes to what it comes to there. -/
lemma onCurrent_of_apply {α : Type} {a : Act Workbench α} (hl : s.loaded? = some l)
    {r : Except Failure α} {w : Workbench} (ha : a.apply ⟨s.host, l.project⟩ = (r, w)) :
    ∃ t, (onCurrent a).apply s = (r, t) ∧ t.loaded? = some { l with project := w.project } := by
  obtain ⟨index, hc, hindex⟩ := Option.bind_eq_some_iff.mp hl
  refine ⟨s.putProject index w, ?_, ?_⟩
  · rw [onCurrent_apply_of_loaded a hc hindex, ha]
  · have hcurrent : (s.putProject index w).workspace.current = some index := hc
    rw [loaded?, hcurrent, Option.bind_some, projects_putProject hindex]

/-! ## What is found -/

/-- The compiler that is selected at startup. -/
def startingCompiler (s : Session) : String :=
  s.workspace.resolver.defaultCompiler s.host s.workspace.settings.preferredCompiler

/-- The platform that this compiler builds for, if it can be found. -/
def startingPlatform (s : Session) : Except Failure (Option Platform) :=
  match s.workspace.resolver.resolve s.host s.startingCompiler with
  | .ok c => .ok (some (s.workspace.resolver.platform s.host c none))
  | .error (.compiler _) => .ok none
  | .error e => .error e

/-- The project that is loaded at startup, and what is selected in it. -/
def starting (s : Session) : Except Failure Project := do
  let recipe ← Recipe.load s.host (Path.ofLocation s.workspace.directory)
  let platform ← s.startingPlatform
  let found ← recipe.defaultConfiguration s.host platform
  return s.projectOf recipe found

lemma starting_of_found {recipe : Recipe} {platform : Option Platform} {found : Option Document}
    (hload : Recipe.load s.host (Path.ofLocation s.workspace.directory) = .ok recipe)
    (hplatform : s.startingPlatform = .ok platform)
    (hfound : recipe.defaultConfiguration s.host platform = .ok found) :
    s.starting = .ok (s.projectOf recipe found) :=
  bind_eq_ok_iff.mpr ⟨recipe, hload, bind_eq_ok_iff.mpr
    ⟨platform, hplatform, bind_eq_ok_iff.mpr ⟨found, hfound, rfl⟩⟩⟩

lemma platformOf_startingCompiler (s : Session) :
    ∃ log, (platformOf s.startingCompiler).apply s =
      (s.startingPlatform, { s with host := { s.host with log := log } }) := by
  simp only [platformOf, startingPlatform, Act.apply_bind, Act.apply_get]
  rcases s.workspace.resolver.resolve_cases s.host s.startingCompiler with
    ⟨c, hc⟩ | ⟨reason, hc⟩ | ⟨fault, path, hc⟩
  · rw [hc]
    exact ⟨s.host.log, rfl⟩
  · rw [hc]
    refine ⟨(s.host.noted .warning ("Default compiler unavailable: " ++ reason.message)).log, ?_⟩
    dsimp only
    rw [Act.apply_bind, note_apply, Host.noted_eq]
    rfl
  · rw [hc]
    exact ⟨s.host.log, rfl⟩

/-- What is found at startup comes of the recipe, of the platform and of the default configuration
for it. -/
lemma starting_eq_ok (h : s.starting = .ok p) : ∃ recipe platform found,
    Recipe.load s.host (Path.ofLocation s.workspace.directory) = .ok recipe ∧
      s.startingPlatform = .ok platform ∧
      recipe.defaultConfiguration s.host platform = .ok found ∧ p = s.projectOf recipe found := by
  obtain ⟨recipe, hload, h⟩ := bind_eq_ok_iff.mp h
  obtain ⟨platform, hplatform, h⟩ := bind_eq_ok_iff.mp h
  obtain ⟨found, hfound, h⟩ := bind_eq_ok_iff.mp h
  cases h
  exact ⟨recipe, platform, found, hload, hplatform, hfound, rfl⟩

/-- With a recipe, nothing is found only if the platform or the default configuration is not. -/
lemma starting_eq_error_iff {recipe : Recipe} {e : Failure}
    (hload : Recipe.load s.host (Path.ofLocation s.workspace.directory) = .ok recipe) :
    s.starting = .error e ↔ s.startingPlatform = .error e ∨ ∃ platform,
      s.startingPlatform = .ok platform ∧
        recipe.defaultConfiguration s.host platform = .error e := by
  have hstarting : s.starting = s.startingPlatform >>= fun platform =>
      (recipe.defaultConfiguration s.host platform).map (s.projectOf recipe) := by
    unfold starting
    rw [hload]
    rfl
  simp only [hstarting, bind_eq_error_iff, map_eq_error_iff]

/-! ## The ways in which a startup can go -/

/-- The session in which a project has been opened. -/
def opened (s : Session) (p : Project) (log : List Note) : Session where
  host := { s.host with log := log }
  workspace := (s.begun p).workspace

/-- The session after it has been told that the project in it has no configuration to start with. -/
def warned (s : Session) : Session where
  host := s.host
  workspace := { s.workspace with
    events := s.workspace.events ++
      if s.workspace.hasListener then [invalidConfigurationEvent] else [] }

lemma emit_invalidConfigurationEvent (s : Session) :
    (emit invalidConfigurationEvent).apply s = (.ok (), s.warned) := by
  simp only [emit, change, Act.apply_modify, warned]
  by_cases hl : s.workspace.hasListener = true
  · rw [if_pos hl, if_pos hl]
  · rw [if_neg hl, if_neg hl, List.append_nil]

lemma getElem?_begun (s : Session) (p : Project) :
    (s.begun p).workspace.projects[s.workspace.projects.length]? = some { project := p } := by
  simp [begun]

/-- What becomes of a project that has been opened is what might have been opened. -/
lemma putProject_opened (s : Session) (p : Project) (log : List Note) (w : Workbench) :
    (s.opened p log).putProject s.workspace.projects.length w =
      ⟨w.host, (s.begun w.project).workspace⟩ := by
  have hmodify : (s.workspace.projects ++ [(⟨p, 0⟩ : Loaded)]).modify s.workspace.projects.length
      (fun l => { l with project := w.project }) = s.workspace.projects ++ [⟨w.project, 0⟩] := by
    simp [List.modify_eq_take_cons_drop]
  unfold putProject opened begun
  rw [hmodify]

/-- Nothing changes at startup if nothing is found. -/
theorem startup_of_error {e : Failure} (h : s.starting = .error e) :
    ∃ log, startup.apply s = (.error e, { s with host := { s.host with log := log } }) := by
  obtain ⟨log, hplatform⟩ := s.platformOf_startingCompiler
  unfold startingCompiler at hplatform
  rw [startup_eq]
  rcases bind_eq_error_iff.mp h with hload | ⟨recipe, hload, -⟩
  · refine ⟨s.host.log, ?_⟩
    simp only [loadRecipe, Act.apply_bind, Act.apply_get, Act.apply_ofExcept, hload]
  · refine ⟨log, ?_⟩
    simp only [loadRecipe, Act.apply_bind, Act.apply_get, Act.apply_ofExcept, hload, hplatform]
    rcases (starting_eq_error_iff hload).mp h with hp | ⟨platform, hp, hfound⟩
    · rw [hp]
    · simp only [hp, hfound]

/-- A project that is found is opened, and what comes next depends on whether its configuration is
valid. -/
lemma startup_of_ok (h : s.starting = .ok p) : ∃ log, startup.apply s =
    (Act.ofExcept (p.isValid s.host) >>=
      concludeStartup s.workspace.provider s.workspace.resolver).apply (s.opened p log) := by
  obtain ⟨recipe, platform, found, hload, hplatform, hfound, rfl⟩ := starting_eq_ok h
  obtain ⟨log, hlog⟩ := s.platformOf_startingCompiler
  rw [hplatform] at hlog
  rw [startup_apply_of_found hload hlog hfound]
  simp only [beginProject, Act.apply_bind, Act.apply_modify, note_apply]
  refine ⟨(({ s.host with log := log } : Host).noted .info (s.startupNote recipe found)).log, ?_⟩
  unfold opened begun
  dsimp only
  rw [Host.noted_eq]

/-- A project whose configuration is declared is asked for its paths. -/
theorem startup_of_declares (h : s.starting = .ok p)
    (hd : p.recipe.Declares s.host p.selection.configuration) : ∃ log,
    let refreshed := (Project.refresh s.workspace.provider s.workspace.resolver).apply
      ⟨{ s.host with log := log }, p⟩
    startup.apply s =
      (refreshed.1, ⟨refreshed.2.host, (s.begun refreshed.2.project).workspace⟩) := by
  obtain ⟨log, hstartup⟩ := startup_of_ok h
  have hvalid : p.isValid s.host = .ok true := Recipe.hasConfiguration_of_declares hd
  have hloaded : (s.opened p log).workspace.projects[s.workspace.projects.length]? =
      some { project := p } := getElem?_begun s p
  refine ⟨log, hstartup.trans ?_⟩
  rw [Act.apply_bind, Act.apply_ofExcept, hvalid]
  refine (onCurrent_apply_of_loaded _ rfl hloaded).trans (congrArg (Prod.mk _) ?_)
  exact putProject_opened s p log _

/-- A project whose configuration is not declared is left without paths, and that is told. -/
theorem startup_of_not_declares (h : s.starting = .ok p)
    (hd : ¬ p.recipe.Declares s.host p.selection.configuration) :
    ∃ log, startup.apply s = (.ok false, (s.opened p log).warned) := by
  obtain ⟨log, hstartup⟩ := startup_of_ok h
  obtain ⟨recipe, platform, found, -, -, hfound, rfl⟩ := starting_eq_ok h
  obtain ⟨names, hn⟩ := Recipe.exists_names_of_defaultConfiguration hfound
  have hvalid : (s.projectOf recipe found).isValid s.host = .ok false :=
    Recipe.hasConfiguration_of_not_declares hn hd
  rw [Act.apply_bind, Act.apply_ofExcept, hvalid] at hstartup
  let noted := ({ s.host with log := log } : Host).noted .warning
    "Dub Error: No configuration available"
  refine ⟨noted.log, hstartup.trans ?_⟩
  simp only [concludeStartup, Bool.false_eq_true, if_false, Act.apply_bind, note_apply,
    emit_invalidConfigurationEvent, Act.apply_pure]
  rw [Host.noted_eq]
  rfl

/-- After a startup that succeeds the project that was found is the current one. -/
lemma loaded_of_startup (hs : s.workspace.provider = .dub program directory)
    (h : startup.apply s = (.ok found, t)) :
    ∃ p l, s.starting = .ok p ∧ t.loaded? = some l ∧ l.project.recipe = p.recipe ∧
      l.project.selection = p.selection ∧ t.workspace.resolver = s.workspace.resolver ∧
      ∃ log runs, t.host = { s.host with log := log, runs := runs } := by
  cases hstarting : s.starting with
  | error e =>
    obtain ⟨log, hstartup⟩ := startup_of_error hstarting
    rw [hstartup] at h
    cases h
  | ok p =>
    by_cases hd : p.recipe.Declares s.host p.selection.configuration
    · obtain ⟨log, hstartup⟩ := startup_of_declares hstarting hd
      rw [hstartup, hs] at h
      obtain ⟨-, rfl⟩ := Prod.mk.inj h
      have hmoved := @Project.refresh_moved s.workspace.resolver program directory
        ⟨{ s.host with log := log }, p⟩
      obtain ⟨log', runs, hhost, -⟩ := hmoved.host
      exact ⟨p, _, rfl, loaded?_begun s _, hmoved.recipe, hmoved.selection, rfl, log',
        s.host.runs ++ runs, hhost⟩
    · obtain ⟨log, hstartup⟩ := startup_of_not_declares hstarting hd
      rw [hstartup] at h
      obtain ⟨-, rfl⟩ := Prod.mk.inj h
      exact ⟨p, _, rfl, loaded?_begun s p, rfl, rfl, rfl, log, s.host.runs, rfl⟩

/-- A startup succeeds if a project is found whose configuration is declared, also if dub does not
list the paths. -/
lemma exists_startup_eq_ok (hs : s.workspace.provider = .dub program directory)
    (hquiet : s.host.Quiet) (h : s.starting = .ok p)
    (hd : p.recipe.Declares s.host p.selection.configuration) :
    ∃ found t, startup.apply s = (.ok found, t) := by
  obtain ⟨log, hstartup⟩ := startup_of_declares h hd
  obtain ⟨found, w, hrefresh⟩ := Project.exists_refresh_eq_ok program directory
    s.workspace.resolver (w := ⟨{ s.host with log := log }, p⟩) hquiet hd
  rw [hs, hrefresh] at hstartup
  exact ⟨found, _, hstartup⟩

/-- Such a project is the current one then. -/
lemma exists_startup_loaded (hs : s.workspace.provider = .dub program directory)
    (hquiet : s.host.Quiet) (h : s.starting = .ok p)
    (hd : p.recipe.Declares s.host p.selection.configuration) :
    ∃ found t l, startup.apply s = (.ok found, t) ∧ t.loaded? = some l ∧
      l.project.recipe = p.recipe ∧ l.project.selection = p.selection ∧
      t.workspace.resolver = s.workspace.resolver ∧
      ∃ log runs, t.host = { s.host with log := log, runs := runs } := by
  obtain ⟨found, t, hstartup⟩ := exists_startup_eq_ok hs hquiet h hd
  obtain ⟨p', l, hp, hloaded⟩ := loaded_of_startup hs hstartup
  rw [h] at hp
  cases hp
  exact ⟨found, t, l, hstartup, hloaded⟩

end Session

end DubCheck
