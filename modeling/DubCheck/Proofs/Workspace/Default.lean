import DubCheck.Proofs.Project.Selecting
import DubCheck.Proofs.Recipe.Default
import DubCheck.Proofs.Workspace.Isolation
import DubCheck.Proofs.Workspace.Startup
/-!
# Starting up with the default configuration

At startup the default configuration of the package is made active.  If there is none, the project
is loaded all the same, but it is *stuck*: everything that needs a configuration fails until one is
selected that is declared, or the recipe is read again.  All this is so unless the startup fails,
which happens if the system refuses to follow the path of the compiler, or to look for the files
that a package is known by that declares no configuration.

* `Session.Stuck.refuses`: what fails in a project that is stuck.
* `Session.Stuck.after`: a project stays stuck.
* `Session.startsLawfully_iff`: what becomes of a startup.
-/

namespace DubCheck

/-! ## Projects without a configuration -/

namespace Project

variable {p : Project} {w : Workbench} {resolver : Resolver} {pick : Pick}

/-- No configuration is active in a project, and its package declares some. -/
structure Unusable (p : Project) : Prop where
  named : p.recipe.Named
  declares : p.recipe.configurations ≠ []
  configuration : p.selection.configuration = .string ""

namespace Unusable

lemma not_declares (hp : p.Unusable) (h : Host) :
    ¬ p.recipe.Declares h p.selection.configuration := by
  rw [hp.configuration]
  exact hp.named.not_declares_empty hp.declares h

lemma check (hp : p.Unusable) (h : Host) :
    ∃ available, p.check h = .error (.invalidConfiguration "" available) := by
  obtain ⟨text, htext⟩ := hp.named.exists_joined
  refine ⟨orNone text, ?_⟩
  rw [check_of_not_declares (Recipe.configurationNames_of_ne_nil hp.declares h)
    (hp.not_declares h), htext, hp.configuration]
  rfl

/-- Without a configuration nothing else can be selected. -/
lemma select_of_offers (hw : w.project.Unusable) (ho : w.project.Offers resolver w.host pick)
    (hp : ¬ pick.isConfiguration) (provider : Dub.Provider) :
    ∃ available, (select provider resolver pick).apply w =
      (.error (.invalidConfiguration "" available), w) := by
  obtain ⟨available, hcheck⟩ := hw.check w.host
  refine ⟨available, ?_⟩
  rw [select_apply, selectCourse, rejection_of_offers ho]
  simp only [hp, Bool.false_eq_true, if_false, hcheck]
  rfl

/-- Only a configuration that is declared can be selected. -/
lemma select_keeps (hw : w.project.Unusable)
    (hpick : ∀ name, pick = .configuration name → ¬ w.project.recipe.Declares w.host name)
    (provider : Dub.Provider) :
    ((select provider resolver pick).apply w).2.project = w.project := by
  have htakes : ¬ w.project.Takes resolver w.host pick := by
    rintro ⟨ho, hvalid⟩
    cases pick with
    | configuration name => exact hpick name rfl ho
    | archType name | buildType name | compiler name =>
      exact hw.not_declares w.host (hvalid.resolve_left Bool.false_ne_true)
  obtain ⟨result, host, -, hcourse⟩ := selectCourse_of_not_takes htakes
  rw [select_apply, hcourse]
  rfl

lemma refresh_keeps (hw : w.project.Unusable) (provider : Dub.Provider) :
    ((refresh provider resolver).apply w).2 = w := by
  obtain ⟨available, hcheck⟩ := hw.check w.host
  rw [refresh_apply, refreshCourse, hcheck]
  rfl

end Unusable

end Project

/-! ## Being stuck -/

namespace Session

variable {s t : Session} {index : Nat} {l : Loaded}

/-- The current project has no configuration. -/
def Stuck (s : Session) : Prop :=
  ∃ l, s.loaded? = some l ∧ l.project.Unusable

/-- Something fails because no configuration is active, and nothing changes. -/
def Lacks {α : Type} (a : Act Session α) (s : Session) : Prop :=
  ∃ available, a.apply s = (.error (.invalidConfiguration "" available), s)

/-- Everything that needs a configuration fails. -/
structure Refuses (s : Session) : Prop where
  build : Lacks build s
  check : Lacks check s
  dependencies : Lacks dependencies s
  rootDependencies : Lacks rootDependencies s
  select : ∀ pick l, s.loaded? = some l → l.project.Offers s.workspace.resolver s.host pick →
    ¬ pick.isConfiguration → Lacks (select pick) s

lemma exists_index_of_loaded (hl : s.loaded? = some l) :
    ∃ index, s.workspace.current = some index ∧ s.workspace.projects[index]? = some l :=
  Option.bind_eq_some_iff.mp hl

/-- **Being stuck.**  In a project without a configuration everything fails that needs one. -/
theorem Stuck.refuses (hs : s.Stuck) : s.Refuses := by
  obtain ⟨l, hl, hp⟩ := hs
  obtain ⟨available, hcheck⟩ := hp.check s.host
  obtain ⟨index, hc, hindex⟩ := exists_index_of_loaded hl
  have hvalidate : validate.apply s = (.error (.invalidConfiguration "" available), s) := by
    rw [validate_apply, hl]
    exact congrArg (·, s) hcheck
  refine ⟨⟨available, ?_⟩, ⟨available, ?_⟩, ⟨available, ?_⟩, ⟨available, ?_⟩, ?_⟩
  · simp only [build, Act.apply_bind, currentIndex_apply, hc, Option.elim_some, hvalidate]
  · simp only [check, Act.apply_bind, hvalidate]
  · simp only [dependencies, Act.apply_bind, hvalidate]
  · simp only [rootDependencies, Act.apply_bind, hvalidate]
  · intro pick l' hl' ho hpick
    rw [hl] at hl'
    cases hl'
    obtain ⟨available', hselect⟩ :=
      hp.select_of_offers (w := ⟨s.host, l.project⟩) ho hpick s.workspace.provider
    refine ⟨available', ?_⟩
    simp only [select, Act.apply_bind, Act.apply_get]
    rw [onCurrent_apply_of_loaded _ hc hindex, hselect]
    exact congrArg _ (putProject_self hindex)

/-! ### What a project that is stuck outlasts -/

lemma ofProjects_stuck : OfProjects Stuck := by
  rintro s t hprojects hcurrent ⟨l, hl, hp⟩
  refine ⟨l, ?_, hp⟩
  rw [loaded?, hprojects, hcurrent]
  exact hl

/-- What is done with some project leaves the current one stuck if it leaves such projects as they
are. -/
lemma onProject_preserves {α : Type} (index : Nat) {a : Act Workbench α}
    (ha : ∀ w : Workbench, w.project.Unusable → (a.apply w).2.project.Unusable) :
    (onProject index a).Preserves Stuck := by
  rintro s ⟨l, hl, hp⟩
  obtain ⟨current, hc, hcurrent⟩ := exists_index_of_loaded hl
  cases hindex : s.workspace.projects[index]? with
  | none =>
    simp only [onProject, Act.apply_ofFunction, hindex]
    exact ⟨l, hl, hp⟩
  | some l' =>
    rw [onProject_apply_of_loaded a hindex]
    have hafter : ∀ w, (s.putProject index w).loaded? =
        (s.putProject index w).workspace.projects[current]? := by
      intro w
      rw [loaded?, show (s.putProject index w).workspace.current = some current from hc]
      rfl
    by_cases heq : index = current
    · subst heq
      rw [hcurrent] at hindex
      cases hindex
      exact ⟨_, (hafter _).trans (projects_putProject hcurrent _), ha ⟨s.host, l.project⟩ hp⟩
    · exact ⟨l, (hafter _).trans ((projects_putProject_of_ne heq _).trans hcurrent), hp⟩

/-- Finding the paths again does not help. -/
lemma refresh_preserves_stuck (provider : Dub.Provider) (resolver : Resolver) (index : Nat) :
    (onProject index (Project.refresh provider resolver)).Preserves Stuck := by
  refine onProject_preserves index fun w hw => ?_
  rw [hw.refresh_keeps]
  exact hw

/-- What leaves the current project as it is leaves it stuck. -/
lemma onCurrent_preserves_of_loaded {α : Type} {a : Act Workbench α} (hl : s.loaded? = some l)
    (hp : l.project.Unusable) (ha : (a.apply ⟨s.host, l.project⟩).2.project = l.project) :
    ((onCurrent a).apply s).2.Stuck := by
  rcases hdone : a.apply ⟨s.host, l.project⟩ with ⟨r, w⟩
  obtain ⟨t, happly, hloaded⟩ := onCurrent_of_apply hl hdone
  rw [hdone] at ha
  rw [happly]
  exact ⟨_, hloaded, ha ▸ hp⟩

/-- A step that may help a project that is stuck: a configuration is selected that is declared, the
recipe is read again, or the project is let go. -/
def Recovers (s : Session) : Step → Prop
  | .select (.configuration name) => ∃ l, s.loaded? = some l ∧ l.project.recipe.Declares s.host name
  | .startup | .restart | .ask .update =>
    ∃ recipe, Recipe.load s.host (Path.ofLocation s.workspace.directory) = .ok recipe
  | .stop => True
  | _ => False

lemma restart_of_error {e : Failure}
    (hload : Recipe.load s.host (Path.ofLocation s.workspace.directory) = .error e) :
    restart.apply s = (.error e, s) := by
  simp only [restart, loadRecipe, Act.apply_bind, Act.apply_get, Act.apply_ofExcept, hload]

/-- An update that cannot read the recipe fails at once, and only its failure is left of it. -/
lemma update_of_error {e : Failure}
    (hload : Recipe.load s.host (Path.ofLocation s.workspace.directory) = .error e) :
    ∃ log, update.apply s = (.ok (s.workspace.tickets + 1),
      ({ s with host := { s.host with log := log } } : Session).withTicket.delivered
        ⟨s.workspace.tickets + 1, .error e⟩) := by
  have hrestart : restart.apply s.withTicket = (.error e, s.withTicket) := restart_of_error hload
  have hne : (restart.apply s.withTicket).1 ≠ .error .interrupted := by
    rw [hrestart]
    rintro ⟨⟩
    exact Recipe.load_ne_interrupted _ hload
  refine ⟨(s.host.noted .error ("Failed to reload project: " ++ e.message)).log, ?_⟩
  simp only [update, Act.apply_bind, newTicket_apply, Act.apply_outcome_of_ne hne, hrestart,
    note_apply]
  rw [← Host.noted_eq]
  rfl

lemma update_preserves_of_error {e : Failure} (hs : s.Stuck)
    (hload : Recipe.load s.host (Path.ofLocation s.workspace.directory) = .error e) :
    (update.apply s).2.Stuck := by
  obtain ⟨log, hupdate⟩ := update_of_error hload
  rw [hupdate]
  exact ofProjects_stuck (s := s) rfl rfl hs

/-- Selecting what cannot help leaves the project as it is. -/
lemma select_preserves {pick : Pick} (hs : s.Stuck) (hpick : ¬ s.Recovers (.select pick)) :
    ((select pick).apply s).2.Stuck := by
  obtain ⟨l, hl, hp⟩ := hs
  simp only [select, Act.apply_bind, Act.apply_get]
  refine onCurrent_preserves_of_loaded hl hp ?_
  refine hp.select_keeps (w := ⟨s.host, l.project⟩) ?_ _
  rintro name rfl hd
  exact hpick ⟨l, hl, hd⟩

lemma session_after_ask (x : History) (kind : Kind) :
    (x.after (.ask kind)).session = (kind.ask.apply x.session).2 := by
  rw [History.after]
  rcases kind.ask.apply x.session with ⟨e | ticket, t⟩ <;> rfl

/-- A startup that cannot read the recipe fails at once. -/
lemma startup_preserves_of_error {e : Failure} (hs : s.Stuck)
    (hload : Recipe.load s.host (Path.ofLocation s.workspace.directory) = .error e) :
    (startup.apply s).2.Stuck := by
  have hstarting : s.starting = .error e := by
    rw [starting, hload]
    rfl
  obtain ⟨log, hstartup⟩ := startup_of_error hstarting
  obtain ⟨l, hl, hp⟩ := hs
  rw [hstartup]
  exact ⟨l, hl, hp⟩

lemma Lacks.preserves {α : Type} {a : Act Session α} (ha : Lacks a s) (hs : s.Stuck) :
    (a.apply s).2.Stuck := by
  obtain ⟨available, h⟩ := ha
  rw [h]
  exact hs

/-- **Staying stuck.**  A project stays stuck in every step that does not help it. -/
theorem Stuck.after {x : History} (hx : x.session.Stuck) {step : Step}
    (hstep : ¬ x.session.Recovers step) : (x.after step).session.Stuck := by
  cases step with
  | startup =>
    cases hload : Recipe.load x.session.host (Path.ofLocation x.session.workspace.directory) with
    | ok recipe => exact absurd ⟨recipe, hload⟩ hstep
    | error e => exact startup_preserves_of_error hx hload
  | stop => exact absurd trivial hstep
  | restart =>
    cases hload : Recipe.load x.session.host (Path.ofLocation x.session.workspace.directory) with
    | ok recipe => exact absurd ⟨recipe, hload⟩ hstep
    | error e =>
      rw [History.after, restart_of_error hload]
      exact hx
  | select pick => exact select_preserves hx hstep
  | ask kind =>
    rw [session_after_ask]
    cases kind with
    | build => exact hx.refuses.build.preserves hx
    | dependencies => exact hx.refuses.dependencies.preserves hx
    | update =>
      cases hload : Recipe.load x.session.host
          (Path.ofLocation x.session.workspace.directory) with
      | ok recipe => exact absurd ⟨recipe, hload⟩ hstep
      | error e => exact update_preserves_of_error hx hload
  | run index => exact runQueued_preserves ofProjects_stuck refresh_preserves_stuck index _ hx
  | change f => exact hx

/-! ## Starting up -/

/-- The platform of the compiler that is selected at startup, if it can be found. -/
def startingPlatform? (s : Session) : Option Platform :=
  (s.workspace.resolver.resolve s.host s.startingCompiler).toOption.map
    (s.workspace.resolver.platform s.host · none)

/-- A recipe has been loaded, and a configuration is active. -/
structure Loads (s t : Session) (recipe : Recipe) (configuration : String) (paths : PathSet) :
    Prop where
  current : t.workspace.current = some s.workspace.projects.length
  projects : t.workspace.projects = s.workspace.projects ++ [{ project := ⟨recipe,
    { configuration := .string configuration, compiler := s.startingCompiler }, paths⟩ }]

/-- At startup the default configuration becomes active.  If there is none, that is told, dub is not
run, there are no paths, and everything that needs a configuration fails until something is done
that may help. -/
structure StartsLawfully (s : Session) (recipe : Recipe) : Prop where
  selects : ∀ name, recipe.IsDefault s.host s.startingPlatform? name →
    ∃ paths, s.Loads (startup.apply s).2 recipe name paths
  gets_stuck : (∀ name, ¬ recipe.IsDefault s.host s.startingPlatform? name) →
    ∃ t, startup.apply s = (.ok false, t) ∧ s.Loads t recipe "" {} ∧
      t.host.runs = s.host.runs ∧
      t.workspace.events = s.workspace.events ++
        (if s.workspace.hasListener then [invalidConfigurationEvent] else []) ∧
      ∀ steps : List Step,
        (∀ before step, before ++ [step] <+: steps →
          ¬ (before.foldl History.after ⟨t, [], []⟩).session.Recovers step) →
        (steps.foldl History.after ⟨t, [], []⟩).session.Refuses

/-- The system refuses to follow the path of the compiler, or it cannot be told what a package is
that declares no configuration. -/
def Refused (s : Session) (recipe : Recipe) : Prop :=
  (∃ fault path, s.workspace.resolver.resolve s.host s.startingCompiler =
      .error (.system fault path)) ∨
    recipe.configurations = [] ∧ ∃ e, recipe.implicitConfiguration s.host = .error e

/-- As long as nothing is done that may help, a project that is stuck stays so. -/
lemma Stuck.foldl_after {x : History} (hx : x.session.Stuck) {steps : List Step}
    (hsteps : ∀ before step, before ++ [step] <+: steps →
      ¬ (before.foldl History.after x).session.Recovers step) :
    (steps.foldl History.after x).session.Stuck := by
  induction steps generalizing x with
  | nil => exact hx
  | cons step steps ih =>
    have hfirst : ¬ x.session.Recovers step := hsteps [] step ⟨steps, rfl⟩
    refine ih (hx.after hfirst) fun before next hprefix => ?_
    exact hsteps (step :: before) next ((List.prefix_cons_inj step).mpr hprefix)

lemma startingPlatform_of_not_refused {recipe : Recipe} (h : ¬ s.Refused recipe) :
    s.startingPlatform = .ok s.startingPlatform? := by
  unfold startingPlatform startingPlatform?
  rcases s.workspace.resolver.resolve_cases s.host s.startingCompiler with
    ⟨c, hc⟩ | ⟨reason, hc⟩ | ⟨fault, path, hc⟩
  · rw [hc]
    rfl
  · rw [hc]
    rfl
  · exact absurd (Or.inl ⟨fault, path, hc⟩) h

lemma starting_of_refused {recipe : Recipe}
    (hload : Recipe.load s.host (Path.ofLocation s.workspace.directory) = .ok recipe)
    (h : s.Refused recipe) : ∃ e, s.starting = .error e := by
  rcases h with ⟨fault, path, hc⟩ | ⟨hempty, e, hi⟩
  · refine ⟨.system fault path, (starting_eq_error_iff hload).mpr (Or.inl ?_)⟩
    rw [startingPlatform, hc]
  · cases hplatform : s.startingPlatform with
    | error e' => exact ⟨e', (starting_eq_error_iff hload).mpr (Or.inl hplatform)⟩
    | ok platform =>
      refine ⟨e, (starting_eq_error_iff hload).mpr (Or.inr ⟨platform, hplatform, ?_⟩)⟩
      rw [Recipe.defaultConfiguration, if_pos (List.isEmpty_iff.mpr hempty), hi]
      rfl

/-- A default configuration that is found is active after the startup. -/
lemma loads_of_found {recipe : Recipe} {name : String} (hname : name ≠ "")
    (hload : Recipe.load s.host (Path.ofLocation s.workspace.directory) = .ok recipe)
    (h : ¬ s.Refused recipe)
    (hfound : recipe.defaultConfiguration s.host s.startingPlatform? = .ok (some (.string name))) :
    ∃ paths, s.Loads (startup.apply s).2 recipe name paths := by
  have hstarting := starting_of_found hload (startingPlatform_of_not_refused h) hfound
  have hproject : s.projectOf recipe (some (.string name)) = ⟨recipe,
      { configuration := .string name, compiler := s.startingCompiler }, {}⟩ := by
    have htruthy : (Document.string name).truthy = true := by
      simp [Document.truthy, hname]
    rw [projectOf, Option.filter_some, htruthy]
    rfl
  rw [hproject] at hstarting
  obtain ⟨log, hstartup⟩ := startup_of_declares hstarting
    (Recipe.declares_of_defaultConfiguration hfound)
  rw [hstartup]
  have hrefreshed := Project.project_refresh s.workspace.provider s.workspace.resolver
    ⟨{ s.host with log := log }, ⟨recipe,
      { configuration := .string name, compiler := s.startingCompiler }, {}⟩⟩
  exact ⟨_, rfl, congrArg (fun p => s.workspace.projects ++ [({ project := p } : Loaded)])
    hrefreshed⟩

/-- Without a default configuration the project is stuck after the startup. -/
lemma loads_of_not_found {recipe : Recipe} (hnamed : recipe.Named)
    (hload : Recipe.load s.host (Path.ofLocation s.workspace.directory) = .ok recipe)
    (h : ¬ s.Refused recipe) (hne : recipe.configurations ≠ [])
    (hfound : recipe.defaultConfiguration s.host s.startingPlatform? = .ok none) :
    ∃ log, startup.apply s = (.ok false, (s.opened ⟨recipe,
      { configuration := .string "", compiler := s.startingCompiler }, {}⟩ log).warned) := by
  have hstarting := starting_of_found hload (startingPlatform_of_not_refused h) hfound
  have hproject : s.projectOf recipe none = ⟨recipe,
      { configuration := .string "", compiler := s.startingCompiler }, {}⟩ := rfl
  rw [hproject] at hstarting
  exact startup_of_not_declares hstarting (hnamed.not_declares_empty hne s.host)

/-- **Starting up.**  The default configuration becomes active at startup, and if there is none the
project is stuck, exactly if the system does not refuse to look for the compiler, or for the files
of a package that declares no configuration. -/
theorem startsLawfully_iff {recipe : Recipe}
    (hload : Recipe.load s.host (Path.ofLocation s.workspace.directory) = .ok recipe)
    (hnamed : recipe.Named) : s.StartsLawfully recipe ↔ ¬ s.Refused recipe := by
  constructor
  · intro hlaw hrefused
    obtain ⟨e, hstarting⟩ := starting_of_refused hload hrefused
    obtain ⟨log, hstartup⟩ := startup_of_error hstarting
    by_cases hdefault : ∃ name, recipe.IsDefault s.host s.startingPlatform? name
    · obtain ⟨name, hname⟩ := hdefault
      obtain ⟨paths, hloads⟩ := hlaw.selects name hname
      rw [hstartup] at hloads
      have hlength := congrArg List.length hloads.projects
      simp at hlength
    · obtain ⟨t, ht, -⟩ := hlaw.gets_stuck (not_exists.mp hdefault)
      rw [hstartup] at ht
      cases ht
  · intro h
    rcases Recipe.defaultConfiguration_cases hnamed s.host s.startingPlatform? with
      ⟨name, hfound, hdefault⟩ | ⟨hfound, hne, hnone⟩ | ⟨e, -, hempty, hi⟩
    · refine ⟨fun other hother => ?_, fun hnone => absurd hdefault (hnone name)⟩
      rw [Recipe.isDefault_unique hother hdefault]
      exact loads_of_found (hnamed.ne_empty_of_isDefault hdefault) hload h hfound
    · refine ⟨fun name hname => absurd hname (hnone name), fun _ => ?_⟩
      obtain ⟨log, hstartup⟩ := loads_of_not_found hnamed hload h hne hfound
      have hloads : s.Loads (s.opened ⟨recipe,
          { configuration := .string "", compiler := s.startingCompiler }, {}⟩ log).warned
          recipe "" {} := ⟨rfl, rfl⟩
      have hstuck : (s.opened ⟨recipe,
          { configuration := .string "", compiler := s.startingCompiler }, {}⟩ log).warned.Stuck :=
        ⟨_, loaded?_begun s _, hnamed, hne, rfl⟩
      exact ⟨_, hstartup, hloads, rfl, rfl,
        fun steps hsteps => (Stuck.foldl_after hstuck hsteps).refuses⟩
    · exact absurd (Or.inr ⟨hempty, e, hi⟩) h

/-! ## A sample -/

/-- A host with a package whose only configuration is for another operating system. -/
def guiHost : Host where
  files := ⟨[("p", .directory [("dub.sdl", .file (Text.Utf8.encode
      "configuration \"gui\" \x7b\nplatforms \"windows\"\n\x7d\n") false)]),
    ("bin", .directory [("dmd", .file [] true)])]⟩
  directory := []
  environment := [("PATH", "/bin")]
  machine := "x86_64"
  dub := fun _ => .finished [] [] 0

/-- A new session for this package, with a compiler that is preferred. -/
def guiSession (preferred : Option String) : Session where
  host := guiHost
  workspace := Workspace.new ["p"]
    { homeDirectory := ⟨.slash, ["h"]⟩, dub := "dub", logLevel := "INFO",
      preferredCompiler := preferred } {}

/-- What the recipe is loaded as. -/
def guiRecipe : Recipe where
  directory := ⟨.slash, ["p"]⟩
  file := ⟨.slash, ["p", "dub.sdl"]⟩
  configurations := [{ name := .string "gui", platforms := [.string "windows"] }]

lemma load_guiSession (preferred : Option String) :
    Recipe.load (guiSession preferred).host
      (Path.ofLocation (guiSession preferred).workspace.directory) = .ok guiRecipe := by
  cbv

lemma named_guiRecipe : guiRecipe.Named := by
  intro c hc
  rw [List.mem_singleton.mp hc]
  refine ⟨⟨"gui", by decide, rfl⟩, fun d hd => ⟨"windows", ?_⟩⟩
  exact List.mem_singleton.mp hd

/-- There is a compiler, so the project is stuck after the startup. -/
theorem startsLawfully_of_guiSession :
    Recipe.load (guiSession none).host (Path.ofLocation (guiSession none).workspace.directory) =
        .ok guiRecipe ∧
      guiRecipe.Named ∧ (guiSession none).StartsLawfully guiRecipe := by
  have hresolve : ∃ c, (guiSession none).workspace.resolver.resolve (guiSession none).host
      (guiSession none).startingCompiler = .ok c := ⟨⟨.dmd, "dmd", "/bin/dmd"⟩, by cbv⟩
  refine ⟨load_guiSession none, named_guiRecipe,
    (startsLawfully_iff (load_guiSession none) named_guiRecipe).mpr ?_⟩
  rintro (⟨fault, path, h⟩ | ⟨h, -⟩)
  · obtain ⟨c, hc⟩ := hresolve
    rw [hc] at h
    cases h
  · cases h

/-- The path of the compiler that is preferred is too long, and the startup fails. -/
theorem not_startsLawfully_of_long_path :
    Recipe.load (guiSession (some Project.longPath)).host
        (Path.ofLocation (guiSession (some Project.longPath)).workspace.directory) =
        .ok guiRecipe ∧
      guiRecipe.Named ∧ ¬ (guiSession (some Project.longPath)).StartsLawfully guiRecipe := by
  have hload := load_guiSession (some Project.longPath)
  refine ⟨hload, named_guiRecipe, fun h => ?_⟩
  refine (startsLawfully_iff hload named_guiRecipe).mp h (Or.inl ?_)
  have hcompiler : (guiSession (some Project.longPath)).startingCompiler = Project.longPath := by
    have hne : ∀ n, ¬ ("/" ++ String.ofList (List.replicate n 'a') ++ "/dmd").isEmpty = true := by
      simp
    unfold startingCompiler Resolver.defaultCompiler guiSession
    exact if_neg (hne 256)
  rw [hcompiler]
  exact ⟨.nameTooLong, Project.longPath, Resolver.resolve_of_long_word (by decide) _ _⟩

end Session

end DubCheck
