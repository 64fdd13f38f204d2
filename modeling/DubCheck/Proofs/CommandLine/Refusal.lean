import DubCheck.Proofs.CommandLine.Check
import DubCheck.Proofs.Project.Interruption
import DubCheck.Proofs.Workspace.Fulfilment
/-!
# Compilers that cannot be found

A compiler that is asked for on the command line and cannot be found is refused, and the command
ends with the exit code for that.  That it cannot be found is told by what happens when it is
selected: the selection comes to nothing, and the active compiler is another one.  So a compiler
that is active already is never refused, even if it cannot be found.

* `Session.wishCompiler_of_absent`: what comes of asking for a compiler that is not there.
* `Session.applyWishes_of_notices`: whatever else is asked for, it is refused, if its absence is
  noticed.
* `CommandLine.refusesCompiler_iff`: when the absence of a compiler ends the commands.
-/

namespace DubCheck

/-- A value that is rejected changes nothing but the log. -/
lemma Project.select_of_rejection {w : Workbench} {resolver : Resolver} {pick : Pick}
    {text : String} (h : w.project.rejection resolver w.host pick = .ok (some text))
    (provider : Dub.Provider) : (select provider resolver pick).apply w =
      (.ok false, { w with host := w.host.noted .info text }) := by
  rw [select_apply, selectCourse, h]
  rfl

namespace Session

variable {s t : Session} {l : Loaded} {program name : String} {directory : Location}
  {wish : Wish} {wishes : Wishes}

/-- No compiler is found by what is asked for. -/
def Unresolved (s : Session) : Wish → Prop
  | .named name => ∀ c, s.workspace.resolver.resolve s.host name ≠ .ok c
  | .nameless => True

/-- A compiler that is not found is not there, or the system does not look for it. -/
lemma Unresolved.cases (h : s.Unresolved (.named name)) :
    (∃ e, s.workspace.resolver.resolve s.host name = .error (.compiler e)) ∨
      ∃ fault path, s.workspace.resolver.resolve s.host name = .error (.system fault path) :=
  (s.workspace.resolver.resolve_cases s.host name).resolve_left fun ⟨c, hc⟩ => h c hc

/-! ## Asking for a compiler -/

/-- A compiler that is not there is refused, unless it is active. -/
lemma wishCompiler_of_absent (hl : s.loaded? = some l) {e : CompilerError}
    (he : s.workspace.resolver.resolve s.host name = .error (.compiler e)) :
    ∃ t, (wishCompiler (.named name)).apply s =
      (if l.project.selection.compiler = name then .ok () else .error (.compilerNotFound name),
        t) := by
  have hrejection : l.project.rejection s.workspace.resolver s.host (.compiler name) =
      .ok (some (Project.compilerNote name e)) := by
    unfold Project.rejection
    simp only [he]
  obtain ⟨t, happly, hloaded⟩ := onCurrent_of_apply hl
    (Project.select_of_rejection (w := ⟨s.host, l.project⟩) hrejection s.workspace.provider)
  refine ⟨t, ?_⟩
  simp only [wishCompiler, select, Act.apply_bind, Act.apply_get, happly, Bool.false_eq_true,
    if_false, project_apply, hloaded, Option.elim_some]
  by_cases hactive : l.project.selection.compiler = name
  · simp only [hactive, ne_eq, not_true, if_false, if_true, Act.apply_pure]
  · simp only [hactive, ne_eq, not_false_iff, if_false, if_true, Act.apply_throw]

/-- A refusal of the system is passed on. -/
lemma wishCompiler_of_system (hl : s.loaded? = some l) {fault : SystemFault} {path : String}
    (he : s.workspace.resolver.resolve s.host name = .error (.system fault path)) :
    ∃ t, (wishCompiler (.named name)).apply s = (.error (.system fault path), t) := by
  have hblocked := Project.Blocked.search (p := l.project) he
  obtain ⟨t, happly, -⟩ := onCurrent_of_apply hl
    (Project.select_of_blocked (w := ⟨s.host, l.project⟩) hblocked s.workspace.provider)
  exact ⟨t, by simp only [wishCompiler, select, Act.apply_bind, Act.apply_get, happly]⟩

/-- Something without a name is refused. -/
lemma wishCompiler_nameless (hl : s.loaded? = some l) :
    ∃ shown t, (wishCompiler .nameless).apply s = (.error (.compilerNotFound shown), t) := by
  have hnote : (Workbench.note .info (Project.compilerNote Wish.nameless.shown .unnamed)).apply
      ⟨s.host, l.project⟩ = (.ok (), ⟨s.host.noted .info
        (Project.compilerNote Wish.nameless.shown .unnamed), l.project⟩) := rfl
  obtain ⟨t, happly, -⟩ := onCurrent_of_apply hl hnote
  refine ⟨Wish.nameless.shown, t, ?_⟩
  simp only [wishCompiler, Act.apply_bind, happly, Act.apply_throw]

/-! ## Asking for a configuration -/

/-- Where it is looked for a compiler does not depend on what is selected. -/
lemma Moved.resolve {setup : Option Setup} (h : Moved setup s t) (name : String) :
    t.workspace.resolver.resolve t.host name = s.workspace.resolver.resolve s.host name := by
  obtain ⟨log, runs, hhost, -⟩ := h.host
  rw [h.stays.resolver, hhost, Resolver.resolve_logged]

lemma Moved.exists_loaded {x : Setup} (h : Moved (some x) s t) :
    ∃ l, t.loaded? = some l ∧ l.project.selection = x.selection := by
  obtain ⟨l, hl, rfl⟩ := Option.map_eq_some_iff.mp h.becomes
  exact ⟨l, hl, rfl⟩

/-- The question for the paths of a configuration that is asked for is interrupted. -/
def Interrupts (s : Session) (l : Loaded) (wish : Wish) : Prop :=
  Project.Interrupted s.workspace.provider s.workspace.resolver (.configuration wish.document)
    ⟨s.host, l.project⟩

lemma wishConfiguration_of_interrupts (hl : s.loaded? = some l) (h : s.Interrupts l wish) :
    ∃ t, (wishConfiguration wish).apply s = (.error .interrupted, t) := by
  obtain ⟨host, hselect⟩ := Project.select_of_interrupted h
  obtain ⟨t, happly, -⟩ := onCurrent_of_apply hl hselect
  refine ⟨t, ?_⟩
  rw [wishConfiguration_of_declares hl h.takes.offered]
  simp only [select, Act.apply_bind, Act.apply_get, happly]

/-- If nobody interrupts, the configuration that is asked for is selected, and the compiler stays
the same. -/
lemma wishConfiguration_of_not_interrupts (hs : s.workspace.provider = .dub program directory)
    (hl : s.loaded? = some l) (hd : l.project.recipe.Declares s.host wish.document)
    (h : ¬ s.Interrupts l wish) :
    ∃ t x, (wishConfiguration wish).apply s = (.ok (), t) ∧ Moved (some x) s t ∧
      x.selection.compiler = l.project.selection.compiler := by
  have htakes : l.project.Takes s.workspace.resolver s.host (.configuration wish.document) :=
    ⟨hd, Or.inl rfl⟩
  have hmoved := select_moved_of_takes hs hl htakes
  rcases hselect : (Project.select s.workspace.provider s.workspace.resolver
    (.configuration wish.document)).apply ⟨s.host, l.project⟩ with ⟨e | found, w⟩
  · exact absurd (Project.interrupted_of_takes htakes (congrArg Prod.fst hselect)) h
  · obtain ⟨t, happly, -⟩ := onCurrent_of_apply hl hselect
    have hselected : (select (.configuration wish.document)).apply s = (.ok found, t) := by
      simp only [select, Act.apply_bind, Act.apply_get, happly]
    rw [hselected] at hmoved
    refine ⟨t, _, ?_, hmoved, rfl⟩
    rw [wishConfiguration_of_declares hl hd, Act.apply_bind, hselected]
    rfl

/-- Nobody interrupts a question if nobody interrupts dub. -/
lemma not_interrupts_of_quiet (hs : s.workspace.provider = .dub program directory)
    (hquiet : s.host.Quiet) : ¬ s.Interrupts l wish := by
  rintro ⟨-, settings, -, hasked⟩
  rw [hs] at hasked
  exact (Dub.list_sound program directory _ pathFields s.host hquiet).1 hasked

/-! ## Asking for several values -/

/-- The configuration that is asked for is declared, if any is. -/
def DeclaresWished (s : Session) (l : Loaded) (wishes : Wishes) : Prop :=
  ∀ c, wishes.configuration = some c → l.project.recipe.Declares s.host c.document

/-- The absence of a compiler is noticed: it is not the active one, the system looks for it, and
nobody interrupts before it is looked for. -/
structure Notices (s : Session) (l : Loaded) (wish : Wish) : Prop where
  inactive : wish ≠ .named l.project.selection.compiler
  sought : ∀ name fault path, wish = .named name →
    s.workspace.resolver.resolve s.host name ≠ .error (.system fault path)
  uninterrupted : ∀ c, ¬ s.Interrupts l c

/-- What comes before the compiler in the order of selection. -/
lemma wished_of_uninterrupted (hs : s.workspace.provider = .dub program directory)
    (hl : s.loaded? = some l) (hdeclared : s.DeclaresWished l wishes)
    (h : ∀ c, ¬ s.Interrupts l c) :
    ∃ t x, (wishes.configuration.forM wishConfiguration).apply s = (.ok (), t) ∧
      Moved (some x) s t ∧ x.selection.compiler = l.project.selection.compiler := by
  cases hc : wishes.configuration with
  | none => exact ⟨s, _, rfl, setup?_of_loaded hl ▸ moved_self s, rfl⟩
  | some c => exact wishConfiguration_of_not_interrupts hs hl (hdeclared c hc) (h c)

/-- A compiler that cannot be found is refused if that is noticed, whatever else is asked for. -/
lemma applyWishes_of_notices (hs : s.workspace.provider = .dub program directory)
    (hl : s.loaded? = some l) (hwish : wishes.compiler = some wish)
    (habsent : s.Unresolved wish) (hdeclared : s.DeclaresWished l wishes) (h : s.Notices l wish) :
    ∃ name u, (applyWishes wishes).apply s = (.error (.compilerNotFound name), u) := by
  obtain ⟨t, x, hfirst, hmoved, hcompiler⟩ :=
    wished_of_uninterrupted hs hl hdeclared h.uninterrupted
  obtain ⟨l', hl', hselection⟩ := hmoved.exists_loaded
  -- Selecting the configuration has not made the compiler appear, nor another one active.
  have hrefused : ∃ name u, (wishCompiler wish).apply t = (.error (.compilerNotFound name), u) := by
    cases wish with
    | nameless => exact wishCompiler_nameless hl'
    | named name =>
      rcases habsent.cases with ⟨e, hresolve⟩ | ⟨fault, path, hresolve⟩
      · obtain ⟨u, hu⟩ := wishCompiler_of_absent hl' ((hmoved.resolve name).trans hresolve)
        have hinactive : l'.project.selection.compiler ≠ name := by
          rw [hselection, hcompiler]
          rintro rfl
          exact h.inactive rfl
        rw [if_neg hinactive] at hu
        exact ⟨name, u, hu⟩
      · exact absurd hresolve (h.sought name fault path rfl)
  obtain ⟨name, u, hrefused⟩ := hrefused
  have hnext : wishes.compiler.forM wishCompiler = wishCompiler wish := by
    rw [hwish]
    rfl
  refine ⟨name, u, ?_⟩
  simp only [applyWishes, Act.apply_bind, hfirst, hnext, hrefused]

/-- A compiler whose absence is not noticed is not refused, at least if nothing else is asked for
but a configuration. -/
lemma applyWishes_of_not_notices (hl : s.loaded? = some l) (habsent : s.Unresolved wish)
    (h : ¬ s.Notices l wish) :
    ∃ wishes, wishes.compiler = some wish ∧ s.DeclaresWished l wishes ∧
      ∀ e u, (applyWishes wishes).apply s = (.error e, u) → e.kind ≠ "ValueError" := by
  by_cases hinterrupts : ∃ c, s.Interrupts l c
  · -- A configuration is asked for whose question is interrupted.
    obtain ⟨c, hc⟩ := hinterrupts
    obtain ⟨t, hfirst⟩ := wishConfiguration_of_interrupts hl hc
    refine ⟨{ configuration := some c, compiler := some wish }, rfl, ?_, fun e u he => ?_⟩
    · rintro _ ⟨⟩
      exact hc.takes.offered
    · simp only [applyWishes, Act.apply_bind, Option.forM, hfirst] at he
      cases he
      decide
  · -- Only the compiler is asked for, and it is active or the system does not look for it.
    refine ⟨{ compiler := some wish }, rfl, by rintro _ ⟨⟩, fun e u he => ?_⟩
    cases wish with
    | nameless =>
      refine absurd ⟨?_, ?_, fun c hc => hinterrupts ⟨c, hc⟩⟩ h
      · rintro ⟨⟩
      · rintro _ _ _ ⟨⟩
    | named name =>
      rcases habsent.cases with ⟨reason, hresolve⟩ | ⟨fault, path, hresolve⟩
      · have hactive : l.project.selection.compiler = name := by
          by_contra hne
          refine h ⟨?_, ?_, fun c hc => hinterrupts ⟨c, hc⟩⟩
          · rintro ⟨⟩
            exact hne rfl
          · rintro _ fault path ⟨⟩ hsystem
            rw [hresolve] at hsystem
            cases hsystem
        obtain ⟨t, hwished⟩ := wishCompiler_of_absent hl hresolve
        rw [if_pos hactive] at hwished
        simp only [applyWishes, Act.apply_bind, Option.forM, Act.apply_pure, hwished] at he
        cases he
      · obtain ⟨t, hwished⟩ := wishCompiler_of_system hl hresolve
        simp only [applyWishes, Act.apply_bind, Option.forM, Act.apply_pure, hwished] at he
        cases he
        change fault.kind ≠ "ValueError"
        cases fault <;> decide

end Session

namespace CommandLine

open Terminal

variable {directory : Path} {wish : Wish} {wishes : Wishes} {t : Terminal} {s u : Session}
  {l : Loaded} {program : String} {place : Location} {settings : ToolSettings} {hasPaths : Bool}

/-! ## How the commands end -/

/-- A command fails if the project is started up but what is asked for cannot be selected. -/
lemma openSelected_of_error {e : Failure} (hsettings : ToolSettings.ofHost t.host = .ok settings)
    (hstartup : Session.startup.apply (newSession t.host directory settings) = (.ok hasPaths, s))
    (hwishes : (Session.applyWishes wishes).apply s = (.error e, u)) :
    (openSelected directory wishes).apply t = (.error e, t.holding u) := by
  rw [openSelected, Act.apply_bind, openProject_apply hsettings, hstartup]
  change (onSession (Session.applyWishes wishes)).apply (t.holding s) = _
  rw [onSession_holding, hwishes]

/-- A refusal ends a command with a report. -/
lemma reporting_of_compilerNotFound {title name : String} {verbose : Bool}
    {command : Act Terminal Exit} {v : Terminal}
    (h : command.apply t = (.error (.compilerNotFound name), v)) :
    ∃ v', (reporting title isRefusal verbose command).apply t = (.ok .unusable, v') := by
  rw [reporting, Act.apply_ofFunction, h]
  exact ⟨_, rfl⟩

/-- A compiler that cannot be found is refused. -/
structure RefusesCompiler (s : Session) (l : Loaded) (wish : Wish) : Prop where
  /-- Asking for it fails, whatever else is asked for, if the configuration is declared. -/
  refuses : ∀ wishes, wishes.compiler = some wish → s.DeclaresWished l wishes →
    ∃ e u, (Session.applyWishes wishes).apply s = (.error e, u) ∧ e.kind = "ValueError"
  /-- A command that has started this session up ends with the exit code for that. -/
  ends : ∀ wishes, wishes.compiler = some wish → s.DeclaresWished l wishes →
    ∀ t directory settings hasPaths, ToolSettings.ofHost t.host = .ok settings →
      Session.startup.apply (newSession t.host directory settings) = (.ok hasPaths, s) →
        (∀ verbose, ∃ exit u, (check directory wishes verbose).apply t = (.ok exit, u) ∧
          exit.code = 2) ∧
        ∃ exit u, (paths directory wishes).apply t = (.ok exit, u) ∧ exit.code = 2

/-- **Compilers that cannot be found.**  They are refused, and end the commands, exactly if their
absence is noticed: they are not active already, the system looks for them, and nobody interrupts
before that. -/
theorem refusesCompiler_iff (hs : s.workspace.provider = .dub program place)
    (hl : s.loaded? = some l) (habsent : s.Unresolved wish) :
    RefusesCompiler s l wish ↔ s.Notices l wish := by
  constructor
  · intro hlaw
    by_contra hunnoticed
    obtain ⟨wishes, hwish, hdeclared, hkind⟩ :=
      Session.applyWishes_of_not_notices hl habsent hunnoticed
    obtain ⟨e, u, he, hvalue⟩ := hlaw.refuses wishes hwish hdeclared
    exact hkind e u he hvalue
  · intro hnotices
    refine ⟨fun wishes hwish hdeclared => ?_, ?_⟩
    · obtain ⟨name, u, hrefused⟩ :=
        Session.applyWishes_of_notices hs hl hwish habsent hdeclared hnotices
      exact ⟨_, u, hrefused, rfl⟩
    · intro wishes hwish hdeclared t directory settings hasPaths hsettings hstartup
      obtain ⟨name, u, hrefused⟩ :=
        Session.applyWishes_of_notices hs hl hwish habsent hdeclared hnotices
      have hopen := openSelected_of_error hsettings hstartup hrefused
      have hfails : ∀ rest : Act Terminal Exit, (openSelected directory wishes >>= fun _ =>
          rest).apply t = (.error (.compilerNotFound name), t.holding u) := by
        intro rest
        rw [Act.apply_bind, hopen]
      refine ⟨fun verbose => ?_, ?_⟩
      · rw [check_eq]
        obtain ⟨v, hend⟩ := reporting_of_compilerNotFound (hfails _)
        exact ⟨_, v, hend, rfl⟩
      · rw [paths]
        obtain ⟨v, hend⟩ := reporting_of_compilerNotFound (hfails _)
        exact ⟨_, v, hend, rfl⟩

/-! A package on a host that has no compiler, where the environment asks for `ldc2`. -/

/-- A terminal on a host with an empty package, a preferred compiler, and no programs. -/
def unservedTerminal : Terminal where
  host := {
    files := ⟨[("p", .directory [("dub.sdl", .file [] false)])]⟩
    directory := []
    environment := [("DC", "ldc2")]
    machine := "x86_64"
    dub := fun _ => .noProgram }

/-- The settings of the tool there. -/
def unservedSettings : ToolSettings where
  homeDirectory := ⟨.slash, [".dubsense"]⟩
  dub := "dub"
  logLevel := "INFO"
  preferredCompiler := some "ldc2"

/-- The session in which the project is opened. -/
def unservedSession : Session :=
  newSession unservedTerminal.host (Path.ofText "p") unservedSettings

/-- What the recipe is loaded as. -/
def unservedRecipe : Recipe where
  directory := ⟨.slash, ["p"]⟩
  file := ⟨.slash, ["p", "dub.sdl"]⟩

lemma ofHost_unservedTerminal :
    ToolSettings.ofHost unservedTerminal.host = .ok unservedSettings := by
  cbv

lemma resolve_unservedSession : unservedSession.workspace.resolver.resolve unservedSession.host
    "ldc2" = .error (.compiler (.absent "ldc2")) := by
  cbv

lemma starting_unservedSession : unservedSession.starting =
    .ok (unservedSession.projectOf unservedRecipe (some (.string "library"))) := by
  have hplatform : unservedSession.startingPlatform = .ok none := by
    have hcompiler : unservedSession.startingCompiler = "ldc2" := by cbv
    rw [Session.startingPlatform, hcompiler, resolve_unservedSession]
  exact Session.starting_of_found (by cbv) hplatform (by cbv)

/-- The project is started up with a compiler that cannot be found. -/
lemma exists_startup_unservedSession : ∃ hasPaths s l,
    Session.startup.apply unservedSession = (.ok hasPaths, s) ∧
      s.workspace.provider = .dub "dub" ["p"] ∧ s.loaded? = some l ∧
      l.project.selection.compiler = "ldc2" ∧
      l.project.recipe.Declares s.host l.project.selection.configuration ∧
      (∀ name, s.workspace.resolver.resolve s.host name =
        unservedSession.workspace.resolver.resolve unservedSession.host name) ∧
      s.host.Quiet := by
  have hquiet : unservedSession.host.Quiet := by
    rintro arguments ⟨⟩
  have hdeclares : ∀ log runs, unservedRecipe.Declares
      { unservedSession.host with log := log, runs := runs } (.string "library") :=
    fun log runs => ⟨[.string "library"], by cbv, .string "library", List.mem_singleton_self _,
      by cbv⟩
  obtain ⟨found, s, l, hstartup, hl, hrecipe, hselection, hresolver, log, runs, hhost⟩ :=
    Session.exists_startup_loaded (s := unservedSession) rfl hquiet starting_unservedSession
      (hdeclares [] [])
  have hstays := Session.startup_stays (s := unservedSession) rfl
  rw [hstartup] at hstays
  refine ⟨found, s, l, hstartup, hstays.provider, hl, ?_, ?_, fun name => ?_, ?_⟩
  · rw [hselection]
    cbv
  · rw [hrecipe, hselection, hhost]
    exact hdeclares log runs
  · rw [hresolver, hhost, Resolver.resolve_logged]
  · rw [hhost]
    exact hquiet

theorem refusesCompiler_of_gdc : ∃ hasPaths s l,
    ToolSettings.ofHost unservedTerminal.host = .ok unservedSettings ∧
      Session.startup.apply unservedSession = (.ok hasPaths, s) ∧
      s.workspace.provider = .dub "dub" ["p"] ∧ s.loaded? = some l ∧
      s.Unresolved (.named "gdc") ∧ RefusesCompiler s l (.named "gdc") := by
  obtain ⟨hasPaths, s, l, hstartup, hprovider, hl, hcompiler, -, hresolve, hquiet⟩ :=
    exists_startup_unservedSession
  have hgdc : s.workspace.resolver.resolve s.host "gdc" =
      .error (.compiler (.absent "gdc")) := by
    rw [hresolve]
    cbv
  have habsent : s.Unresolved (.named "gdc") := by
    intro c hc
    rw [hgdc] at hc
    cases hc
  have hnotices : s.Notices l (.named "gdc") := by
    refine ⟨?_, ?_, fun c => Session.not_interrupts_of_quiet hprovider hquiet⟩
    · rw [hcompiler]
      decide
    · rintro _ fault path ⟨⟩ hsystem
      rw [hgdc] at hsystem
      cases hsystem
  exact ⟨hasPaths, s, l, ofHost_unservedTerminal, hstartup, hprovider, hl, habsent,
    (refusesCompiler_iff hprovider hl habsent).mpr hnotices⟩

/-- The compiler that is active from the start is not refused, although it cannot be found. -/
theorem not_refusesCompiler_of_ldc : ∃ hasPaths s l,
    ToolSettings.ofHost unservedTerminal.host = .ok unservedSettings ∧
      Session.startup.apply unservedSession = (.ok hasPaths, s) ∧ s.loaded? = some l ∧
      l.project.recipe.Declares s.host l.project.selection.configuration ∧
      s.Unresolved (.named "ldc2") ∧ ¬ RefusesCompiler s l (.named "ldc2") := by
  obtain ⟨hasPaths, s, l, hstartup, hprovider, hl, hcompiler, hdeclares, hresolve, -⟩ :=
    exists_startup_unservedSession
  have habsent : s.Unresolved (.named "ldc2") := by
    intro c hc
    rw [hresolve, resolve_unservedSession] at hc
    cases hc
  refine ⟨hasPaths, s, l, ofHost_unservedTerminal, hstartup, hl, hdeclares, habsent,
    fun hlaw => ?_⟩
  have hnotices := (refusesCompiler_iff hprovider hl habsent).mp hlaw
  exact hnotices.inactive (by rw [hcompiler])

end CommandLine

end DubCheck
