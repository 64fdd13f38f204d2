import DubCheck.Proofs.Workspace.Frame
/-!
# What jobs do

A job does its work on the session that is there when it runs, and an `Effect` is what comes of it:
the runs of dub it makes and the outcome it gives.  The effects of a build and of a listing are
computed from a selection and from what the host says at that time; no other job, no other request
and no project occurs in them.

* `Session.buildEffect_renewed`, `Session.describeEffect_renewed`: what has been done before plays
  no part in these effects.
* `Session.realizes_build`, `Session.realizes_update`, `Session.realizes_describe`: work has its
  effect.
* `Session.runQueued_apply`: running a queued job takes it from the queue and delivers its outcome.
* `Session.build_apply`, `Session.update_apply`, `Session.dependencies_apply`: what is asked for
  gets a new ticket and begins under it.
-/

namespace DubCheck

/-! ## Effects -/

/-- What comes of some work: the runs of dub it makes, and the outcome it gives. -/
structure Effect where
  runs : List Dub.Run
  outcome : Except Failure Outcome

namespace Selection

/-- The arguments that tell dub what is selected. -/
def arguments (s : Selection) : List String :=
  ["--config=" ++ s.configuration.display, "--build=" ++ s.buildType, "--compiler=" ++ s.compiler,
    "--arch=" ++ s.archType]

/-- The arguments of a build that only looks for issues. -/
def checkArguments (s : Selection) : List String :=
  "build" :: s.arguments ++ ["--temp-build"]

/-- The arguments that ask for a description. -/
def describeArguments (s : Selection) : List String :=
  "describe" :: s.arguments

/-- What dub is told for a build that only looks for issues. -/
def checkSettings (s : Selection) (compiler : Compiler) : Dub.Settings where
  configuration := s.configuration.display
  buildType := s.buildType
  compiler := compiler
  archType := some s.archType
  syntaxOnly := true
  temporary := true

end Selection

/-- Settings that carry a selection tell dub what is selected. -/
lemma Dub.Settings.Carries.selectors {settings : Dub.Settings} {s : Selection}
    (h : settings.Carries s) (hs : s.archType ≠ "") : settings.selectors = s.arguments := by
  simp [Dub.Settings.selectors, Dub.Settings.archArgument, h.configuration, h.buildType,
    h.compiler, h.archType, Selection.arguments, hs]

lemma Selection.buildArguments_checkSettings (s : Selection) {c : Compiler}
    (hc : c.binary = s.compiler) (hs : s.archType ≠ "") :
    (s.checkSettings c).buildArguments = s.checkArguments := by
  have hcarries : (s.checkSettings c).Carries s := ⟨rfl, rfl, rfl, hc⟩
  rw [Dub.Settings.buildArguments, hcarries.selectors hs]
  rfl

namespace Session

/-- What comes of building a selection: nothing is run if its compiler cannot be found, else dub is
run once. -/
def buildEffect (s : Session) (selection : Selection) : Effect :=
  match s.workspace.resolver.resolve s.host selection.compiler with
  | .error e => ⟨[], .error e⟩
  | .ok compiler =>
    let program := s.workspace.settings.dub
    let check := Dub.checkOf program (s.host.dub selection.checkArguments)
    ⟨[Dub.buildRun program s.workspace.directory selection.checkArguments
        (some (Dub.flagsWith (s.host.setting? "DFLAGS") compiler.family.noOutputFlag)) check.2],
      check.1.map .issues⟩

/-- What comes of listing the packages that take part in a selection: dub is run once. -/
def describeEffect (s : Session) (selection : Selection) : Effect :=
  let program := s.workspace.settings.dub
  ⟨[Dub.askRun program s.workspace.directory selection.describeArguments],
    (do
      let out ← Dub.answerOf program (s.host.dub selection.describeArguments)
      let description ← Dub.readObject out
      return .packages (← Dub.packagesOf description))⟩

/-- What comes of finding the paths of a project again: if its active configuration is one of its
own and its compiler can be found, dub is run once. -/
def updateEffect (s : Session) (index : Nat) : Effect :=
  match s.workspace.projects[index]? with
  | none => ⟨[], .error .notStarted⟩
  | some loaded =>
    match Project.refreshCourse s.workspace.resolver ⟨s.host, loaded.project⟩ with
    | .ends (result, _) => ⟨[], result.map .hasPaths⟩
    | .asks settings _ =>
      let program := s.workspace.settings.dub
      let arguments := Dub.listArguments settings pathFields
      let lists := (Dub.answerOf program (s.host.dub arguments)).bind
        (Dub.splitLists · pathFields.length)
      ⟨[Dub.askRun program s.workspace.directory arguments],
        .ok (.hasPaths (PathSet.ofAnswer lists).hasPaths)⟩

/-- A new session in the surroundings of another one: nothing has been done in it. -/
def renewed (s : Session) : Session where
  host := { s.host with log := [], runs := [] }
  workspace := .new s.workspace.directory s.workspace.settings s.workspace.resolver

lemma resolve_renewed (s : Session) (name : String) :
    s.workspace.resolver.resolve s.renewed.host name =
      s.workspace.resolver.resolve s.host name :=
  Resolver.resolve_logged _ _ _ _ _

/-- What has been done in a session plays no part in what comes of a build. -/
theorem buildEffect_renewed (s : Session) (selection : Selection) :
    s.renewed.buildEffect selection = s.buildEffect selection := by
  unfold buildEffect
  have hresolve := s.resolve_renewed selection.compiler
  rw [show s.renewed.workspace.resolver = s.workspace.resolver from rfl, hresolve]
  rfl

/-- What has been done in a session plays no part in what comes of a listing. -/
theorem describeEffect_renewed (s : Session) (selection : Selection) :
    s.renewed.describeEffect selection = s.describeEffect selection := rfl

/-- Asking for the paths again ends without a run of dub, or it puts a question. -/
lemma refreshCourse_cases (resolver : Resolver) (w : Workbench) :
    (∃ result v, Project.refreshCourse resolver w = .ends (result, v) ∧
        v.host.runs = w.host.runs) ∨
      ∃ settings, Project.refreshCourse resolver w = .asks settings w := by
  unfold Project.refreshCourse
  cases w.project.check w.host with
  | error e => exact Or.inl ⟨_, _, rfl, rfl⟩
  | ok u =>
    cases hc : resolver.resolve w.host w.project.selection.compiler with
    | error e =>
      obtain ⟨level, text, hcourse⟩ := Project.askCourse_of_resolve_error hc
      exact Or.inl ⟨_, _, hcourse, Host.noted_runs level text⟩
    | ok c =>
      obtain ⟨settings, -, hcourse⟩ := Project.askCourse_of_resolve_ok hc
      exact Or.inr ⟨settings, hcourse⟩

/-! ## Work has its effect -/

variable {s : Session}

lemma note_apply (level : Level) (text : String) :
    (note level text).apply s = (.ok (), { s with host := s.host.noted level text }) := rfl

/-- What is done when all lines of a build have been received. -/
def concludeCheck (found : List Issue) : Option Failure → Act Session (List Issue)
  | none => return found.reverse
  | some (.build e) => do
    if Dub.reportsCompiler e.message.toList then
      note .debug ("Ignoring harmless build failure: " ++ e.message)
      return found.reverse
    else throw (.build e)
  | some e => throw e

lemma concludeCheck_apply (found : List Issue) (ending : Option Failure) (s : Session) :
    ∃ log, (concludeCheck found ending).apply s =
      (Dub.concluded found.reverse ending, { s with host := { s.host with log := log } }) := by
  cases ending with
  | none => exact ⟨s.host.log, rfl⟩
  | some e =>
    cases e with
    | build e =>
      simp only [concludeCheck, Dub.concluded]
      split
      · refine ⟨(s.host.noted .debug ("Ignoring harmless build failure: " ++ e.message)).log, ?_⟩
        rw [← Host.noted_eq]
        rfl
      · exact ⟨s.host.log, rfl⟩
    | _ => exact ⟨s.host.log, rfl⟩

lemma runCheck_eq (selection : Selection) :
    runCheck selection = (do
      let s ← get
      let settings ← Act.ofExcept (selection.settings s.workspace.resolver s.host)
      let heard ← onHost (s.workspace.engine.generate
        { settings with syntaxOnly := true, temporary := true } Dub.receive [])
      concludeCheck heard.1 heard.2) := by
  refine congrArg (get >>= ·) (funext fun s => congrArg (_ >>= ·) (funext fun settings =>
    congrArg (_ >>= ·) (funext fun heard => ?_)))
  rcases heard with ⟨found, _ | e⟩
  · rfl
  · cases e <;> rfl

lemma runCheck_of_error {selection : Selection} {e : Failure}
    (hc : s.workspace.resolver.resolve s.host selection.compiler = .error e) :
    (runCheck selection).apply s = (.error e, s) := by
  rw [runCheck_eq]
  simp only [Act.apply_bind, Act.apply_get, Act.apply_ofExcept, Selection.settings_eq, hc]
  rfl

/-- With a compiler, what comes of a check is what is concluded from the lines that a build hands
over. -/
lemma runCheck_of_generate {selection : Selection} {c : Compiler} {h : Host}
    {outcome : Except Failure (List Issue × Option Failure)}
    (hc : s.workspace.resolver.resolve s.host selection.compiler = .ok c)
    (hgenerate : (s.workspace.engine.generate (selection.checkSettings c) Dub.receive []).apply
      s.host = (outcome, h)) :
    (runCheck selection).apply s =
      (Act.ofExcept outcome >>= fun heard => concludeCheck heard.1 heard.2).apply
        { s with host := h } := by
  simp only [Selection.checkSettings] at hgenerate
  rw [runCheck_eq]
  simp only [Act.apply_bind, Act.apply_get, Act.apply_ofExcept, Selection.settings_eq, hc,
    Except.map, onHost, Act.apply_onPart, hgenerate]

/-- A build that only looks for issues is one run of dub, and nothing but the host changes. -/
lemma runCheck_of_compiler {program : String} {directory : Location}
    (hengine : s.workspace.engine = .dub program directory) {selection : Selection} {c : Compiler}
    (hc : s.workspace.resolver.resolve s.host selection.compiler = .ok c)
    (hreply : s.host.dub (selection.checkSettings c).buildArguments ≠ .interrupted) :
    let settings := selection.checkSettings c
    let check := Dub.checkOf program (s.host.dub settings.buildArguments)
    ∃ log, (runCheck selection).apply s = (check.1, { s with
      host := s.host.ran log (Dub.buildRun program directory settings.buildArguments
        (some (Dub.flagsWith (s.host.setting? "DFLAGS") c.family.noOutputFlag)) check.2) }) := by
  obtain ⟨found, ending, log, hgenerate, hconcluded⟩ :=
    Dub.generate_apply program directory (selection.checkSettings c) hreply
  rw [Dub.flagsVariable_eq rfl rfl] at hgenerate
  obtain ⟨log', hend⟩ := concludeCheck_apply found ending { s with host := s.host.ran log _ }
  rw [hconcluded] at hend
  rw [← hengine] at hgenerate
  exact ⟨log', (runCheck_of_generate hc hgenerate).trans hend⟩

lemma runCheck_of_interrupted {program : String} {directory : Location}
    (hengine : s.workspace.engine = .dub program directory) {selection : Selection} {c : Compiler}
    (hc : s.workspace.resolver.resolve s.host selection.compiler = .ok c)
    (hreply : s.host.dub (selection.checkSettings c).buildArguments = .interrupted) :
    ∃ log flags, (runCheck selection).apply s = (.error .interrupted, { s with
      host := s.host.ran log (Dub.buildRun program directory
        (selection.checkSettings c).buildArguments flags false) }) := by
  obtain ⟨log, hgenerate⟩ :=
    Dub.generate_of_interrupted program directory (selection.checkSettings c) hreply
  rw [← hengine] at hgenerate
  exact ⟨log, Dub.flagsVariable s.host (selection.checkSettings c),
    runCheck_of_generate hc hgenerate⟩

lemma runCheck_sound (selection : Selection) : (runCheck selection).Sound frame := by
  intro s hs
  cases hc : s.workspace.resolver.resolve s.host selection.compiler with
  | error e =>
    have hne := s.workspace.resolver.resolve_ne_interrupted (h := s.host) selection.compiler
    rw [hc] at hne
    rw [runCheck_of_error hc]
    exact ⟨fun he => hne (congrArg _ (Except.error.inj he)), frame.refl s⟩
  | ok c =>
    obtain ⟨log, hrun⟩ := runCheck_of_compiler hs.engine hc (hs.quiet _)
    rw [hrun]
    exact ⟨Dub.checkOf_ne_interrupted _ (hs.quiet _), rfl, rfl, id⟩

lemma perform_sound (work : Work) : (perform work).Sound frame := by
  cases work with
  | build number selection =>
    exact (runCheck_sound selection).bind fun _ => .bind (note_sound _ _) fun _ => .pure _
  | update index =>
    refine .get_bind fun s hs => .bind (onProject_sound index ?_) fun _ => .pure _
    rw [hs.provider]
    exact Project.refresh_sound _ _ _
  | describe settings =>
    refine .get_bind fun s hs => .bind (onHost_sound ?_) fun _ =>
      .bind (.ofExcept (mapError_ne_interrupted (by rintro _ ⟨⟩))) fun _ => .pure _
    rw [hs.provider]
    exact Dub.describe_sound _ _ settings

/-- Some work has an effect on a session: it makes its runs and gives its outcome. -/
structure Realizes (s : Session) (work : Work) (effect : Effect) : Prop where
  outcome : ((perform work).apply s).1 = effect.outcome
  runs : ((perform work).apply s).2.host.runs = s.host.runs ++ effect.runs

/-- A build has the effect of building what was selected. -/
theorem realizes_build (hs : s.Regular) (number : Nat) {selection : Selection}
    (ha : selection.archType ≠ "") :
    s.Realizes (.build number selection) (s.buildEffect selection) := by
  rw [buildEffect]
  cases hc : s.workspace.resolver.resolve s.host selection.compiler with
  | error e =>
    have hperform : (perform (.build number selection)).apply s = (.error e, s) := by
      rw [perform, Act.apply_bind, runCheck_of_error hc]
    exact ⟨by rw [hperform], by rw [hperform, List.append_nil]⟩
  | ok c =>
    obtain ⟨log, hrun⟩ := runCheck_of_compiler hs.engine hc (hs.quiet _)
    rw [selection.buildArguments_checkSettings (Resolver.binary_of_resolve hc) ha] at hrun
    dsimp only at hrun ⊢
    generalize Dub.checkOf s.workspace.settings.dub (s.host.dub selection.checkArguments) = check
      at hrun ⊢
    obtain ⟨e | found, killed⟩ := check
    · constructor <;>
      · rw [perform, Act.apply_bind, hrun]
        rfl
    · constructor
      · rw [perform, Act.apply_bind, hrun]
        rfl
      · rw [perform, Act.apply_bind, hrun]
        exact Host.noted_runs _ _

/-- A listing has the effect of asking about what its settings carry. -/
theorem realizes_describe (hs : s.Regular) {settings : Dub.Settings} {selection : Selection}
    (hcarries : settings.Carries selection) (ha : selection.archType ≠ "") :
    s.Realizes (.describe settings) (s.describeEffect selection) := by
  have hselectors := hcarries.selectors ha
  constructor <;>
  · simp only [perform, Act.apply_bind, Act.apply_get, onHost, Act.apply_onPart, hs.provider,
      Dub.describe_apply, hselectors, describeEffect, Selection.describeArguments]
    cases Dub.answerOf s.workspace.settings.dub
      (s.host.dub ("describe" :: selection.arguments)) with
    | error e => rfl
    | ok out =>
      simp only [Except.bind, bind]
      cases Dub.readObject out with
      | error e => rfl
      | ok description =>
        simp only [Act.apply_ofExcept]
        cases Dub.packagesOf description <;> rfl

/-- Finding the paths again has the effect of asking about what is selected in the project now. -/
theorem realizes_update (hs : s.Regular) (index : Nat) :
    s.Realizes (.update index) (s.updateEffect index) := by
  rw [updateEffect]
  cases hloaded : s.workspace.projects[index]? with
  | none =>
    have hperform : (perform (.update index)).apply s = (.error .notStarted, s) := by
      simp only [perform, Act.apply_bind, Act.apply_get, onProject, Act.apply_ofFunction, hloaded]
    exact ⟨by rw [hperform], by rw [hperform, List.append_nil]⟩
  | some loaded =>
    have hperform : (perform (.update index)).apply s =
        ((((Project.refreshCourse s.workspace.resolver ⟨s.host, loaded.project⟩).follow
            s.workspace.provider).1.map .hasPaths),
          s.putProject index ((Project.refreshCourse s.workspace.resolver
            ⟨s.host, loaded.project⟩).follow s.workspace.provider).2) := by
      simp only [perform, Act.apply_bind, Act.apply_get, onProject, Act.apply_ofFunction, hloaded,
        Project.refresh_apply]
      cases ((Project.refreshCourse s.workspace.resolver ⟨s.host, loaded.project⟩).follow
        s.workspace.provider).1 <;> rfl
    rcases refreshCourse_cases s.workspace.resolver ⟨s.host, loaded.project⟩ with
      ⟨result, v, hcourse, hruns⟩ | ⟨settings, hcourse⟩
    · rw [hcourse] at hperform
      simp only [hcourse]
      exact ⟨by rw [hperform]; rfl, by rw [hperform, List.append_nil]; exact hruns⟩
    · have hlist := Dub.list_apply s.workspace.settings.dub s.workspace.directory (h := s.host)
        settings pathFields
      have hne := (Dub.list_sound s.workspace.settings.dub s.workspace.directory
        settings pathFields s.host hs.quiet).1
      rw [hlist] at hne
      obtain ⟨level, text, hconclude⟩ := Project.conclude_bind_ofLists hne
        ⟨{ s.host with runs := s.host.runs ++ [Dub.askRun s.workspace.settings.dub
          s.workspace.directory (Dub.listArguments settings pathFields)] }, loaded.project⟩
      rw [hcourse, Project.Course.follow, hs.provider, hlist] at hperform
      simp only [hconclude] at hperform
      simp only [hcourse]
      exact ⟨by rw [hperform]; rfl, by rw [hperform]; exact Host.noted_runs level text⟩

/-! ## Running jobs -/

/-- The session with other jobs, tickets and outcomes. -/
def withWork (s : Session) (queue : List Job) (tickets : Nat) (finished : List Delivery) :
    Session where
  host := s.host
  workspace := { s.workspace with queue := queue, tickets := tickets, finished := finished }

/-- The session with one more job in the queue. -/
def enqueued (s : Session) (job : Job) : Session :=
  s.withWork (s.workspace.queue ++ [job]) s.workspace.tickets s.workspace.finished

/-- The session with the job at a place taken from the queue. -/
def withoutJob (s : Session) (index : Nat) : Session :=
  s.withWork (s.workspace.queue.eraseIdx index) s.workspace.tickets s.workspace.finished

/-- The session with one more outcome delivered. -/
def delivered (s : Session) (d : Delivery) : Session :=
  s.withWork s.workspace.queue s.workspace.tickets (s.workspace.finished ++ [d])

/-- The session with one more ticket given out. -/
def withTicket (s : Session) : Session :=
  s.withWork s.workspace.queue (s.workspace.tickets + 1) s.workspace.finished

lemma Regular.withWork (hs : s.Regular) (queue : List Job) (tickets : Nat)
    (finished : List Delivery) : (s.withWork queue tickets finished).Regular :=
  ⟨hs.quiet, hs.provider, hs.engine, hs.archTypes⟩

lemma Regular.enqueued (hs : s.Regular) (job : Job) : (s.enqueued job).Regular :=
  hs.withWork _ _ _

lemma Regular.withoutJob (hs : s.Regular) (index : Nat) : (s.withoutJob index).Regular :=
  hs.withWork _ _ _

lemma Regular.delivered (hs : s.Regular) (d : Delivery) : (s.delivered d).Regular :=
  hs.withWork _ _ _

lemma Regular.withTicket (hs : s.Regular) : s.withTicket.Regular :=
  hs.withWork _ _ _

namespace Keeps

variable {t : Session}

lemma queue (h : s.Keeps t) : t.workspace.queue = s.workspace.queue := by
  rw [h.workspace]

lemma tickets (h : s.Keeps t) : t.workspace.tickets = s.workspace.tickets := by
  rw [h.workspace]

lemma finished (h : s.Keeps t) : t.workspace.finished = s.workspace.finished := by
  rw [h.workspace]

lemma deferred (h : s.Keeps t) : t.workspace.deferred = s.workspace.deferred := by
  rw [h.workspace]

lemma withWork (h : s.Keeps t) (queue : List Job) (tickets : Nat) (finished : List Delivery) :
    (s.withWork queue tickets finished).Keeps (t.withWork queue tickets finished) where
  dub := h.dub
  workspace := by
    rw [Session.withWork, h.workspace]
    rfl
  archTypes := h.archTypes

lemma enqueued (h : s.Keeps t) (job : Job) : (s.enqueued job).Keeps (t.enqueued job) := by
  rw [Session.enqueued, Session.enqueued, h.queue, h.tickets, h.finished]
  exact h.withWork _ _ _

lemma delivered (h : s.Keeps t) (d : Delivery) : (s.delivered d).Keeps (t.delivered d) := by
  rw [Session.delivered, Session.delivered, h.queue, h.tickets, h.finished]
  exact h.withWork _ _ _

end Keeps

/-- A job delivers the outcome of its work under its ticket. -/
lemma runJob_apply (hs : s.Regular) (job : Job) :
    ∃ t, (runJob job).apply s = (.ok (), t) ∧
      (s.delivered ⟨job.ticket, ((perform job.work).apply s).1⟩).Keeps t ∧
      t.host.runs = ((perform job.work).apply s).2.host.runs := by
  obtain ⟨hne, hkeeps⟩ := perform_sound job.work s hs
  simp only [runJob, Act.apply_bind, Act.apply_outcome_of_ne hne]
  rcases hperform : (perform job.work).apply s with ⟨e | outcome, u⟩
  · rw [hperform] at hkeeps
    obtain ⟨-, hnote⟩ := note_sound .error (job.work.complaint e.message) u (hs.keeps hkeeps)
    exact ⟨_, rfl, (hkeeps.trans hnote).delivered _, Host.noted_runs _ _⟩
  · rw [hperform] at hkeeps
    exact ⟨_, rfl, hkeeps.delivered _, rfl⟩

/-- Running a queued job takes it from the queue and delivers its outcome. -/
theorem runQueued_apply (hs : s.Regular) {index : Nat} {job : Job}
    (hjob : s.workspace.queue[index]? = some job) :
    let taken := s.withoutJob index
    ∃ t, (runQueued index).apply s = (.ok (some job.work.name), t) ∧
      (taken.delivered ⟨job.ticket, ((perform job.work).apply taken).1⟩).Keeps t ∧
      t.host.runs = ((perform job.work).apply taken).2.host.runs := by
  obtain ⟨t, hrun, hkeeps, hruns⟩ := runJob_apply (hs.withoutJob index) job
  refine ⟨t, ?_, hkeeps, hruns⟩
  have htaken : (runQueued index).apply s =
      (runJob job >>= fun _ => pure (some job.work.name)).apply (s.withoutJob index) := by
    simp only [runQueued, Act.apply_bind, Act.apply_get, hjob, change, Act.apply_modify]
    rfl
  rw [htaken, Act.apply_bind, hrun]
  rfl

lemma runQueued_of_none {index : Nat} (hjob : s.workspace.queue[index]? = none) :
    (runQueued index).apply s = (.ok none, s) := by
  simp only [runQueued, Act.apply_bind, Act.apply_get, hjob]
  rfl

/-! ## Asking for work -/

/-- The current project. -/
def loaded? (s : Session) : Option Loaded :=
  s.workspace.current.bind (s.workspace.projects[·]?)

/-- What is selected in the current project. -/
def selection? (s : Session) : Option Selection :=
  s.loaded?.map (·.project.selection)

/-- The place of the current project, if its recipe can be read again. -/
def reloaded (s : Session) : Except Failure Nat :=
  match Recipe.load s.host (Path.ofLocation s.workspace.directory), s.workspace.current with
  | .error e, _ => .error e
  | .ok _, none => .error .notStarted
  | .ok _, some index =>
    if s.workspace.projects[index]?.isSome then .ok index else .error .notStarted

/-- Some work has begun under a new ticket: it waits in the queue, or it has been done at once. -/
def Begins (s : Session) (work : Work) (t : Session) : Prop :=
  s.workspace.deferred = true ∧
      (s.withTicket.enqueued ⟨s.workspace.tickets + 1, work⟩).Keeps t ∨
    s.workspace.deferred = false ∧
      ∃ outcome, (s.withTicket.delivered ⟨s.workspace.tickets + 1, outcome⟩).Keeps t

/-- A project that is put where it was changes nothing. -/
lemma putProject_self {index : Nat} {loaded : Loaded}
    (h : s.workspace.projects[index]? = some loaded) :
    s.putProject index ⟨s.host, loaded.project⟩ = s := by
  have hprojects : s.workspace.projects.modify index
      (fun l => { l with project := loaded.project }) = s.workspace.projects := by
    refine List.ext_getElem? fun i => ?_
    rw [List.getElem?_modify]
    split
    · rename_i heq
      rw [← heq, h]
      rfl
    · simp
  rw [putProject, hprojects]

/-- What is asked about the current project changes nothing. -/
lemma onCurrent_apply {α : Type} {a : Act Workbench α} {f : Workbench → Except Failure α}
    (ha : ∀ w, a.apply w = (f w, w)) (s : Session) :
    (onCurrent a).apply s =
      (s.loaded?.elim (.error .notStarted) fun l => f ⟨s.host, l.project⟩, s) := by
  simp only [onCurrent, currentIndex, Act.apply_bind, Act.apply_get, loaded?]
  cases hc : s.workspace.current with
  | none => rfl
  | some index =>
    simp only [Act.apply_pure, onProject, Act.apply_ofFunction, Option.bind_some]
    cases hl : s.workspace.projects[index]? with
    | none => rfl
    | some loaded =>
      simp only [ha, putProject_self hl]
      rfl

lemma currentIndex_apply (s : Session) :
    currentIndex.apply s = (s.workspace.current.elim (.error .notStarted) .ok, s) := by
  simp only [currentIndex, Act.apply_bind, Act.apply_get]
  cases s.workspace.current <;> rfl

lemma validate_apply (s : Session) :
    validate.apply s = (s.loaded?.elim (.error .notStarted) fun l => l.project.check s.host, s) :=
  onCurrent_apply Project.validate_apply s

lemma project_apply (s : Session) :
    project.apply s = (s.loaded?.elim (.error .notStarted) fun l => .ok l.project, s) :=
  onCurrent_apply (fun _ => rfl) s

lemma newTicket_apply : newTicket.apply s = (.ok (s.workspace.tickets + 1), s.withTicket) := rfl

/-- Work that is launched under a new ticket has begun under it. -/
lemma launch_apply (hs : s.Regular) {u : Session} (hu : s.withTicket.Keeps u) (work : Work) :
    ∃ t, (launch (s.workspace.tickets + 1) work).apply u = (.ok (), t) ∧ s.Begins work t := by
  have hdeferred : u.workspace.deferred = s.workspace.deferred := hu.deferred
  simp only [launch, Act.apply_bind, Act.apply_get, hdeferred]
  cases hd : s.workspace.deferred with
  | true => exact ⟨_, rfl, Or.inl ⟨hd, hu.enqueued _⟩⟩
  | false =>
    have hregular : u.Regular := hs.withTicket.keeps hu
    obtain ⟨t, hrun, hkeeps, -⟩ := runJob_apply hregular ⟨s.workspace.tickets + 1, work⟩
    exact ⟨t, hrun, Or.inr ⟨hd, _, (hu.delivered _).trans hkeeps⟩⟩

/-- Something is done with the current project, or its configuration is not one of its own, and
nothing has changed. -/
lemma validated_cases {α : Type} (f : Project → Act Session α) (s : Session) :
    (∃ e, e ≠ .interrupted ∧ (validate >>= fun _ => project >>= f).apply s = (.error e, s)) ∨
      ∃ loaded, s.loaded? = some loaded ∧
        (validate >>= fun _ => project >>= f).apply s = (f loaded.project).apply s := by
  rw [Act.apply_bind, validate_apply]
  cases hl : s.loaded? with
  | none => exact Or.inl ⟨.notStarted, by rintro ⟨⟩, rfl⟩
  | some loaded =>
    simp only [Option.elim_some]
    cases hcheck : loaded.project.check s.host with
    | error e =>
      refine Or.inl ⟨e, ?_, rfl⟩
      rintro rfl
      exact loaded.project.check_ne_interrupted s.host hcheck
    | ok u =>
      refine Or.inr ⟨loaded, rfl, ?_⟩
      simp only [Act.apply_bind, project_apply, hl, Option.elim_some]

/-- The session with one more build of a project counted. -/
def counted (s : Session) (index : Nat) : Session where
  host := s.host
  workspace := { s.workspace with
    projects := s.workspace.projects.modify index fun l => { l with builds := l.builds + 1 } }

lemma keeps_counted (s : Session) (index : Nat) : s.Keeps (s.counted index) :=
  ⟨rfl, rfl, fun h => forall_mem_modify h fun l hl => h l (List.mem_of_getElem? hl)⟩

/-- What is done with a build once it is known what is built. -/
def beginBuild (index : Nat) (p : Project) : Act Session Nat := do
  let ticket ← newTicket
  modify (·.counted index)
  let number := ((← get).workspace.projects[index]?.map (·.builds)).getD 0
  note .info (buildNote number p.selection)
  launch ticket (.build number p.selection)
  return ticket

lemma beginBuild_apply (hs : s.Regular) (index : Nat) (p : Project) :
    ∃ number t, (beginBuild index p).apply s = (.ok (s.workspace.tickets + 1), t) ∧
      s.Begins (.build number p.selection) t := by
  let u := s.withTicket.counted index
  let number := (u.workspace.projects[index]?.map (·.builds)).getD 0
  have hu : s.withTicket.Keeps u := keeps_counted s.withTicket index
  have hregular : u.Regular := hs.withTicket.keeps hu
  obtain ⟨-, hnote⟩ := note_sound .info (buildNote number p.selection) u hregular
  obtain ⟨t, hlaunch, hbegins⟩ :=
    launch_apply hs (hu.trans hnote) (.build number p.selection)
  refine ⟨number, t, ?_, hbegins⟩
  rw [note_apply] at hlaunch
  simp only [beginBuild, Act.apply_bind, newTicket_apply, Act.apply_modify, Act.apply_get,
    note_apply]
  rw [hlaunch]
  rfl

/-- A build that is asked for keeps what is selected in the current project, or the request fails
and nothing has changed. -/
theorem build_apply (hs : s.Regular) :
    (∃ e, e ≠ .interrupted ∧ build.apply s = (.error e, s)) ∨
      ∃ number selection t, s.selection? = some selection ∧
        build.apply s = (.ok (s.workspace.tickets + 1), t) ∧
        s.Begins (.build number selection) t := by
  have hbuild : build = currentIndex >>= fun index =>
    validate >>= fun _ => project >>= beginBuild index := rfl
  rw [hbuild, Act.apply_bind, currentIndex_apply]
  cases hc : s.workspace.current with
  | none => exact Or.inl ⟨.notStarted, by rintro ⟨⟩, rfl⟩
  | some index =>
    rcases validated_cases (beginBuild index) s with he | ⟨loaded, hl, hbegin⟩
    · exact Or.inl he
    · obtain ⟨number, t, happly, hbegins⟩ := beginBuild_apply hs index loaded.project
      refine Or.inr ⟨number, loaded.project.selection, t, ?_, hbegin.trans happly, hbegins⟩
      rw [selection?, hl]
      rfl

/-- What is done with a listing once it is known what is listed. -/
def beginListing (p : Project) : Act Session Nat := do
  let s ← get
  let settings ← Act.ofExcept (p.selection.settings s.workspace.resolver s.host)
  let ticket ← newTicket
  launch ticket (.describe settings)
  return ticket

/-- A listing that is asked for keeps what is selected in the current project, or the request fails
and nothing has changed. -/
theorem dependencies_apply (hs : s.Regular) :
    (∃ e, e ≠ .interrupted ∧ dependencies.apply s = (.error e, s)) ∨
      ∃ settings selection t, s.selection? = some selection ∧ settings.Carries selection ∧
        dependencies.apply s = (.ok (s.workspace.tickets + 1), t) ∧
        s.Begins (.describe settings) t := by
  have hdependencies : dependencies = validate >>= fun _ => project >>= beginListing := rfl
  rw [hdependencies]
  rcases validated_cases beginListing s with he | ⟨loaded, hl, hbegin⟩
  · exact Or.inl he
  · rw [hbegin, beginListing, Act.apply_bind, Act.apply_get]
    simp only [Act.apply_bind, Act.apply_ofExcept, selection?, hl]
    cases hsettings : loaded.project.selection.settings s.workspace.resolver s.host with
    | error e =>
      refine Or.inl ⟨e, ?_, rfl⟩
      rintro rfl
      exact Selection.settings_ne_interrupted hsettings
    | ok settings =>
      obtain ⟨t, hlaunch, hbegins⟩ := launch_apply hs (frame.refl _) (.describe settings)
      refine Or.inr ⟨settings, _, t, rfl, Selection.carries_of_settings hsettings, ?_, hbegins⟩
      simp only [newTicket_apply, hlaunch]
      rfl

/-- Reading the recipe again succeeds if there is a current project to give it to. -/
lemma restart_apply (s : Session) :
    ∃ t, restart.apply s = (s.reloaded.map fun _ => (), t) ∧
      t.workspace.current = s.workspace.current ∧ t.host.runs = s.host.runs := by
  simp only [restart, loadRecipe, onCurrent, reloaded, Act.apply_bind, Act.apply_get,
    Act.apply_ofExcept, currentIndex_apply]
  cases Recipe.load s.host (Path.ofLocation s.workspace.directory) with
  | error e => exact ⟨s, rfl, rfl, rfl⟩
  | ok recipe =>
    dsimp only
    cases hc : s.workspace.current with
    | none => exact ⟨s, rfl, hc, rfl⟩
    | some index =>
      simp only [Option.elim_some, onProject, Act.apply_ofFunction]
      cases hl : s.workspace.projects[index]? with
      | none => exact ⟨s, rfl, hc, rfl⟩
      | some loaded => exact ⟨_, rfl, hc, Host.noted_runs _ _⟩

lemma current_of_reloaded {index : Nat} (h : s.reloaded = .ok index) :
    s.workspace.current = some index := by
  unfold reloaded at h
  split at h
  · cases h
  · cases h
  · rename_i hc
    split at h
    · cases h
      exact hc
    · cases h

/-- An update that is asked for reads the recipe again and begins with the current project.  If the
recipe cannot be read, the failure is delivered at once. -/
theorem update_apply (hs : s.Regular) :
    ∃ t, update.apply s = (.ok (s.workspace.tickets + 1), t) ∧
      match s.reloaded with
      | .error e =>
        (s.withTicket.delivered ⟨s.workspace.tickets + 1, .error e⟩).Keeps t ∧
          t.host.runs = s.host.runs
      | .ok index => s.Begins (.update index) t := by
  obtain ⟨hne, hkeeps⟩ := restart_sound s.withTicket hs.withTicket
  obtain ⟨u, hrestart, hcurrent, hruns⟩ := restart_apply s.withTicket
  have hreloaded : s.withTicket.reloaded = s.reloaded := rfl
  simp only [update, Act.apply_bind, newTicket_apply, Act.apply_outcome_of_ne hne]
  rw [hrestart] at hkeeps ⊢
  rw [hreloaded]
  cases hr : s.reloaded with
  | error e =>
    obtain ⟨-, hnote⟩ := note_sound .error ("Failed to reload project: " ++ e.message) u
      (hs.withTicket.keeps hkeeps)
    refine ⟨_, rfl, (hkeeps.trans hnote).delivered _, ?_⟩
    exact (Host.noted_runs _ _).trans hruns
  | ok index =>
    have hindex : u.workspace.current = some index :=
      hcurrent.trans (current_of_reloaded hr)
    obtain ⟨t, hlaunch, hbegins⟩ := launch_apply hs hkeeps (.update index)
    refine ⟨t, ?_, hbegins⟩
    simp only [Except.map, Act.apply_bind, currentIndex_apply, hindex, Option.elim_some, hlaunch]
    rfl

end Session

end DubCheck
