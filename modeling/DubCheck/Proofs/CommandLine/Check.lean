import DubCheck.CommandLine.Commands
import DubCheck.Proofs.Workspace.Check
import DubCheck.Proofs.Workspace.Startup
/-!
# How the command `check` ends

The command opens a project, selects what is asked for, checks the project and prints the issues.
It ends well if all of this goes well and no issue is an error, with one exception: if dub cannot be
started, and the message that says so happens to read like the report of a failed compiler, the
project has not been built and passes all the same.

* `Dub.checkOf_eq_ok_iff`, `Session.check_eq_ok_iff`: when a check gives issues, and which.
* `CommandLine.check_of_found`: what is printed then, and the exit code.
* `CommandLine.check_fine_iff`: when the command ends well.
* `CommandLine.checksLawfully_iff`: when it does what is to be expected of it.
-/

namespace DubCheck

/-! ## When a check gives issues -/

namespace Dub

variable {program : String} {reply : Reply} {output : List UInt8} {status : Int}
  {found : List Issue}

/-- A build has ended with some status, and may be taken for one that has done its work: dub has
succeeded or reports a failure of the compiler.  These are the issues in its lines, in the order in
which they were printed. -/
structure Finds (output : List UInt8) (status : Int) (found : List Issue) : Prop where
  harmless : status = 0 ∨ ∃ line ∈ printedLines output, Reporting line
  issues : ∃ lists, List.Forall₂ (fun line issues => Issue.ofLine line = .ok issues)
    (printedLines output) lists ∧ found = lists.flatten

/-- dub cannot be started. -/
inductive Unstarted (program : String) : Reply → BuildError → Prop where
  | noProgram : Unstarted program .noProgram (.noProgram program)
  | denied : Unstarted program .denied (.denied program)

lemma exists_forall₂_ofLine {lines : List (List Char)} (h : ∀ line ∈ lines, Issue.Legible line) :
    ∃ lists, List.Forall₂ (fun line issues => Issue.ofLine line = .ok issues) lines lists := by
  induction lines with
  | nil => exact ⟨[], .nil⟩
  | cons line lines ih =>
    rw [List.forall_mem_cons] at h
    obtain ⟨issues, hissues⟩ := Issue.exists_ofLine_eq_ok_iff.mpr h.1
    obtain ⟨lists, hlists⟩ := ih h.2
    exact ⟨issues :: lists, .cons hissues hlists⟩

/-- The issues in the lines are found if the build may be taken for one that has done its work. -/
lemma checked_eq_ok_iff : (checked output status).1 = .ok found ↔ Finds output status found := by
  have hverdict : ∀ lists, List.Forall₂ (fun line issues => Issue.ofLine line = .ok issues)
      (printedLines output) lists →
        Verdict (printedLines output) lists.flatten status (checked output status).1 := by
    intro lists hlists
    rw [checked_of_forall₂ hlists]
    exact verdict_concluded lists.flatten output status
  constructor
  · intro h
    have hlegible : ∀ line ∈ printedLines output, Issue.Legible line := by
      rw [← fault_printedLines_eq_none_iff]
      rw [checked] at h
      split at h
      · rename_i heq
        rw [heq]
      · cases h
    obtain ⟨lists, hlists⟩ := exists_forall₂_ofLine hlegible
    have hpassed := hverdict lists hlists
    rw [h] at hpassed
    cases hpassed with
    | passed harmless => exact ⟨harmless, lists, hlists, rfl⟩
  · rintro ⟨harmless, lists, hlists, rfl⟩
    have hpassed := hverdict lists hlists
    generalize (checked output status).1 = result at hpassed
    cases hpassed with
    | passed => rfl
    | failed failure silent =>
      obtain ⟨line, hline, hreporting⟩ := harmless.resolve_left failure
      exact absurd hreporting (silent line hline)
    | exited failure blank =>
      exact absurd (harmless.resolve_left failure) (not_exists_reporting_of_blank blank)

/-- Without a build there are no issues, and the message decides whether that is a failure. -/
lemma checkOf_eq_ok_iff_of_error {e : BuildError} (h : startOf program reply = .error (.build e)) :
    (checkOf program reply).1 = .ok found ↔ found = [] ∧ Reporting e.message.toList := by
  rw [checkOf, h, ← reportsCompiler_iff]
  dsimp only
  rw [concluded]
  split
  · rename_i hreports
    simp [hreports, eq_comm]
  · rename_i hreports
    simp [hreports]

/-- A check gives the issues that dub has printed.  If dub cannot be started, it gives none, but
only if the message that says so reads like the report of a failed compiler. -/
theorem checkOf_eq_ok_iff : (checkOf program reply).1 = .ok found ↔
    (∃ stdout stderr status, reply = .finished stdout stderr status ∧
      Finds (stdout ++ stderr) status found) ∨
    found = [] ∧ ∃ e, Unstarted program reply e ∧ Reporting e.message.toList := by
  cases reply with
  | noProgram =>
    rw [checkOf_eq_ok_iff_of_error rfl]
    constructor
    · exact fun h => Or.inr ⟨h.1, _, .noProgram, h.2⟩
    · rintro (⟨_, _, _, ⟨⟩, -⟩ | ⟨hnone, _, ⟨⟩, h⟩)
      exact ⟨hnone, h⟩
  | denied =>
    rw [checkOf_eq_ok_iff_of_error rfl]
    constructor
    · exact fun h => Or.inr ⟨h.1, _, .denied, h.2⟩
    · rintro (⟨_, _, _, ⟨⟩, -⟩ | ⟨hnone, _, ⟨⟩, h⟩)
      exact ⟨hnone, h⟩
  | timedOut =>
    rw [checkOf_eq_ok_iff_of_error rfl]
    refine iff_of_false (fun h => not_reporting_exited 124 h.2) ?_
    rintro (⟨_, _, _, ⟨⟩, -⟩ | ⟨-, _, ⟨⟩, -⟩)
  | interrupted =>
    refine iff_of_false (by rintro ⟨⟩) ?_
    rintro (⟨_, _, _, ⟨⟩, -⟩ | ⟨-, _, ⟨⟩, -⟩)
  | finished stdout stderr status =>
    rw [checkOf_finished, checked_eq_ok_iff]
    constructor
    · exact fun h => Or.inl ⟨stdout, stderr, status, rfl, h⟩
    · rintro (⟨_, _, _, ⟨⟩, h⟩ | ⟨-, _, ⟨⟩, -⟩)
      exact h

end Dub

namespace Session

variable {s : Session} {selection : Selection} {c : Compiler} {found : List Issue}
  {program : String} {directory : Location}

/-- In the current project the active configuration is declared, and the compiler is found. -/
structure Ready (s : Session) (selection : Selection) (c : Compiler) : Prop where
  declares : ∃ l, s.loaded? = some l ∧ l.project.selection = selection ∧
    l.project.recipe.Declares s.host selection.configuration
  compiler : s.workspace.resolver.resolve s.host selection.compiler = .ok c

lemma Ready.unique {selection' : Selection} {c' : Compiler} (h : s.Ready selection c)
    (h' : s.Ready selection' c') : selection = selection' ∧ c = c' := by
  obtain ⟨⟨l, hl, rfl, -⟩, hc⟩ := h
  obtain ⟨⟨l', hl', rfl, -⟩, hc'⟩ := h'
  rw [hl] at hl'
  cases hl'
  rw [hc] at hc'
  cases hc'
  exact ⟨rfl, rfl⟩

/-- What dub says when the selection is built. -/
def reply (s : Session) (selection : Selection) (c : Compiler) : Dub.Reply :=
  s.host.dub (selection.checkSettings c).buildArguments

lemma check_eq : check = validate >>= fun _ => project >>= fun p => runCheck p.selection :=
  rfl

/-- A configuration that passes is declared. -/
lemma declares_of_check {p : Project} {h : Host} (hp : p.check h = .ok ()) :
    p.recipe.Declares h p.selection.configuration := by
  by_contra hd
  cases hn : p.recipe.configurationNames h with
  | error e =>
    rw [Project.check_of_error hn] at hp
    cases hp
  | ok names =>
    rw [Project.check_of_not_declares hn hd] at hp
    split at hp <;> cases hp

variable {l : Loaded}

lemma check_apply_of_error (hl : s.loaded? = some l) {e : Failure}
    (h : l.project.check s.host = .error e) : check.apply s = (.error e, s) := by
  rw [check_eq, Act.apply_bind, validate_apply, hl, Option.elim_some, h]

lemma check_apply_of_ok (hl : s.loaded? = some l) (h : l.project.check s.host = .ok ()) :
    check.apply s = (runCheck l.project.selection).apply s := by
  rw [check_eq, Act.apply_bind, validate_apply, hl, Option.elim_some, h]
  simp only [Act.apply_bind, project_apply, hl, Option.elim_some]

/-- What a check gives with a compiler is what comes of the reply, also if it is interrupted. -/
lemma runCheck_fst (hengine : s.workspace.engine = .dub program directory)
    (hc : s.workspace.resolver.resolve s.host selection.compiler = .ok c) :
    ((runCheck selection).apply s).1 = (Dub.checkOf program (s.reply selection c)).1 := by
  by_cases hreply : s.reply selection c = .interrupted
  · obtain ⟨log, flags, hrun⟩ := runCheck_of_interrupted hengine hc hreply
    rw [hrun, hreply]
    rfl
  · obtain ⟨log, hrun⟩ := runCheck_of_compiler hengine hc hreply
    rw [hrun]
    rfl

/-- A check that gives issues is one that is ready, and the issues are what comes of the reply. -/
theorem check_eq_ok_iff (hengine : s.workspace.engine = .dub program directory) :
    (check.apply s).1 = .ok found ↔ ∃ selection c, s.Ready selection c ∧
      (Dub.checkOf program (s.reply selection c)).1 = .ok found := by
  constructor
  · intro h
    cases hl : s.loaded? with
    | none =>
      rw [check_eq, Act.apply_bind, validate_apply, hl] at h
      cases h
    | some l =>
      cases hcheck : l.project.check s.host with
      | error e =>
        rw [check_apply_of_error hl hcheck] at h
        cases h
      | ok u =>
        rw [check_apply_of_ok hl hcheck] at h
        cases hc : s.workspace.resolver.resolve s.host l.project.selection.compiler with
        | error e =>
          rw [runCheck_of_error hc] at h
          cases h
        | ok c =>
          rw [runCheck_fst hengine hc] at h
          exact ⟨_, c, ⟨⟨l, hl, rfl, declares_of_check hcheck⟩, hc⟩, h⟩
  · rintro ⟨selection, c, ⟨⟨l, hl, rfl, hd⟩, hc⟩, h⟩
    rw [check_apply_of_ok hl (Project.check_of_declares hd), runCheck_fst hengine hc]
    exact h

/-! ### What is asked for does not change who builds -/

variable {engine : Dub.Engine}

lemma onProject_preserves_engine {α : Type} (index : Nat) (a : Act Workbench α) :
    (onProject index a).Preserves (·.workspace.engine = engine) := by
  intro s hs
  simp only [onProject, Act.apply_ofFunction]
  cases s.workspace.projects[index]? <;> exact hs

lemma onCurrent_preserves_engine {α : Type} (a : Act Workbench α) :
    (onCurrent a).Preserves (·.workspace.engine = engine) :=
  currentIndex_preserves.bind fun index => onProject_preserves_engine index a

lemma select_preserves_engine (pick : Pick) :
    (select pick).Preserves (·.workspace.engine = engine) :=
  .bind .get fun _ => onCurrent_preserves_engine _

lemma require_preserves_engine (what : String) (wish : Wish) (available : List Document) :
    (require what wish available).Preserves (·.workspace.engine = engine) := by
  unfold require
  split
  · exact .pure _
  · exact .bind (.ofExcept _) fun _ => .throw _

lemma selectNamed_preserves_engine (pick : String → Pick) (wish : Wish) :
    (selectNamed pick wish).Preserves (·.workspace.engine = engine) := by
  cases wish with
  | named name => exact (select_preserves_engine _).bind fun _ => .pure _
  | nameless => exact .pure _

lemma wishCompiler_preserves_engine (wish : Wish) :
    (wishCompiler wish).Preserves (·.workspace.engine = engine) := by
  cases wish with
  | named name =>
    refine (select_preserves_engine _).bind fun taken => ?_
    cases taken with
    | true => exact .pure _
    | false =>
      refine (onCurrent_preserves_engine _).bind fun p => ?_
      split
      · exact .throw _
      · exact .pure _
  | nameless => exact (onCurrent_preserves_engine _).bind fun _ => .throw _

lemma applyWishes_preserves_engine (wishes : Wishes) :
    (applyWishes wishes).Preserves (·.workspace.engine = engine) := by
  have hforM : ∀ {f : Wish → Act Session Unit} (wish : Option Wish),
      (∀ w, (f w).Preserves (·.workspace.engine = engine)) →
        (wish.forM f).Preserves (·.workspace.engine = engine) := by
    intro f wish hf
    cases wish with
    | none => exact .pure _
    | some w => exact hf w
  have hproject : project.Preserves (·.workspace.engine = engine) := onCurrent_preserves_engine _
  refine (hforM _ fun w => ?_).bind fun _ => (hforM _ wishCompiler_preserves_engine).bind fun _ =>
    (hforM _ fun w => ?_).bind fun _ => hforM _ fun w => ?_
  · exact (hproject.bind fun _ => .bind .get fun _ => .ofExcept _).bind fun _ =>
      (require_preserves_engine _ _ _).bind fun _ => (select_preserves_engine _).bind fun _ =>
        .pure _
  · exact (hproject.bind fun _ => .pure _).bind fun _ =>
      (require_preserves_engine _ _ _).bind fun _ => selectNamed_preserves_engine _ _
  · exact (hproject.bind fun _ => .bind .get fun _ => .pure _).bind fun _ =>
      (require_preserves_engine _ _ _).bind fun _ => selectNamed_preserves_engine _ _

end Session

namespace CommandLine

open Terminal

variable {directory : Path} {wishes : Wishes} {verbose : Bool} {t : Terminal} {s : Session}
  {found : List Issue}

/-! ## Opening a project -/

/-- The terminal with another session. -/
def Terminal.holding (t : Terminal) (s : Session) : Terminal :=
  { t with host := s.host, workspace := some s.workspace }

lemma onSession_holding {α : Type} (a : Act Session α) (t : Terminal) (s : Session) :
    (onSession a).apply (t.holding s) = ((a.apply s).1, t.holding (a.apply s).2) := rfl

/-- A session that has just been made for a directory. -/
def newSession (h : Host) (directory : Path) (settings : ToolSettings) : Session :=
  ⟨h, .new (directory.resolve h.directory) settings {}⟩

/-- The recipe in a directory is loaded, the project is started up, and everything that is asked for
is selected in it. -/
def Opens (directory : Path) (wishes : Wishes) (h : Host) (settings : ToolSettings) (s : Session) :
    Prop :=
  ToolSettings.ofHost h = .ok settings ∧
    (∃ recipe, Recipe.load h (Path.ofLocation (directory.resolve h.directory)) = .ok recipe) ∧
    ∃ hasPaths started,
      Session.startup.apply (newSession h directory settings) = (.ok hasPaths, started) ∧
        (Session.applyWishes wishes).apply started = (.ok (), s)

lemma exists_load_of_startup {hasPaths : Bool} {started : Session}
    (h : Session.startup.apply s = (.ok hasPaths, started)) :
    ∃ recipe, Recipe.load s.host (Path.ofLocation s.workspace.directory) = .ok recipe := by
  cases hstarting : s.starting with
  | error e =>
    obtain ⟨log, hstartup⟩ := Session.startup_of_error hstarting
    rw [hstartup] at h
    cases h
  | ok p =>
    obtain ⟨recipe, platform, found, hload, -⟩ := Session.starting_eq_ok hstarting
    exact ⟨recipe, hload⟩

/-- With settings the project is started up in a new session. -/
lemma openProject_apply {settings : ToolSettings} (h : ToolSettings.ofHost t.host = .ok settings) :
    (openProject directory).apply t =
      ((Session.startup.apply (newSession t.host directory settings)).1.map fun _ => (),
        t.holding (Session.startup.apply (newSession t.host directory settings)).2) := by
  have hopen : (openProject directory).apply t = (onSession Session.startup >>= fun _ =>
      pure ()).apply (t.holding (newSession t.host directory settings)) := by
    simp only [openProject, Act.apply_bind, Act.apply_get, Act.apply_ofExcept, h, Act.apply_modify]
    rfl
  rw [hopen, Act.apply_bind, onSession_holding]
  rcases Session.startup.apply (newSession t.host directory settings) with ⟨e | hasPaths, s⟩ <;> rfl

/-- A project is opened, or the command fails. -/
lemma openSelected_cases (directory : Path) (wishes : Wishes) (t : Terminal) :
    (∃ settings s, Opens directory wishes t.host settings s ∧
        (openSelected directory wishes).apply t = (.ok (), t.holding s)) ∨
      (∀ settings s, ¬ Opens directory wishes t.host settings s) ∧
        ∃ e u, (openSelected directory wishes).apply t = (.error e, u) := by
  rw [openSelected, Act.apply_bind]
  cases hsettings : ToolSettings.ofHost t.host with
  | error e =>
    refine Or.inr ⟨?_, e, t, ?_⟩
    · rintro settings s ⟨h, -⟩
      rw [hsettings] at h
      cases h
    · simp only [openProject, Act.apply_bind, Act.apply_get, Act.apply_ofExcept, hsettings]
  | ok settings =>
    rw [openProject_apply hsettings]
    rcases hstartup : Session.startup.apply (newSession t.host directory settings) with
      ⟨e | hasPaths, started⟩
    · refine Or.inr ⟨?_, e, _, rfl⟩
      rintro settings' s ⟨h, -, hasPaths, started', hstarted, -⟩
      rw [hsettings] at h
      cases h
      rw [hstartup] at hstarted
      cases hstarted
    · change (∃ settings s, _ ∧ (onSession _).apply (t.holding started) = _) ∨
        _ ∧ ∃ e u, (onSession _).apply (t.holding started) = _
      rw [onSession_holding]
      rcases hwishes : (Session.applyWishes wishes).apply started with ⟨e | u, s⟩
      · refine Or.inr ⟨?_, e, _, rfl⟩
        rintro settings' s ⟨h, -, hasPaths', started', hstarted, happlied⟩
        rw [hsettings] at h
        cases h
        rw [hstartup] at hstarted
        cases hstarted
        rw [hwishes] at happlied
        cases happlied
      · obtain ⟨recipe, hload⟩ := exists_load_of_startup hstartup
        unfold newSession at hload
        exact Or.inl ⟨settings, s, ⟨hsettings, ⟨recipe, hload⟩, hasPaths, started, hstartup,
          hwishes⟩, rfl⟩

/-- dub builds the projects that are opened. -/
lemma Opens.engine {settings : ToolSettings} (h : Opens directory wishes t.host settings s) :
    s.workspace.engine = .dub settings.dub (directory.resolve t.host.directory) := by
  obtain ⟨-, -, hasPaths, started, hstartup, hwishes⟩ := h
  have hnew : (newSession t.host directory settings).workspace.engine =
      .dub settings.dub (directory.resolve t.host.directory) := rfl
  have hstays := Session.startup_stays (s := newSession t.host directory settings) rfl
  rw [hstartup] at hstays
  have hstarted := hstays.engine.trans hnew
  have hkept := Session.applyWishes_preserves_engine wishes started hstarted
  rw [hwishes] at hkept
  exact hkept

/-- There is one way only in which a project is opened. -/
lemma Opens.unique {h : Host} {settings settings' : ToolSettings} {s' : Session}
    (hs : Opens directory wishes h settings s) (hs' : Opens directory wishes h settings' s') :
    settings = settings' ∧ s = s' := by
  obtain ⟨hsettings, -, hasPaths, started, hstartup, hwishes⟩ := hs
  obtain ⟨hsettings', -, hasPaths', started', hstartup', hwishes'⟩ := hs'
  rw [hsettings] at hsettings'
  cases hsettings'
  rw [hstartup] at hstartup'
  cases hstartup'
  rw [hwishes] at hwishes'
  cases hwishes'
  exact ⟨rfl, rfl⟩

lemma Opens.openSelected {settings : ToolSettings} (h : Opens directory wishes t.host settings s) :
    (openSelected directory wishes).apply t = (.ok (), t.holding s) := by
  rcases openSelected_cases directory wishes t with ⟨settings', s', h', happly⟩ | ⟨hnone, -⟩
  · obtain ⟨-, rfl⟩ := h.unique h'
    exact happly
  · exact absurd h (hnone settings s)

/-! ## What is printed -/

/-- The terminal when more has been printed. -/
def Terminal.printed (t : Terminal) (text : String) : Terminal :=
  { t with output := t.output ++ text }

lemma write_apply (text : String) (t : Terminal) :
    (write text).apply t = (.ok (), t.printed text) := rfl

lemma print_apply (line : String) (t : Terminal) :
    (print line).apply t = (.ok (), t.printed (line ++ "\n")) := rfl

lemma printError_apply (title detail : String) (t : Terminal) :
    (printError title detail).apply t = (.ok (), t.printed ("\n" ++
      painted (Report.colour .error) ("✗ " ++ title) ++ "\n\n" ++ detail ++ "\n\n")) := rfl

lemma printSuccess_apply (text : String) (t : Terminal) :
    (printSuccess text).apply t =
      (.ok (), t.printed ("\n" ++ painted green ("✓ " ++ text) ++ "\n")) := rfl

lemma printed_printed (t : Terminal) (text more : String) :
    (t.printed text).printed more = t.printed (text ++ more) := by
  simp [Terminal.printed, String.append_assoc]

lemma printed_empty (t : Terminal) : t.printed "" = t := by
  simp [Terminal.printed]

lemma printed_holding (t : Terminal) (s : Session) (text : String) :
    (t.holding s).printed text = (t.printed text).holding s := rfl

/-- The number of issues of a severity. -/
def numberOf (severity : Severity) (found : List Issue) : Nat :=
  found.countP (·.severity == severity)

/-- The numbers of issues of all severities. -/
def countsText (found : List Issue) : String :=
  let count (severity : Severity) : Nat := numberOf severity found
  s!"{count .error} error(s), {count .warning} warning(s), {count .deprecation} deprecation(s)"

/-- The issues, each on a line of its own. -/
def issuesText (coloured : Bool) (found : List Issue) : String :=
  String.join (found.map fun i => Report.line coloured i.severity i.format)

/-- What is printed after the issues. -/
def closingText (verbose : Bool) (found : List Issue) : String :=
  if ∃ i ∈ found, i.severity = .error then
    "\n" ++ painted (Report.colour .error) "✗ Check failed!" ++ "\n\n" ++ countsText found ++ "\n\n"
  else
    "\n" ++ painted green ("✓ Check passed: " ++ countsText found) ++ "\n" ++
      (if verbose then "Check time: 0.00s\n" else "")

lemma summary_eq (found : List Issue) :
    Report.summary (found.map (·.severity)) = countsText found := by
  have hcount : ∀ severity, (found.map (·.severity)).count severity = numberOf severity found := by
    intro severity
    rw [List.count_eq_countP, List.countP_map]
    rfl
  simp only [Report.summary, countsText, hcount]

/-- How a check ends that has found some issues. -/
lemma verdict_eq (found : List Issue) :
    verdict found = if ∃ i ∈ found, i.severity = .error then .bad else .fine := by
  simp [verdict]

lemma ofIssues_eq (coloured : Bool) (found : List Issue) :
    Report.ofIssues coloured found = issuesText coloured found := by
  rw [Report.ofIssues, Report.lines, List.map_map, issuesText]
  rfl

/-- The issues are printed, and then what they come to. -/
lemma printFindings_apply (verbose : Bool) (found : List Issue) (t : Terminal) :
    (printFindings verbose found).apply t = (.ok (verdict found),
      t.printed (issuesText t.coloured found ++ closingText verbose found)) := by
  simp only [printFindings, Act.apply_bind, Act.apply_get, write_apply, ofIssues_eq, summary_eq]
  by_cases herror : ∃ i ∈ found, i.severity = .error
  · have hclosing : closingText verbose found = "\n" ++ painted (Report.colour .error)
        ("✗ " ++ "Check failed!") ++ "\n\n" ++ countsText found ++ "\n\n" := if_pos herror
    rw [verdict_eq, if_pos herror, hclosing]
    simp only [Act.apply_bind, printError_apply, Act.apply_pure, printed_printed]
  · have hclosing : closingText verbose found = "\n" ++ painted green
        ("✓ " ++ ("Check passed: " ++ countsText found)) ++ "\n" ++
          (if verbose then "Check time: 0.00s\n" else "") := by
      have hpassed : "✓ " ++ ("Check passed: " ++ countsText found) =
          "✓ Check passed: " ++ countsText found := by
        rw [← String.append_assoc]
        rfl
      rw [closingText, if_neg herror, hpassed]
    rw [verdict_eq, if_neg herror, hclosing]
    simp only [Act.apply_bind, printSuccess_apply, printed_printed]
    cases verbose with
    | true =>
      simp only [if_true, Act.apply_bind, print_apply, Act.apply_pure, printed_printed,
        String.append_assoc]
      rfl
    | false =>
      simp only [Bool.false_eq_true, if_false, Act.apply_pure, String.append_empty]

/-- What is selected is printed, if a project is loaded. -/
lemma printSelection_of_loaded {l : Loaded} (hl : s.loaded? = some l) (t : Terminal) :
    ∃ heading, printSelection.apply (t.holding s) = (.ok (), (t.printed heading).holding s) := by
  have hproject : (onSession Session.project).apply (t.holding s) =
      (.ok l.project, t.holding s) := by
    rw [onSession_holding, Session.project_apply, hl]
    rfl
  simp only [printSelection, Act.apply_bind, hproject, onSession_holding, Act.apply_get,
    Act.apply_pure, print_apply, printed_printed, printed_holding]
  exact ⟨_, rfl⟩

/-! ## How the command ends -/

lemma check_eq (directory : Path) (wishes : Wishes) (verbose : Bool) :
    check directory wishes verbose = reporting "Cannot check project" isRefusal verbose
      (openSelected directory wishes >>= fun _ =>
        (if verbose then printSelection else pure ()) >>= fun _ =>
          onSession Session.check >>= printFindings verbose) := by
  cases verbose <;> rfl

/-- A command that fails does not end well. -/
lemma reporting_of_error {title : String} {expected : Failure → Bool} {command : Act Terminal Exit}
    {e : Failure} {u : Terminal} (h : command.apply t = (.error e, u)) :
    ∃ exit v, (reporting title expected verbose command).apply t = (.ok exit, v) ∧
      exit ≠ .fine := by
  have hreports : (reporting title expected verbose command).apply t =
      (reportFailure title expected verbose e).apply u := by
    rw [reporting, Act.apply_ofFunction, h]
  rw [hreports]
  unfold reportFailure
  split
  · exact ⟨.interrupted, _, rfl, by decide⟩
  · split
    · exact ⟨.unusable, _, rfl, by decide⟩
    · cases verbose <;> exact ⟨.bad, _, rfl, by decide⟩

/-- **What is printed.**  Whenever a check gives issues, they are printed one after the other, and
then their numbers; whether there is an error decides on how the command ends. -/
theorem check_of_found {settings : ToolSettings} (verbose : Bool)
    (hopens : Opens directory wishes t.host settings s)
    (hfound : (Session.check.apply s).1 = .ok found) :
    ∃ heading u, (check directory wishes verbose).apply t = (.ok (verdict found), u) ∧
      (verbose = false → heading = "") ∧
      u.output =
        t.output ++ heading ++ issuesText t.coloured found ++ closingText verbose found := by
  obtain ⟨selection, c, ⟨⟨l, hl, -, -⟩, -⟩, -⟩ :=
    (Session.check_eq_ok_iff hopens.engine).mp hfound
  have hheading : ∃ heading, (verbose = false → heading = "") ∧
      (if verbose then printSelection else pure () : Act Terminal Unit).apply (t.holding s) =
        (.ok (), (t.printed heading).holding s) := by
    cases verbose with
    | true =>
      obtain ⟨heading, hprinted⟩ := printSelection_of_loaded hl t
      exact ⟨heading, by rintro ⟨⟩, hprinted⟩
    | false => exact ⟨"", fun _ => rfl, by rw [printed_empty]; rfl⟩
  obtain ⟨heading, hquiet, hprinted⟩ := hheading
  let checked := (t.printed heading).holding (Session.check.apply s).2
  have hcheck : (check directory wishes verbose).apply t = (.ok (verdict found),
      checked.printed (issuesText t.coloured found ++ closingText verbose found)) := by
    rw [check_eq, reporting, Act.apply_ofFunction]
    simp only [Act.apply_bind, hopens.openSelected, hprinted, onSession_holding, hfound,
      printFindings_apply]
    rfl
  refine ⟨heading, _, hcheck, hquiet, ?_⟩
  change t.output ++ heading ++ (issuesText t.coloured found ++ closingText verbose found) = _
  rw [← String.append_assoc]

/-- The command fails if the check of the project that it has opened fails. -/
lemma command_of_error {settings : ToolSettings} {s' : Session} {e : Failure} (verbose : Bool)
    (hopens : Opens directory wishes t.host settings s)
    (hcheck : Session.check.apply s = (.error e, s')) :
    ∃ e u, (openSelected directory wishes >>= fun _ =>
      (if verbose then printSelection else pure ()) >>= fun _ =>
        onSession Session.check >>= printFindings verbose).apply t = (.error e, u) := by
  have hfails : ∀ t : Terminal, (onSession Session.check).apply (t.holding s) =
      (.error e, t.holding s') := by
    intro t
    rw [onSession_holding, hcheck]
  simp only [Act.apply_bind, hopens.openSelected]
  cases verbose with
  | false =>
    refine ⟨e, t.holding s', ?_⟩
    simp only [Bool.false_eq_true, if_false, Act.apply_pure, hfails]
  | true =>
    cases hl : s.loaded? with
    | none =>
      have hproject : (onSession Session.project).apply (t.holding s) =
          (.error .notStarted, t.holding s) := by
        rw [onSession_holding, Session.project_apply, hl]
        rfl
      refine ⟨.notStarted, t.holding s, ?_⟩
      simp only [if_true, printSelection, Act.apply_bind, hproject]
    | some l =>
      obtain ⟨heading, hprinted⟩ := printSelection_of_loaded hl t
      refine ⟨e, (t.printed heading).holding s', ?_⟩
      simp only [if_true, hprinted, hfails]

/-- A project is checked and the issues are printed, or the command does not end well. -/
lemma check_cases (directory : Path) (wishes : Wishes) (verbose : Bool) (t : Terminal) :
    (∃ settings s found, Opens directory wishes t.host settings s ∧
        (Session.check.apply s).1 = .ok found) ∨
      ∃ exit u, (check directory wishes verbose).apply t = (.ok exit, u) ∧ exit ≠ .fine := by
  rcases openSelected_cases directory wishes t with ⟨settings, s, hopens, -⟩ | ⟨-, e, u, hfailed⟩
  · rcases hcheck : Session.check.apply s with ⟨e | found, s'⟩
    · obtain ⟨e', u, hfailed⟩ := command_of_error verbose hopens hcheck
      rw [check_eq]
      exact Or.inr (reporting_of_error hfailed)
    · exact Or.inl ⟨settings, s, found, hopens, by rw [hcheck]⟩
  · have hcommand : (openSelected directory wishes >>= fun _ =>
        (if verbose then printSelection else pure ()) >>= fun _ =>
          onSession Session.check >>= printFindings verbose).apply t = (.error e, u) := by
      rw [Act.apply_bind, hfailed]
    rw [check_eq]
    exact Or.inr (reporting_of_error hcommand)

/-! ## The law -/

lemma Exit.code_eq_zero_iff {exit : Exit} : exit.code = 0 ↔ exit = .fine := by
  cases exit <;> decide

/-- A check that has found some issues ends well if none of them is an error. -/
lemma verdict_eq_fine_iff : verdict found = .fine ↔ ∀ i ∈ found, i.severity ≠ .error := by
  rw [verdict_eq]
  split
  · rename_i herror
    obtain ⟨i, hi, herror⟩ := herror
    exact iff_of_false (by decide) fun h => h i hi herror
  · rename_i hnone
    exact iff_of_true rfl fun i hi herror => hnone ⟨i, hi, herror⟩

/-- A project passes: it is opened, its active configuration is declared and its compiler is found,
dub is started and ends as one does that has done its work, and no issue in what it prints is an
error. -/
def Passes (directory : Path) (wishes : Wishes) (h : Host) : Prop :=
  ∃ settings s selection c stdout stderr status found,
    Opens directory wishes h settings s ∧ s.Ready selection c ∧
      s.reply selection c = .finished stdout stderr status ∧
      Dub.Finds (stdout ++ stderr) status found ∧ ∀ i ∈ found, i.severity ≠ .error

/-- dub cannot be started for a project that is ready to be built, and the message that says so
reads like the report of a failed compiler. -/
def Misled (directory : Path) (wishes : Wishes) (h : Host) : Prop :=
  ∃ settings s selection c e,
    Opens directory wishes h settings s ∧ s.Ready selection c ∧
      Dub.Unstarted settings.dub (s.reply selection c) e ∧ Dub.Reporting e.message.toList

/-- What is to be expected of the command: it ends well if and only if the project passes, and
whenever a check gives issues, these are printed in the order in which dub has printed them, with
their numbers, and an error among them decides on the exit code. -/
structure ChecksLawfully (directory : Path) (wishes : Wishes) (verbose : Bool) (t : Terminal) :
    Prop where
  passes : (∃ exit u, (check directory wishes verbose).apply t = (.ok exit, u) ∧ exit.code = 0) ↔
    Passes directory wishes t.host
  reports : ∀ settings s found, Opens directory wishes t.host settings s →
    (Session.check.apply s).1 = .ok found →
      ∃ exit u heading, (check directory wishes verbose).apply t = (.ok exit, u) ∧
        exit.code = (if ∃ i ∈ found, i.severity = .error then 1 else 0) ∧
        (verbose = false → heading = "") ∧
        u.output =
          t.output ++ heading ++ issuesText t.coloured found ++ closingText verbose found ∧
        (found = [] ∨ ∃ selection c stdout stderr status,
          s.Ready selection c ∧ s.reply selection c = .finished stdout stderr status ∧
            Dub.Finds (stdout ++ stderr) status found)

/-- If a check gives issues, the project has been built or the message of a failure has misled. -/
lemma finds_or_misled {settings : ToolSettings} (hopens : Opens directory wishes t.host settings s)
    (hfound : (Session.check.apply s).1 = .ok found) :
    (∃ selection c stdout stderr status, s.Ready selection c ∧
        s.reply selection c = .finished stdout stderr status ∧
        Dub.Finds (stdout ++ stderr) status found) ∨
      Misled directory wishes t.host := by
  obtain ⟨selection, c, hready, hgives⟩ := (Session.check_eq_ok_iff hopens.engine).mp hfound
  rcases Dub.checkOf_eq_ok_iff.mp hgives with
    ⟨stdout, stderr, status, hreply, hfinds⟩ | ⟨-, e, hunstarted, hreporting⟩
  · exact Or.inl ⟨selection, c, stdout, stderr, status, hready, hreply, hfinds⟩
  · exact Or.inr ⟨settings, s, selection, c, e, hopens, hready, hunstarted, hreporting⟩

/-- **Ending well.**  The command ends well if the project passes or the command is misled, and not
otherwise. -/
theorem check_fine_iff (directory : Path) (wishes : Wishes) (verbose : Bool) (t : Terminal) :
    (∃ u, (check directory wishes verbose).apply t = (.ok .fine, u)) ↔
      Passes directory wishes t.host ∨ Misled directory wishes t.host := by
  constructor
  · rintro ⟨u, hfine⟩
    rcases check_cases directory wishes verbose t with
      ⟨settings, s, found, hopens, hfound⟩ | ⟨exit, v, hcheck, hbad⟩
    · obtain ⟨heading, v, hcheck, -⟩ := check_of_found verbose hopens hfound
      rw [hfine] at hcheck
      have hverdict : verdict found = .fine := (Except.ok.inj (Prod.mk.inj hcheck).1).symm
      refine (finds_or_misled hopens hfound).imp_left ?_
      rintro ⟨selection, c, stdout, stderr, status, hready, hreply, hfinds⟩
      exact ⟨settings, s, selection, c, stdout, stderr, status, found, hopens, hready, hreply,
        hfinds, verdict_eq_fine_iff.mp hverdict⟩
    · rw [hfine] at hcheck
      cases hcheck
      exact absurd rfl hbad
  · rintro (⟨settings, s, selection, c, stdout, stderr, status, found, hopens, hready, hreply,
      hfinds, hnone⟩ | ⟨settings, s, selection, c, e, hopens, hready, hunstarted, hreporting⟩)
    · have hfound : (Session.check.apply s).1 = .ok found :=
        (Session.check_eq_ok_iff hopens.engine).mpr ⟨selection, c, hready,
          Dub.checkOf_eq_ok_iff.mpr (Or.inl ⟨stdout, stderr, status, hreply, hfinds⟩)⟩
      obtain ⟨heading, u, hcheck, -⟩ := check_of_found verbose hopens hfound
      rw [verdict_eq_fine_iff.mpr hnone] at hcheck
      exact ⟨u, hcheck⟩
    · have hfound : (Session.check.apply s).1 = .ok [] :=
        (Session.check_eq_ok_iff hopens.engine).mpr ⟨selection, c, hready,
          Dub.checkOf_eq_ok_iff.mpr (Or.inr ⟨rfl, e, hunstarted, hreporting⟩)⟩
      obtain ⟨heading, u, hcheck, -⟩ := check_of_found verbose hopens hfound
      exact ⟨u, hcheck⟩

/-- A project for which dub cannot be started does not pass. -/
lemma not_passes_of_misled {h : Host} (hmisled : Misled directory wishes h) :
    ¬ Passes directory wishes h := by
  obtain ⟨settings, s, selection, c, e, hopens, hready, hunstarted, -⟩ := hmisled
  rintro ⟨settings', s', selection', c', stdout, stderr, status, found, hopens', hready', hreply,
    -⟩
  obtain ⟨rfl, rfl⟩ := hopens.unique hopens'
  obtain ⟨rfl, rfl⟩ := hready.unique hready'
  rw [hreply] at hunstarted
  cases hunstarted

/-- **The verdict.**  The command ends well if and only if the project passes, and prints what it
finds, exactly if it is not misled by the message of a dub that cannot be started. -/
theorem checksLawfully_iff (directory : Path) (wishes : Wishes) (verbose : Bool) (t : Terminal) :
    ChecksLawfully directory wishes verbose t ↔ ¬ Misled directory wishes t.host := by
  constructor
  · intro hlaw hmisled
    obtain ⟨u, hcheck⟩ := (check_fine_iff directory wishes verbose t).mpr (Or.inr hmisled)
    exact not_passes_of_misled hmisled (hlaw.passes.mp ⟨.fine, u, hcheck, rfl⟩)
  · intro hmisled
    refine ⟨⟨?_, fun hpasses => ?_⟩, ?_⟩
    · rintro ⟨exit, u, hcheck, hcode⟩
      rw [Exit.code_eq_zero_iff.mp hcode] at hcheck
      exact ((check_fine_iff directory wishes verbose t).mp ⟨u, hcheck⟩).resolve_right hmisled
    · obtain ⟨u, hcheck⟩ := (check_fine_iff directory wishes verbose t).mpr (Or.inl hpasses)
      exact ⟨.fine, u, hcheck, rfl⟩
    · intro settings s found hopens hfound
      obtain ⟨heading, u, hcheck, hquiet, houtput⟩ := check_of_found verbose hopens hfound
      refine ⟨_, u, heading, hcheck, ?_, hquiet, houtput,
        Or.inr ((finds_or_misled hopens hfound).resolve_right hmisled)⟩
      rw [verdict_eq]
      split <;> rfl

/-! ## A sample -/

/-- The name of a program that reads like the report of a failed compiler. -/
def phrasedProgram : String := "/opt/failed with exit code/dub"

/-- A terminal on a host with an empty package, a compiler and no dub. -/
def phrasedTerminal : Terminal where
  host := {
    files := ⟨[("p", .directory [("dub.sdl", .file [] false)]),
      ("bin", .directory [("dmd", .file [] true)])]⟩
    directory := []
    environment := [("PATH", "/bin"), ("DUBSENSE_DUB", phrasedProgram)]
    machine := "x86_64"
    dub := fun _ => .noProgram }

/-- The settings of the tool there. -/
def phrasedSettings : ToolSettings where
  homeDirectory := ⟨.slash, [".dubsense"]⟩
  dub := phrasedProgram
  logLevel := "INFO"
  preferredCompiler := none

/-- What the recipe is loaded as. -/
def phrasedRecipe : Recipe where
  directory := ⟨.slash, ["p"]⟩
  file := ⟨.slash, ["p", "dub.sdl"]⟩

/-- The session in which the project is opened. -/
def phrasedSession : Session :=
  newSession phrasedTerminal.host (Path.ofText "p") phrasedSettings

lemma load_phrasedSession : Recipe.load phrasedSession.host
    (Path.ofLocation phrasedSession.workspace.directory) = .ok phrasedRecipe := by
  cbv

lemma startingCompiler_phrasedSession : phrasedSession.startingCompiler = "dmd" := by
  cbv

lemma resolve_phrasedSession : phrasedSession.workspace.resolver.resolve phrasedSession.host "dmd" =
    .ok ⟨.dmd, "dmd", "/bin/dmd"⟩ := by
  cbv

lemma starting_phrasedSession : phrasedSession.starting =
    .ok (phrasedSession.projectOf phrasedRecipe (some (.string "library"))) := by
  have hplatform : ∃ platform, phrasedSession.startingPlatform = .ok platform := by
    rw [Session.startingPlatform, startingCompiler_phrasedSession, resolve_phrasedSession]
    exact ⟨_, rfl⟩
  obtain ⟨platform, hplatform⟩ := hplatform
  exact Session.starting_of_found load_phrasedSession hplatform (by cbv)

/-- dub cannot be started there, and the message that says so misleads. -/
lemma misled_phrasedTerminal : Misled (Path.ofText "p") {} phrasedTerminal.host := by
  have hquiet : phrasedSession.host.Quiet := by
    rintro arguments ⟨⟩
  have hdeclares : ∀ log runs, phrasedRecipe.Declares
      { phrasedSession.host with log := log, runs := runs } (.string "library") :=
    fun log runs => ⟨[.string "library"], by cbv, .string "library", List.mem_singleton_self _,
      by cbv⟩
  obtain ⟨found, t, l, hstartup, hl, hrecipe, hselection, hresolver, log, runs, hhost⟩ :=
    Session.exists_startup_loaded (s := phrasedSession) rfl hquiet starting_phrasedSession
      (hdeclares [] [])
  have hdub : t.host.dub = fun _ => .noProgram := by
    rw [hhost]
    rfl
  refine ⟨phrasedSettings, t, l.project.selection, ⟨.dmd, "dmd", "/bin/dmd"⟩, _,
    ⟨by cbv, ⟨_, load_phrasedSession⟩, found, t, hstartup, rfl⟩, ⟨⟨l, hl, rfl, ?_⟩, ?_⟩,
    by rw [Session.reply, hdub]; exact .noProgram, ?_⟩
  · rw [hrecipe, hselection, hhost]
    exact hdeclares log runs
  · rw [hselection, hresolver, hhost, Resolver.resolve_logged]
    exact startingCompiler_phrasedSession ▸ resolve_phrasedSession
  · decide

/-- The command says that the check has passed, but nothing has been built. -/
theorem not_checksLawfully_of_phrase :
    ¬ ChecksLawfully (Path.ofText "p") {} false phrasedTerminal :=
  fun h => (checksLawfully_iff _ _ _ _).mp h misled_phrasedTerminal

end CommandLine

end DubCheck
