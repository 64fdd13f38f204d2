import DubCheck.Proofs.Workspace.Isolation
import DubCheck.Proofs.Workspace.Startup
/-!
# Operations and their answers

An `Operation` is something that is done with a workspace, or that happens around it.  It has an
answer, or it fails.  A request for work is answered by its ticket; tickets are left out of answers,
and what comes of the work is found among the outcomes that are delivered.

* `Operation.preserves_selections`: only starting up and selecting change what is selected.
* `Session.selections_answers`: what this means for any number of operations.
-/

namespace DubCheck

/-- What an operation answers. -/
inductive Answer where
  | done
  | truth (value : Bool)
  | texts (list : List String)
  | documents (list : List Document)
  | project (value : Project)
  | issues (found : List Issue)
  | job (name : Option String)

/-- Something that is done with a workspace, or that happens around it. -/
inductive Operation where
  | startup
  | stop
  | restart
  | validate
  | select (pick : Pick)
  /-- What is selected, the recipe and the paths are looked at. -/
  | project
  | configurations
  | buildTypes
  | archTypes
  | rootDependencies
  | check
  | ask (kind : Kind)
  /-- The job at a place in the queue runs. -/
  | run (index : Nat)
  /-- The workspace finds itself on another host, but for what it has done so far. -/
  | move (host : Host)

namespace Operation

/-- Carry out an operation. -/
def call : Operation → Act Session Answer
  | .startup => do return .truth (← Session.startup)
  | .stop => do
    Session.stop
    return .done
  | .restart => do
    Session.restart
    return .done
  | .validate => do
    Session.validate
    return .done
  | .select pick => do return .truth (← Session.select pick)
  | .project => do return .project (← Session.project)
  | .configurations => do return .documents (← Session.configurations)
  | .buildTypes => do return .texts (← Session.buildTypes)
  | .archTypes => do return .texts (← Session.archTypes)
  | .rootDependencies => do return .texts (← Session.rootDependencies)
  | .check => do return .issues (← Session.check)
  | .ask kind => do
    let _ ← kind.ask
    return .done
  | .run index => do return .job (← Session.runQueued index)
  | .move host => do
    modify fun s => { s with host := { host with log := s.host.log, runs := s.host.runs } }
    return .done

/-- An operation is there to change what is selected. -/
def Selects : Operation → Prop
  | .startup | .select _ => True
  | _ => False

end Operation

namespace Session

/-- What operations answer, one after the other, and the session after them. -/
def answers (s : Session) : List Operation → List (Except Failure Answer) × Session
  | [] => ([], s)
  | op :: ops =>
    let (answer, t) := op.call.apply s
    let (rest, u) := t.answers ops
    (answer :: rest, u)

/-- What is selected in the projects that have been loaded. -/
def selections (s : Session) : List Selection :=
  s.workspace.projects.map (·.project.selection)

variable {α : Type} {selected : List Selection}

lemma ofProjects_selections : OfProjects (·.selections = selected) := by
  intro s t hprojects _ hs
  rw [← hs, selections, selections, hprojects]

/-- What is selected stays if projects are replaced by some with the same selection. -/
lemma selections_modify (s : Session) (index : Nat) {f : Loaded → Loaded}
    (hf : ∀ l, s.workspace.projects[index]? = some l →
      (f l).project.selection = l.project.selection) :
    (s.workspace.projects.modify index f).map (·.project.selection) = s.selections := by
  refine List.ext_getElem? fun i => ?_
  rw [selections, List.getElem?_map, List.getElem?_map, List.getElem?_modify]
  split
  · rename_i heq
    subst heq
    cases hl : s.workspace.projects[index]? with
    | none => rfl
    | some l => exact congrArg some (hf l hl)
  · simp

lemma onProject_preserves_selections (index : Nat) {a : Act Workbench α}
    (ha : ∀ w, (a.apply w).2.project.selection = w.project.selection) :
    (onProject index a).Preserves (·.selections = selected) := by
  intro s hs
  cases hl : s.workspace.projects[index]? with
  | none =>
    simp only [onProject, Act.apply_ofFunction, hl]
    exact hs
  | some l =>
    rw [onProject_apply_of_loaded a hl, ← hs]
    refine s.selections_modify index fun l' hl' => ?_
    rw [hl] at hl'
    cases hl'
    exact ha _

lemma onCurrent_preserves_selections {a : Act Workbench α}
    (ha : ∀ w, (a.apply w).2.project.selection = w.project.selection) :
    (onCurrent a).Preserves (·.selections = selected) :=
  currentIndex_preserves.bind fun index => onProject_preserves_selections index ha

lemma validate_preserves_selections : validate.Preserves (·.selections = selected) :=
  onCurrent_preserves_selections fun w => by rw [Project.validate_apply]

lemma project_preserves_selections : project.Preserves (·.selections = selected) :=
  onCurrent_preserves_selections fun _ => rfl

/-- Finding the paths again replaces nothing but the paths. -/
lemma refresh_preserves_selections (provider : Dub.Provider) (resolver : Resolver) (index : Nat) :
    (onProject index (Project.refresh provider resolver)).Preserves (·.selections = selected) :=
  onProject_preserves_selections index fun w => by rw [Project.project_refresh]

lemma restart_preserves_selections : restart.Preserves (·.selections = selected) :=
  .bind (.bind .get fun _ => .ofExcept _) fun _ =>
    (onCurrent_preserves_selections fun _ => rfl).bind fun _ =>
      note_preserves ofProjects_selections _ _

lemma launch_preserves_selections (ticket : Nat) (work : Work) :
    (launch ticket work).Preserves (·.selections = selected) :=
  launch_preserves ofProjects_selections refresh_preserves_selections ticket work

lemma runQueued_preserves_selections (index : Nat) :
    (runQueued index).Preserves (·.selections = selected) :=
  runQueued_preserves ofProjects_selections refresh_preserves_selections index

/-- **Updates and selections.**  An update that is asked for changes nothing that is selected. -/
lemma update_preserves_selections : update.Preserves (·.selections = selected) := by
  refine (newTicket_preserves ofProjects_selections).bind fun ticket =>
    restart_preserves_selections.outcome.bind fun outcome => ?_
  cases outcome with
  | error e =>
    exact (note_preserves ofProjects_selections _ _).bind fun _ =>
      (deliver_preserves ofProjects_selections _ _).bind fun _ => .pure _
  | ok u =>
    exact currentIndex_preserves.bind fun index =>
      (launch_preserves_selections _ _).bind fun _ => .pure _

lemma build_preserves_selections : build.Preserves (·.selections = selected) := by
  have hcount : ∀ index, (change fun w => { w with
      projects := w.projects.modify index fun l => { l with builds := l.builds + 1 } }).Preserves
        (·.selections = selected) := by
    intro index s hs
    have hcounted := s.selections_modify index (f := fun l => { l with builds := l.builds + 1 })
      fun _ _ => rfl
    exact hcounted.trans hs
  exact currentIndex_preserves.bind fun index => validate_preserves_selections.bind fun _ =>
    project_preserves_selections.bind fun p =>
      (newTicket_preserves ofProjects_selections).bind fun ticket => (hcount index).bind fun _ =>
        .bind .get fun s => (note_preserves ofProjects_selections _ _).bind fun _ =>
          (launch_preserves_selections _ _).bind fun _ => .pure _

lemma dependencies_preserves_selections : dependencies.Preserves (·.selections = selected) :=
  validate_preserves_selections.bind fun _ => project_preserves_selections.bind fun _ =>
    .bind .get fun _ => .bind (.ofExcept _) fun _ =>
      (newTicket_preserves ofProjects_selections).bind fun _ =>
        (launch_preserves_selections _ _).bind fun _ => .pure _

end Session

/-- **One operation.**  Only starting up and selecting change what is selected. -/
theorem Operation.preserves_selections {op : Operation} (h : ¬ op.Selects)
    {selected : List Selection} : op.call.Preserves (·.selections = selected) := by
  have hproject : Session.project.Preserves (·.selections = selected) :=
    Session.project_preserves_selections
  have hvalidate : Session.validate.Preserves (·.selections = selected) :=
    Session.validate_preserves_selections
  cases op with
  | startup | select pick => exact absurd trivial h
  | stop | move host => exact fun _ hs => hs
  | restart => exact Session.restart_preserves_selections.bind fun _ => .pure _
  | validate => exact hvalidate.bind fun _ => .pure _
  | project => exact hproject.bind fun _ => .pure _
  | configurations =>
    exact .bind (hproject.bind fun _ => .bind .get fun _ => .ofExcept _) fun _ => .pure _
  | buildTypes => exact .bind (hproject.bind fun _ => .pure _) fun _ => .pure _
  | archTypes =>
    exact .bind (hproject.bind fun _ => .bind .get fun _ => .pure _) fun _ => .pure _
  | rootDependencies =>
    exact .bind (hvalidate.bind fun _ => hproject.bind fun _ => .pure _) fun _ => .pure _
  | check =>
    exact .bind (hvalidate.bind fun _ => hproject.bind fun p =>
      Session.runCheck_preserves Session.ofProjects_selections _) fun _ => .pure _
  | ask kind =>
    refine .bind ?_ fun _ => .pure _
    cases kind with
    | build => exact Session.build_preserves_selections
    | update => exact Session.update_preserves_selections
    | dependencies => exact Session.dependencies_preserves_selections
  | run index => exact (Session.runQueued_preserves_selections index).bind fun _ => .pure _

/-- **All operations.**  What is selected stays as long as nobody starts up or selects. -/
theorem Session.selections_answers (s : Session) {ops : List Operation}
    (h : ∀ op ∈ ops, ¬ op.Selects) : (s.answers ops).2.selections = s.selections := by
  induction ops generalizing s with
  | nil => rfl
  | cons op ops ih =>
    rw [List.forall_mem_cons] at h
    exact (ih _ h.2).trans (Operation.preserves_selections h.1 s rfl)

end DubCheck
