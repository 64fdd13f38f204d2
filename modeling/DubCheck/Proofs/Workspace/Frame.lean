import DubCheck.Proofs.Dub.Runs
import DubCheck.Proofs.Project.Course
import DubCheck.Workspace.Basic
/-!
# What operations leave alone

While nobody interrupts dub, nothing that is done with a workspace is interrupted.  Whatever is done
at once changes only which projects have been loaded, which of them is current and which events
there are; jobs, tickets and outcomes stay as they are.

* `Session.frame`: the sessions that are looked at, and what may become of them.
* `Session.startup_sound`, `Session.restart_sound`, `Session.select_sound` and the others: the
  operations keep to it.
* `Session.runQueued_preserves`: jobs leave alone what is about projects only, unless paths are
  found again.
-/

namespace DubCheck

/-! ## Recipes and projects -/

namespace Recipe

variable {h : Host}

lemma lookForFile_ne_interrupted (p : Path) : h.lookForFile p ≠ .error .interrupted := by
  intro he
  obtain ⟨_, _, ⟨⟩⟩ := Resolver.lookForFile_eq_error he

lemma dependenciesOf_ne_interrupted (d : Document) : dependenciesOf d ≠ .error .interrupted :=
  bind_ne_interrupted (mapError_ne_interrupted (by rintro _ ⟨⟩)) fun _ =>
    bind_ne_interrupted (mapError_ne_interrupted (by rintro _ ⟨⟩)) fun _ => by rintro ⟨⟩

lemma addConfiguration_ne_interrupted (r : Recipe) (d : Document) :
    addConfiguration r d ≠ .error .interrupted := by
  refine bind_ne_interrupted (mapError_ne_interrupted (by rintro _ ⟨⟩)) fun named => ?_
  cases named with
  | false => rintro ⟨⟩
  | true =>
    exact bind_ne_interrupted (mapError_ne_interrupted (by rintro _ ⟨⟩)) fun _ =>
      bind_ne_interrupted (mapError_ne_interrupted (by rintro _ ⟨⟩)) fun _ =>
        bind_ne_interrupted (mapError_ne_interrupted (by rintro _ ⟨⟩)) fun _ =>
          bind_ne_interrupted (dependenciesOf_ne_interrupted d) fun _ => by rintro ⟨⟩

lemma ofDocument_ne_interrupted (r : Recipe) (d : Document) :
    r.ofDocument d ≠ .error .interrupted := by
  unfold ofDocument
  cases d.isObject with
  | false => rintro ⟨⟩
  | true =>
    exact bind_ne_interrupted (dependenciesOf_ne_interrupted d) fun _ =>
      bind_ne_interrupted (mapError_ne_interrupted (by rintro _ ⟨⟩)) fun _ =>
        bind_ne_interrupted (foldlM_ne_interrupted addConfiguration_ne_interrupted _ _) fun _ =>
          bind_ne_interrupted (mapError_ne_interrupted (by rintro _ ⟨⟩)) fun _ => by rintro ⟨⟩

lemma ofText_ne_interrupted (r : Recipe) (text : List Char) :
    r.ofText text ≠ .error .interrupted := by
  rw [ofText]
  split
  · exact mapError_ne_interrupted (by rintro _ ⟨⟩)
  · refine bind_ne_interrupted (mapError_ne_interrupted ?_) (ofDocument_ne_interrupted r)
    rintro (_ | _ | _) ⟨⟩

lemma load_ne_interrupted (directory : Path) : load h directory ≠ .error .interrupted := by
  refine bind_ne_interrupted (findM?_ne_interrupted lookForFile_ne_interrupted _) fun found => ?_
  cases found with
  | none => rintro ⟨⟩
  | some file =>
    exact bind_ne_interrupted (mapError_ne_interrupted (by rintro _ ⟨⟩))
      (ofText_ne_interrupted _)

lemma configurationNames_ne_interrupted (r : Recipe) :
    r.configurationNames h ≠ .error .interrupted := by
  intro he
  rcases configurationNames_eq_error he with ⟨_, ⟨⟩⟩ | ⟨_, _, ⟨⟩⟩

lemma hasConfiguration_ne_interrupted (r : Recipe) (name : Document) :
    r.hasConfiguration h name ≠ .error .interrupted :=
  bind_ne_interrupted (configurationNames_ne_interrupted r) fun _ => by rintro ⟨⟩

lemma defaultConfiguration_ne_interrupted (r : Recipe) (platform : Option Platform) :
    r.defaultConfiguration h platform ≠ .error .interrupted := by
  unfold defaultConfiguration
  split
  · refine bind_ne_interrupted ?_ fun _ => by rintro ⟨⟩
    intro he
    rcases implicitConfiguration_eq_error he with ⟨_, ⟨⟩⟩ | ⟨_, _, ⟨⟩⟩
  · exact mapError_ne_interrupted (by rintro _ ⟨⟩)

end Recipe

/-- No arch type is without a name. -/
lemma ne_empty_of_mem_archTypes {family : Option Family} {os name : String}
    (h : name ∈ archTypes family os) : name ≠ "" := by
  rintro rfl
  revert h
  unfold archTypes
  split <;> split <;> decide

namespace Project

lemma check_ne_interrupted (p : Project) (h : Host) : p.check h ≠ .error .interrupted := by
  refine bind_ne_interrupted (Recipe.hasConfiguration_ne_interrupted _ _) fun valid => ?_
  cases valid with
  | true => rintro ⟨⟩
  | false =>
    exact bind_ne_interrupted (Recipe.configurationNames_ne_interrupted _) fun _ =>
      bind_ne_interrupted (mapError_ne_interrupted (by rintro _ ⟨⟩)) fun _ => by rintro ⟨⟩

lemma rejection_ne_interrupted (p : Project) (resolver : Resolver) (h : Host) (pick : Pick) :
    p.rejection resolver h pick ≠ .error .interrupted := by
  cases pick with
  | configuration name =>
    exact bind_ne_interrupted (Recipe.hasConfiguration_ne_interrupted _ _) fun _ => by rintro ⟨⟩
  | archType name | buildType name => rintro ⟨⟩
  | compiler name =>
    have hne := resolver.resolve_ne_interrupted (h := h) name
    unfold rejection
    dsimp only
    split
    · rintro ⟨⟩
    · rintro ⟨⟩
    · rename_i e he
      rw [he] at hne
      rintro ⟨⟩
      exact hne rfl

end Project

/-! ## Workbenches -/

/-- Projects whose arch type has a name keep that, on a host that keeps its dub. -/
def workbenchFrame : Act.Frame Workbench where
  holds w := w.host.Quiet
  allows w v := v.host.dub = w.host.dub ∧
    (w.project.selection.archType ≠ "" → v.project.selection.archType ≠ "")
  refl _ := ⟨rfl, id⟩
  trans h k := ⟨k.1.trans h.1, k.2 ∘ h.2⟩
  keeps h k := hostFrame.keeps h k.1

namespace Workbench

lemma note_sound (level : Level) (text : String) : (note level text).Sound workbenchFrame :=
  .modify fun _ _ => ⟨Host.noted_dub level text, id⟩

lemma onHost_sound {α : Type} {a : Act Host α} (ha : a.Sound hostFrame) :
    (onHost a).Sound workbenchFrame :=
  ha.onPart (fun _ h => h) fun _ _ _ h => ⟨h, id⟩

end Workbench

namespace Project

variable (program : String) (directory : Location) (resolver : Resolver)

lemma validate_sound : validate.Sound workbenchFrame :=
  .get_bind fun w _ => .ofExcept (check_ne_interrupted w.project w.host)

lemma setPaths_sound (paths : PathSet) : (setPaths paths).Sound workbenchFrame :=
  .modify fun _ _ => ⟨rfl, id⟩

lemma queryPaths_sound : (queryPaths (.dub program directory) resolver).Sound workbenchFrame :=
  .get_bind fun _ _ => .bind (.ofExcept Selection.settings_ne_interrupted) fun _ =>
    .bind (Workbench.onHost_sound (Dub.list_sound program directory _ _)) fun lists =>
      .ofExcept <| by
        rcases PathSet.ofLists_eq lists with h | ⟨h, -⟩ <;> rw [h] <;> rintro ⟨⟩

lemma refresh_sound : (refresh (.dub program directory) resolver).Sound workbenchFrame := by
  refine .bind validate_sound fun _ => .bind (queryPaths_sound program directory resolver).outcome
    fun found => ?_
  cases found with
  | error e =>
    exact .bind (Workbench.note_sound _ _) fun _ => .bind (setPaths_sound _) fun _ => .pure _
  | ok paths =>
    exact .bind (setPaths_sound paths) fun _ => .get_bind fun _ _ =>
      .bind (Workbench.note_sound _ _) fun _ => .pure _

/-- What is selected has a name if it is an arch type, because all that are available have. -/
lemma archType_ne_empty_of_rejection {p : Project} {h : Host} {pick : Pick}
    (hpick : p.rejection resolver h pick = .ok none) (s : Selection) (hs : s.archType ≠ "") :
    (s.set pick).archType ≠ "" := by
  cases pick with
  | archType name =>
    have hmem : name ∈ p.selection.archTypes resolver := by
      simpa [rejection] using hpick
    exact ne_empty_of_mem_archTypes hmem
  | configuration name | buildType name | compiler name => exact hs

lemma select_sound (pick : Pick) :
    (select (.dub program directory) resolver pick).Sound workbenchFrame := by
  refine .get_bind fun w _ => .ofExcept_bind (rejection_ne_interrupted _ _ _ _) fun reason hr => ?_
  cases reason with
  | some text => exact .bind (Workbench.note_sound _ _) fun _ => .pure _
  | none =>
    have hset : (modify fun w : Workbench => { w with
        project := { w.project with selection := w.project.selection.set pick } } :
        Act Workbench Unit).Sound workbenchFrame :=
      .modify fun v _ => ⟨rfl, archType_ne_empty_of_rejection resolver hr _⟩
    have hrest := Act.Sound.bind hset fun _ => refresh_sound program directory resolver
    dsimp only
    split
    · exact .bind validate_sound fun _ => hrest
    · exact hrest

lemma reload_sound (recipe : Recipe) : (reload recipe).Sound workbenchFrame :=
  .modify fun _ _ => ⟨rfl, id⟩

end Project

/-! ## Sessions -/

namespace Session

/-- The workspace asks dub, which nobody interrupts, and the arch types of its projects have
names. -/
structure Regular (s : Session) : Prop where
  quiet : s.host.Quiet
  provider : s.workspace.provider = .dub s.workspace.settings.dub s.workspace.directory
  engine : s.workspace.engine = .dub s.workspace.settings.dub s.workspace.directory
  archTypes : ∀ l ∈ s.workspace.projects, l.project.selection.archType ≠ ""

/-- Only the host, the projects, which of them is current and the events may have changed. -/
structure Keeps (s t : Session) : Prop where
  dub : t.host.dub = s.host.dub
  workspace : t.workspace = { s.workspace with
    projects := t.workspace.projects
    current := t.workspace.current
    events := t.workspace.events }
  archTypes : (∀ l ∈ s.workspace.projects, l.project.selection.archType ≠ "") →
    ∀ l ∈ t.workspace.projects, l.project.selection.archType ≠ ""

lemma Keeps.trans {s t u : Session} (h : s.Keeps t) (k : t.Keeps u) : s.Keeps u where
  dub := k.dub.trans h.dub
  workspace := by
    rw [k.workspace, h.workspace]
  archTypes := k.archTypes ∘ h.archTypes

lemma Regular.keeps {s t : Session} (hs : s.Regular) (h : s.Keeps t) : t.Regular where
  quiet := hostFrame.keeps hs.quiet h.dub
  provider := by
    rw [h.workspace]
    exact hs.provider
  engine := by
    rw [h.workspace]
    exact hs.engine
  archTypes := h.archTypes hs.archTypes

/-- Regular sessions, of which everything is kept that is not at hand. -/
def frame : Act.Frame Session where
  holds := Regular
  allows := Keeps
  refl _ := ⟨rfl, rfl, id⟩
  trans := Keeps.trans
  keeps := Regular.keeps

lemma onHost_sound {α : Type} {a : Act Host α} (ha : a.Sound hostFrame) :
    (onHost a).Sound frame :=
  ha.onPart (fun _ h => h.quiet) fun _ _ _ h => ⟨h, rfl, id⟩

lemma note_sound (level : Level) (text : String) : (note level text).Sound frame :=
  onHost_sound (.modify fun _ _ => Host.noted_dub level text)

/-- What holds of all items of a list and of the one that is put in another's place holds of all
items afterwards. -/
lemma forall_mem_modify {α : Type} {P : α → Prop} {f : α → α} {xs : List α} {index : Nat}
    (h : ∀ x ∈ xs, P x) (hf : ∀ x, xs[index]? = some x → P (f x)) :
    ∀ x ∈ xs.modify index f, P x := by
  intro y hy
  obtain ⟨j, hj⟩ := List.mem_iff_getElem?.mp hy
  rw [List.getElem?_modify] at hj
  split at hj
  · rename_i heq
    subst heq
    obtain ⟨x, hx, rfl⟩ := Option.map_eq_some_iff.mp hj
    exact hf x hx
  · exact h y (List.mem_of_getElem? (by simpa using hj))

lemma onProject_sound {α : Type} (index : Nat) {a : Act Workbench α} (ha : a.Sound workbenchFrame) :
    (onProject index a).Sound frame := by
  intro s hs
  rw [onProject, Act.apply_ofFunction]
  cases hloaded : s.workspace.projects[index]? with
  | none => exact ⟨by rintro ⟨⟩, frame.refl s⟩
  | some loaded =>
    obtain ⟨hne, hdub, harch⟩ := ha ⟨s.host, loaded.project⟩ hs.quiet
    refine ⟨hne, hdub, rfl, fun h => forall_mem_modify h fun l hl => ?_⟩
    exact harch (h _ (List.mem_of_getElem? hloaded))

lemma currentIndex_sound : currentIndex.Sound frame :=
  .get_bind fun s _ => by
    cases s.workspace.current with
    | none => exact .throw (by rintro ⟨⟩)
    | some index => exact .pure index

lemma onCurrent_sound {α : Type} {a : Act Workbench α} (ha : a.Sound workbenchFrame) :
    (onCurrent a).Sound frame :=
  currentIndex_sound.bind fun index => onProject_sound index ha

lemma project_sound : project.Sound frame :=
  onCurrent_sound (.get_bind fun _ _ => .pure _)

/-! ### Starting and stopping -/

lemma emit_sound (event : Document) : (emit event).Sound frame :=
  .modify fun s _ => by
    beta_reduce
    split
    · exact ⟨rfl, rfl, id⟩
    · exact frame.refl s

lemma loadRecipe_sound : loadRecipe.Sound frame :=
  .get_bind fun _ _ => .ofExcept (Recipe.load_ne_interrupted _)

lemma platformOf_sound (compiler : String) : (platformOf compiler).Sound frame :=
  .get_bind fun s _ => by
    have hne := s.workspace.resolver.resolve_ne_interrupted (h := s.host) compiler
    split
    · exact .pure _
    · exact .bind (note_sound _ _) fun _ => .pure _
    · rename_i e he
      exact .throw fun h => hne (by rw [he, h])

lemma startup_sound : startup.Sound frame := by
  refine loadRecipe_sound.bind fun recipe => .get_bind fun s hs =>
    .bind (platformOf_sound _) fun platform =>
      .bind (.ofExcept (Recipe.defaultConfiguration_ne_interrupted _ _)) fun found =>
        .bind (.modify fun t _ => ⟨rfl, rfl, fun h l hl => ?_⟩) fun _ =>
          .bind (note_sound _ _) fun _ =>
            .bind (.ofExcept (Recipe.hasConfiguration_ne_interrupted _ _)) fun valid => ?_
  · rcases List.mem_append.mp hl with hl | hl
    · exact h l hl
    · rw [List.mem_singleton.mp hl]
      exact (by decide : "x86_64" ≠ "")
  · cases valid with
    | true =>
      refine onCurrent_sound ?_
      rw [hs.provider]
      exact Project.refresh_sound _ _ _
    | false =>
      exact .bind (note_sound _ _) fun _ => .bind (emit_sound _) fun _ => .pure _

lemma stop_sound : stop.Sound frame :=
  .modify fun _ _ => ⟨rfl, rfl, id⟩

lemma restart_sound : restart.Sound frame :=
  loadRecipe_sound.bind fun recipe =>
    .bind (onCurrent_sound (Project.reload_sound recipe)) fun _ => note_sound _ _

/-! ### Questions and selections -/

lemma validate_sound : validate.Sound frame :=
  onCurrent_sound Project.validate_sound

lemma select_sound (pick : Pick) : (select pick).Sound frame :=
  .get_bind fun s hs => onCurrent_sound <| by
    rw [hs.provider]
    exact Project.select_sound _ _ _ pick

lemma configurations_sound : configurations.Sound frame :=
  project_sound.bind fun _ => .get_bind fun _ _ =>
    .ofExcept (Recipe.configurationNames_ne_interrupted _)

lemma buildTypes_sound : buildTypes.Sound frame :=
  project_sound.bind fun _ => .pure _

lemma archTypes_sound : archTypes.Sound frame :=
  project_sound.bind fun _ => .get_bind fun _ _ => .pure _

lemma rootDependencies_sound : rootDependencies.Sound frame :=
  validate_sound.bind fun _ => project_sound.bind fun _ => .pure _

/-! ## What is about projects only -/

/-- A property of sessions that depends only on the projects and on which of them is current. -/
def OfProjects (P : Session → Prop) : Prop :=
  ∀ ⦃s t : Session⦄, t.workspace.projects = s.workspace.projects →
    t.workspace.current = s.workspace.current → P s → P t

variable {α : Type} {P : Session → Prop}

lemma currentIndex_preserves : currentIndex.Preserves P := by
  refine .bind .get fun s => ?_
  cases s.workspace.current with
  | none => exact .throw _
  | some index => exact .pure _

variable (hP : OfProjects P)

include hP

lemma preserves_of_projects {a : Act Session α}
    (h : ∀ s, (a.apply s).2.workspace.projects = s.workspace.projects ∧
      (a.apply s).2.workspace.current = s.workspace.current) : a.Preserves P :=
  fun s hs => hP (h s).1 (h s).2 hs

lemma onHost_preserves (a : Act Host α) : (onHost a).Preserves P :=
  preserves_of_projects hP fun _ => ⟨rfl, rfl⟩

lemma note_preserves (level : Level) (text : String) : (note level text).Preserves P :=
  onHost_preserves hP _

lemma newTicket_preserves : newTicket.Preserves P :=
  preserves_of_projects hP fun _ => ⟨rfl, rfl⟩

lemma deliver_preserves (ticket : Nat) (outcome : Except Failure Outcome) :
    (deliver ticket outcome).Preserves P :=
  preserves_of_projects hP fun _ => ⟨rfl, rfl⟩

lemma runCheck_preserves (selection : Selection) : (runCheck selection).Preserves P := by
  refine .bind .get fun s => .bind (.ofExcept _) fun settings => .bind (onHost_preserves hP _)
    fun heard => ?_
  split
  · exact .pure _
  · split
    · exact (note_preserves hP _ _).bind fun _ => .pure _
    · exact .throw _
  · exact .throw _

variable (hrefresh : ∀ provider resolver index,
  (onProject index (Project.refresh provider resolver)).Preserves P)

include hrefresh

/-- Work leaves alone what is left alone when paths are found again. -/
lemma perform_preserves (work : Work) : (perform work).Preserves P := by
  cases work with
  | build number selection =>
    exact (runCheck_preserves hP selection).bind fun _ => .bind (note_preserves hP _ _) fun _ =>
      .pure _
  | update index => exact .bind .get fun s => .bind (hrefresh _ _ index) fun _ => .pure _
  | describe settings =>
    exact .bind .get fun s => .bind (onHost_preserves hP _) fun _ =>
      .bind (.ofExcept _) fun _ => .pure _

lemma runJob_preserves (job : Job) : (runJob job).Preserves P := by
  refine (perform_preserves hP hrefresh job.work).outcome.bind fun outcome => ?_
  cases outcome with
  | error e => exact (note_preserves hP _ _).bind fun _ => deliver_preserves hP _ _
  | ok result => exact deliver_preserves hP _ _

lemma runQueued_preserves (index : Nat) : (runQueued index).Preserves P := by
  refine .bind .get fun s => ?_
  cases s.workspace.queue[index]? with
  | none => exact .pure _
  | some job =>
    exact (preserves_of_projects hP fun _ => ⟨rfl, rfl⟩).bind fun _ =>
      .bind (runJob_preserves hP hrefresh job) fun _ => .pure _

lemma launch_preserves (ticket : Nat) (work : Work) : (launch ticket work).Preserves P := by
  refine .bind .get fun s => ?_
  split
  · exact preserves_of_projects hP fun _ => ⟨rfl, rfl⟩
  · exact runJob_preserves hP hrefresh _

end Session

end DubCheck
