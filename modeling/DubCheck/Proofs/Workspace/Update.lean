import DubCheck.Proofs.Workspace.Alongside
import DubCheck.Proofs.Workspace.Default
import DubCheck.Proofs.Workspace.Paths
/-!
# Updates

An update reads the recipe again, and the rest of it is a job: the paths are found again when that
runs.  If the recipe cannot be loaded there is no job, the failure is delivered, and everything goes
on as if nobody had asked for the update.  If it can be loaded, the job finds the paths for what is
selected when it runs, in the recipe that the project has then.  Nothing that is selected changes.

* `Session.alongside_of_failed`: a session after an update that failed goes on like the one before.
* `Session.recomputes_runJob`: what the job of an update does, whenever it runs.
* `Session.updatesSafely`: what becomes of an update.
-/

namespace DubCheck

/-! ## Finding the paths again -/

namespace Project

/-- Unless it is interrupted, the end of the question for paths says whether there are any. -/
lemma fst_conclude {found : Except Failure PathSet} {w : Workbench}
    (h : (conclude found w).1 ≠ .error .interrupted) :
    (conclude found w).1 = .ok (conclude found w).2.project.paths.hasPaths := by
  unfold conclude at h ⊢
  split at h
  · exact absurd rfl h
  · rfl
  · rfl

/-- If the active configuration is declared, the result is whether there are paths now. -/
lemma fst_refresh_of_declares {provider : Dub.Provider} {resolver : Resolver} {w : Workbench}
    (hd : w.project.recipe.Declares w.host w.project.selection.configuration)
    (h : ((refresh provider resolver).apply w).1 ≠ .error .interrupted) :
    ((refresh provider resolver).apply w).1 =
      .ok ((refresh provider resolver).apply w).2.project.paths.hasPaths := by
  rw [refresh_apply, refreshCourse_of_declares hd, ← conclude_queryPaths] at h ⊢
  exact fst_conclude h

end Project

namespace Session

variable {s t : Session} {e : Failure} {index ticket : Nat} {l : Loaded}

/-! ## If the recipe cannot be loaded -/

/-- A request that failed at once leaves a session that goes on like the one in which it was
made. -/
theorem alongside_of_failed (hp : s.workspace.provider.Discreet) (he : s.workspace.engine.Discreet)
    (e : Failure) (log : List Note) :
    Alongside s e s (({ s with host := { s.host with log := log } } : Session).withTicket.delivered
      ⟨s.workspace.tickets + 1, .error e⟩) where
  host := ⟨log, rfl⟩
  workspace := rfl
  provider := hp
  engine := he
  later := le_rfl
  queue := List.forall₂_same.mpr fun _ hj => ⟨rfl, Or.inl ⟨rfl, List.mem_map_of_mem hj⟩⟩
  finished := ⟨[], [], (List.append_nil _).symm, rfl, .nil⟩

/-- An update has failed.  This is what is delivered, and all that it has changed. -/
structure FailsAlone (s t : Session) (e : Failure) : Prop where
  projects : t.workspace.projects = s.workspace.projects
  current : t.workspace.current = s.workspace.current
  delivered : ∃ d, t.workspace.finished = s.workspace.finished ++ [d] ∧
    d.ticket = s.workspace.tickets + 1 ∧ d.outcome = .error e ∧ d.told = (some e, none)
  /-- Whatever is done later, the answers are those of the session without the update. -/
  later : ∀ ops : List Operation, (t.answers ops).1 = (s.answers ops).1 ∧
    Alongside s e (s.answers ops).2 (t.answers ops).2

lemma failsAlone_of_error (hp : s.workspace.provider.Discreet)
    (he : s.workspace.engine.Discreet)
    (hload : Recipe.load s.host (Path.ofLocation s.workspace.directory) = .error e) :
    ∃ t, update.apply s = (.ok (s.workspace.tickets + 1), t) ∧ s.FailsAlone t e := by
  obtain ⟨log, hupdate⟩ := update_of_error hload
  exact ⟨_, hupdate, rfl, rfl, ⟨_, rfl, rfl, rfl, rfl⟩,
    fun ops => answers_of_alongside (alongside_of_failed hp he e log) ops⟩

/-! ## The job of an update -/

/-- The paths of a project have been found again under a ticket, for what was selected and with the
recipe that was there. -/
structure Recomputes (s t : Session) (ticket index : Nat) : Prop where
  selections : t.selections = s.selections
  paths : ∀ l, s.workspace.projects[index]? = some l →
    l.project.recipe.Declares s.host l.project.selection.configuration →
      let found := (Project.refresh s.workspace.provider s.workspace.resolver).apply
        ⟨s.host, l.project⟩
      let paths := found.2.project.paths
      t.workspace.projects[index]? = some { l with project := { l.project with paths := paths } } ∧
        (found.1 ≠ .error .interrupted → found.1 = .ok paths.hasPaths ∧
          t.workspace.finished = s.workspace.finished ++ [⟨ticket, .ok (.hasPaths paths.hasPaths)⟩])

/-- What a job leaves behind is what its work leaves behind, and its outcome, unless it is
interrupted. -/
lemma runJob_update_apply (ticket : Nat) (hl : s.workspace.projects[index]? = some l) :
    let found := (Project.refresh s.workspace.provider s.workspace.resolver).apply
      ⟨s.host, l.project⟩
    let t := ((runJob ⟨ticket, .update index⟩).apply s).2
    t.workspace.projects = (s.putProject index found.2).workspace.projects ∧
      (found.1 ≠ .error .interrupted →
        t.workspace.finished = s.workspace.finished ++ [⟨ticket, found.1.map .hasPaths⟩]) := by
  simp only [runJob, Act.apply_bind, Act.apply_outcome, perform_update_apply hl]
  rcases (Project.refresh s.workspace.provider s.workspace.resolver).apply
    ⟨s.host, l.project⟩ with ⟨e | x, v⟩
  · cases e <;> first | exact ⟨rfl, fun _ => rfl⟩ | exact ⟨rfl, fun h => absurd rfl h⟩
  · exact ⟨rfl, fun _ => rfl⟩

/-- **The job of an update.**  Whenever it runs, it finds the paths for what is selected then, in
the recipe that the project has then. -/
theorem recomputes_runJob (s : Session) (ticket index : Nat) :
    s.Recomputes ((runJob ⟨ticket, .update index⟩).apply s).2 ticket index where
  selections :=
    runJob_preserves ofProjects_selections refresh_preserves_selections _ s rfl
  paths := by
    intro l hl hd found paths
    obtain ⟨hprojects, hfinished⟩ := runJob_update_apply ticket hl
    have hrefresh := Project.project_refresh s.workspace.provider s.workspace.resolver
      ⟨s.host, l.project⟩
    refine ⟨?_, fun hne => ?_⟩
    · rw [hprojects, projects_putProject hl, hrefresh]
    · have hfound : found.1 = .ok paths.hasPaths := Project.fst_refresh_of_declares hd hne
      refine ⟨hfound, (hfinished hne).trans ?_⟩
      rw [show ((Project.refresh s.workspace.provider s.workspace.resolver).apply
        ⟨s.host, l.project⟩).1 = _ from hfound]
      rfl

lemma recomputes_runQueued {i : Nat} (hjob : s.workspace.queue[i]? = some ⟨ticket, .update index⟩) :
    s.Recomputes ((runQueued i).apply s).2 ticket index := by
  rw [runQueued_leaves hjob]
  exact ⟨(recomputes_runJob (s.withoutJob i) ticket index).selections,
    (recomputes_runJob (s.withoutJob i) ticket index).paths⟩

/-! ## Updates -/

/-- The recipe of a project has been read again and a ticket has been given out.  Nothing else has
changed, but for the log. -/
structure Rereads (s t : Session) (recipe : Recipe) (index : Nat) : Prop where
  host : s.host.SameButLog t.host
  workspace : t.workspace = { s.workspace with
    projects := s.workspace.projects.modify index fun l =>
      { l with project := { l.project with recipe := recipe } }
    tickets := s.workspace.tickets + 1 }

/-- Updates change nothing that is selected, and a recipe that cannot be loaded changes nothing at
all. -/
structure UpdatesSafely (s : Session) : Prop where
  of_error : ∀ e, Recipe.load s.host (Path.ofLocation s.workspace.directory) = .error e →
    ∃ t, update.apply s = (.ok (s.workspace.tickets + 1), t) ∧ s.FailsAlone t e
  /-- What is selected stays, also when the job runs, until someone selects something else. -/
  selections : ∀ ops : List Operation, (∀ op ∈ ops, ¬ op.Selects) →
    ((update.apply s).2.answers ops).2.selections = s.selections
  /-- A recipe that has been loaded replaces the old one.  Then the job waits, or it runs at
  once. -/
  of_ok : ∀ recipe index l,
    Recipe.load s.host (Path.ofLocation s.workspace.directory) = .ok recipe →
      s.workspace.current = some index → s.workspace.projects[index]? = some l →
        ∃ t, s.Rereads t recipe index ∧
          (s.workspace.deferred = true → update.apply s = (.ok (s.workspace.tickets + 1),
            t.enqueued ⟨s.workspace.tickets + 1, .update index⟩)) ∧
          (s.workspace.deferred = false →
            t.Recomputes (update.apply s).2 (s.workspace.tickets + 1) index)
  /-- Whatever is done before it runs, a job that waits finds the paths that belong to what is there
  when it runs. -/
  background : ∀ (ops : List Operation) (i ticket index : Nat),
    let t := ((update.apply s).2.answers ops).2
    t.workspace.queue[i]? = some ⟨ticket, .update index⟩ →
      t.Recomputes ((runQueued i).apply t).2 ticket index

lemma rereads_reread (hl : s.workspace.projects[index]? = some l) (recipe : Recipe)
    (log : List Note) :
    s.Rereads (s.reread index { l.project with recipe := recipe } log) recipe index := by
  have hprojects : s.workspace.projects.modify index
        (fun k => { k with project := { l.project with recipe := recipe } }) =
      s.workspace.projects.modify index
        (fun k => { k with project := { k.project with recipe := recipe } }) := by
    refine List.ext_getElem? fun i => ?_
    rw [List.getElem?_modify, List.getElem?_modify]
    split
    · rename_i heq
      rw [← heq, hl]
      rfl
    · rfl
  refine ⟨⟨log, rfl⟩, ?_⟩
  rw [← hprojects]
  rfl

/-- An update whose recipe has been loaded leaves its job, or it runs it at once. -/
lemma update_of_ok {recipe : Recipe}
    (hload : Recipe.load s.host (Path.ofLocation s.workspace.directory) = .ok recipe)
    (hc : s.workspace.current = some index) (hl : s.workspace.projects[index]? = some l) :
    ∃ t, s.Rereads t recipe index ∧
      (s.workspace.deferred = true → update.apply s = (.ok (s.workspace.tickets + 1),
        t.enqueued ⟨s.workspace.tickets + 1, .update index⟩)) ∧
      (s.workspace.deferred = false →
        t.Recomputes (update.apply s).2 (s.workspace.tickets + 1) index) := by
  obtain ⟨log, hupdate⟩ := update_launches hload hc hl
  let t := s.reread index { l.project with recipe := recipe } log
  refine ⟨t, rereads_reread hl recipe log, fun hdeferred => ?_, fun hdeferred => ?_⟩
  · have hwaits : t.workspace.deferred = true := hdeferred
    rw [hupdate, Act.apply_bind, launch_of_deferred hwaits]
    rfl
  · have hruns : t.workspace.deferred = false := hdeferred
    have hrun := recomputes_runJob t (s.workspace.tickets + 1) index
    rw [hupdate, Act.apply_bind, launch_of_not_deferred hruns]
    rcases hjob : (runJob ⟨s.workspace.tickets + 1, .update index⟩).apply t with ⟨e | u, v⟩
    · rw [hjob] at hrun
      exact hrun
    · rw [hjob] at hrun
      exact hrun

/-- **Updates.**  An update is safe against a recipe that cannot be loaded, and it never changes
what is selected. -/
theorem updatesSafely (hp : s.workspace.provider.Discreet)
    (he : s.workspace.engine.Discreet) : s.UpdatesSafely where
  of_error _ hload := failsAlone_of_error hp he hload
  selections _ hops := (selections_answers _ hops).trans (update_preserves_selections s rfl)
  of_ok _ _ _ hload hc hl := update_of_ok hload hc hl
  background _ _ _ _ hjob := recomputes_runQueued hjob

/-! ## A sample -/

/-- The session after the startup, on a host that may have become another one. -/
def startedSession (h : Host) : Session where
  host := h
  workspace := (startup.apply namedSession).2.workspace

lemma startedSession_eq (h : Host) : startedSession h =
    ⟨h, (namedSession.begun { namedProject with paths := namedPaths }).workspace⟩ := by
  obtain ⟨v, hstartup, hproject⟩ := startup_named
  rw [startedSession, hstartup, hproject]

/-- An update fails alone if the name of the configuration is not closed any more, and it waits if
the configuration has got another name. -/
theorem updatesSafely_of_startedSession :
    let broken := startedSession (namedHost "a\"")
    let renamed := startedSession (namedHost "other")
    broken.workspace.provider.Discreet ∧ broken.workspace.engine.Discreet ∧
      (∃ t, update.apply broken = (.ok 1, t) ∧
        broken.FailsAlone t (.recipe (.sdl "/p/dub.sdl" (.unterminatedText 1)))) ∧
      ∃ t, renamed.Rereads t (namedRecipe "other") 0 ∧
        update.apply renamed = (.ok 1, t.enqueued ⟨1, .update 0⟩) := by
  have hp : (Dub.Provider.dub "dub" ["p"]).Discreet := Dub.Provider.discreet_dub _ _
  have he : (Dub.Engine.dub "dub" ["p"]).Discreet := Dub.Engine.discreet_dub _ _
  have hbroken : Recipe.load (namedHost "a\"") ⟨.slash, ["p"]⟩ =
      .error (.recipe (.sdl "/p/dub.sdl" (.unterminatedText 1))) := by
    cbv
  have hrenamed : Recipe.load (namedHost "other") ⟨.slash, ["p"]⟩ = .ok (namedRecipe "other") := by
    cbv
  let started (h : Host) : Session :=
    ⟨h, (namedSession.begun { namedProject with paths := namedPaths }).workspace⟩
  have hsafe (h : Host) : (started h).UpdatesSafely := updatesSafely hp he
  dsimp only
  rw [startedSession_eq, startedSession_eq]
  refine ⟨hp, he, (hsafe _).of_error _ hbroken, ?_⟩
  obtain ⟨t, hrereads, hwaits, -⟩ := (hsafe (namedHost "other")).of_ok _ _ _ hrenamed rfl rfl
  exact ⟨t, hrereads, hwaits rfl⟩

end Session

end DubCheck
