import DubCheck.Proofs.Workspace.Operation
/-!
# Two sessions side by side

The log is only written to.  A session in which one request more has been made, and has failed at
once, therefore goes on as if that request had not been made: whatever is done in both sessions, the
answers are the same, and so are the outcomes that are delivered, but for the one of that request.

* `Host.SameButLog`, `Workbench.SameButLog`, `Session.Alongside`: what is related.
* `Operation.related`: every operation of a workspace gives the same answer on both sides.
* `Session.answers_of_alongside`: what this means for any number of operations.
-/

namespace DubCheck

open Act (Related Agree)

/-! ## Hosts -/

namespace Host

/-- The same host, but for the log. -/
def SameButLog (h k : Host) : Prop :=
  ∃ log, k = { h with log := log }

variable {h k : Host}

lemma noted_sameButLog (hk : h.SameButLog k) (level : Level) (text : String) :
    (h.noted level text).SameButLog (k.noted level text) := by
  obtain ⟨log, rfl⟩ := hk
  have hleft := @noted_eq h level text
  have hright := @noted_eq { h with log := log } level text
  rw [hleft, hright]
  exact ⟨_, rfl⟩

lemma note_related (level : Level) (text : String) :
    Related SameButLog Eq (note level text) (note level text) :=
  .modify fun _ _ hk => noted_sameButLog hk level text

lemma runDub_related (run : Dub.Run) : Related SameButLog Eq (runDub run) (runDub run) := by
  rintro h _ ⟨log, rfl⟩
  exact ⟨rfl, log, rfl⟩

lemma amendRun_related (change : Dub.Run → Dub.Run) :
    Related SameButLog Eq (amendRun change) (amendRun change) := by
  refine .modify ?_
  rintro h _ ⟨log, rfl⟩
  dsimp only
  cases h.runs.getLast? with
  | none => exact ⟨log, rfl⟩
  | some run => exact ⟨log, rfl⟩

end Host

/-! ## dub -/

namespace Dub

open Host (SameButLog)

/-- Whoever answers questions about a project does not look at the log. -/
structure Provider.Discreet (provider : Provider) : Prop where
  list : ∀ settings fields,
    Related SameButLog Eq (provider.list settings fields) (provider.list settings fields)
  describe : ∀ settings,
    Related SameButLog Eq (provider.describe settings) (provider.describe settings)

/-- Whoever builds projects does not look at the log. -/
structure Engine.Discreet (engine : Engine) : Prop where
  start : ∀ settings, Related SameButLog Eq (engine.start settings) (engine.start settings)
  kill : Related SameButLog Eq engine.kill engine.kill

variable (program : String) (directory : Location)

lemma ask_related (arguments : List String) :
    Related SameButLog Eq (ask program directory arguments) (ask program directory arguments) := by
  rintro h _ ⟨log, rfl⟩
  rw [ask_apply, ask_apply]
  exact ⟨Act.agree_refl _, log, rfl⟩

theorem Provider.discreet_dub : (Provider.dub program directory).Discreet where
  list _ _ := (ask_related program directory _).bind_eq fun _ => .ofExcept _
  describe _ := (ask_related program directory _).bind_eq fun _ => .ofExcept _

theorem Engine.discreet_dub : (Engine.dub program directory).Discreet where
  start settings := by
    refine (Host.note_related _ _).bind_eq fun _ => .get_bind ?_
    rintro h _ ⟨log, rfl⟩
    refine (Host.runDub_related _).bind_eq fun reply => ?_
    cases reply with
    | finished stdout stderr status => exact .pure rfl
    | _ => exact .throw _
  kill := Host.amendRun_related _

lemma generate_related {engine : Engine} (he : engine.Discreet) (settings : Settings) {τ : Type}
    (receive : τ → List Char → Except Failure τ) (start : τ) :
    Related SameButLog Eq (engine.generate settings receive start)
      (engine.generate settings receive start) := by
  refine (he.start settings).outcome.bind_eq fun found => ?_
  cases found with
  | error e => exact .pure rfl
  | ok transcript =>
    dsimp only
    split
    · exact he.kill.bind_eq fun _ => .pure rfl
    · exact .pure rfl

end Dub

/-! ## Projects -/

/-- The same project on the same host, but for the log. -/
def Workbench.SameButLog (w v : Workbench) : Prop :=
  w.host.SameButLog v.host ∧ v.project = w.project

lemma Workbench.SameButLog.eq {w v : Workbench} (h : w.SameButLog v) :
    ∃ log, v = { w with host := { w.host with log := log } } := by
  obtain ⟨host, project⟩ := v
  obtain ⟨⟨log, hhost⟩, hproject⟩ := h
  exact ⟨log, congrArg₂ Workbench.mk hhost hproject⟩

/-! What is read off a host does not depend on the log. -/

lemma resolve_of_log (resolver : Resolver) (h : Host) (log : List Note) (name : String) :
    resolver.resolve { h with log := log } name = resolver.resolve h name :=
  resolver.resolve_logged h log h.runs name

lemma settings_of_log (s : Selection) (resolver : Resolver) (h : Host) (log : List Note) :
    s.settings resolver { h with log := log } = s.settings resolver h := by
  rw [Selection.settings_eq, Selection.settings_eq, resolve_of_log]

lemma rejection_of_log (p : Project) (resolver : Resolver) (h : Host) (log : List Note)
    (pick : Pick) :
    p.rejection resolver { h with log := log } pick = p.rejection resolver h pick := by
  cases pick with
  | configuration name | archType name | buildType name => rfl
  | compiler name =>
    unfold Project.rejection
    dsimp only
    rw [resolve_of_log]

namespace Project

open Workbench (SameButLog)

variable {provider : Dub.Provider} (hp : provider.Discreet) (resolver : Resolver)

lemma note_related (level : Level) (text : String) :
    Related SameButLog Eq (Workbench.note level text) (Workbench.note level text) :=
  .modify fun _ _ h => ⟨Host.noted_sameButLog h.1 level text, h.2⟩

lemma onHost_related {α : Type} {a b : Act Host α} (h : Related Host.SameButLog Eq a b) :
    Related SameButLog Eq (Workbench.onHost a) (Workbench.onHost b) :=
  h.onPart (fun _ _ h => h.1) fun _ _ _ _ h hhost => ⟨hhost, h.2⟩

lemma validate_related : Related SameButLog Eq validate validate := by
  refine .get_bind fun w v h => ?_
  obtain ⟨log, rfl⟩ := h.eq
  exact .ofExcept _

lemma setPaths_related (paths : PathSet) :
    Related SameButLog Eq (setPaths paths) (setPaths paths) :=
  .modify fun _ _ h => ⟨h.1, by rw [h.2]⟩

include hp

lemma queryPaths_related :
    Related SameButLog Eq (queryPaths provider resolver) (queryPaths provider resolver) := by
  refine .get_bind fun w v h => ?_
  obtain ⟨log, rfl⟩ := h.eq
  dsimp only
  rw [settings_of_log w.project.selection resolver w.host log]
  exact .bind_eq (.ofExcept _) fun settings => (onHost_related (hp.list _ _)).bind_eq fun _ =>
    .ofExcept _

lemma refresh_related :
    Related SameButLog Eq (refresh provider resolver) (refresh provider resolver) := by
  refine validate_related.bind_eq fun _ => (queryPaths_related hp resolver).outcome.bind_eq
    fun found => ?_
  cases found with
  | error e =>
    exact (note_related _ _).bind_eq fun _ => (setPaths_related _).bind_eq fun _ => .pure rfl
  | ok paths =>
    refine (setPaths_related paths).bind_eq fun _ => .get_bind fun w v h => ?_
    rw [h.2]
    exact (note_related _ _).bind_eq fun _ => .pure rfl

lemma select_related (pick : Pick) :
    Related SameButLog Eq (select provider resolver pick) (select provider resolver pick) := by
  refine .get_bind fun w v h => ?_
  obtain ⟨log, rfl⟩ := h.eq
  dsimp only
  rw [rejection_of_log w.project resolver w.host log pick]
  refine .bind_eq (.ofExcept _) fun reason => ?_
  cases reason with
  | some text => exact (note_related _ _).bind_eq fun _ => .pure rfl
  | none =>
    have hset : Related SameButLog Eq
        (modify fun w : Workbench => { w with
          project := { w.project with selection := w.project.selection.set pick } } :
          Act Workbench Unit)
        (modify fun w : Workbench => { w with
          project := { w.project with selection := w.project.selection.set pick } }) :=
      .modify fun _ _ h => ⟨h.1, by rw [h.2]⟩
    have hrest := hset.bind_eq fun _ => refresh_related hp resolver
    dsimp only
    split
    · exact validate_related.bind_eq fun _ => hrest
    · exact hrest

omit hp

lemma reload_related (recipe : Recipe) : Related SameButLog Eq (reload recipe) (reload recipe) :=
  .modify fun _ _ h => ⟨h.1, by rw [h.2]⟩

end Project

/-! ## Sessions -/

namespace Session

/-- Tickets that belong to the same request in two sessions, one of which has given out one more
since it was `x`: those of the jobs that waited then are the same, and later ones are one apart. -/
def SameRequest (x : Session) (n m : Nat) : Prop :=
  m = n ∧ n ∈ x.workspace.queue.map (·.ticket) ∨ m = n + 1 ∧ x.workspace.tickets < n

/-- The same job. -/
def SameJob (x : Session) (j k : Job) : Prop :=
  k.work = j.work ∧ x.SameRequest j.ticket k.ticket

/-- The same outcome of the same request. -/
def SameDelivery (x : Session) (d c : Delivery) : Prop :=
  c.outcome = d.outcome ∧ x.SameRequest d.ticket c.ticket

/-- Two sessions that were `x` and go on in the same way, although in the second one a request was
made then that failed at once. -/
structure Alongside (x : Session) (e : Failure) (s t : Session) : Prop where
  host : s.host.SameButLog t.host
  workspace : t.workspace = { s.workspace with
    queue := t.workspace.queue
    tickets := s.workspace.tickets + 1
    finished := t.workspace.finished }
  provider : s.workspace.provider.Discreet
  engine : s.workspace.engine.Discreet
  later : x.workspace.tickets ≤ s.workspace.tickets
  queue : List.Forall₂ x.SameJob s.workspace.queue t.workspace.queue
  finished : ∃ ds cs, s.workspace.finished = x.workspace.finished ++ ds ∧
    t.workspace.finished =
      x.workspace.finished ++ ⟨x.workspace.tickets + 1, .error e⟩ :: cs ∧
    List.Forall₂ x.SameDelivery ds cs

variable {x s t : Session} {e : Failure} {α : Type}

lemma Alongside.eq (h : Alongside x e s t) : ∃ log queue finished, t =
    ⟨{ s.host with log := log }, { s.workspace with
      queue := queue, tickets := s.workspace.tickets + 1, finished := finished }⟩ := by
  obtain ⟨host, workspace⟩ := t
  obtain ⟨log, hhost⟩ := h.host
  exact ⟨log, workspace.queue, workspace.finished, congrArg₂ Session.mk hhost h.workspace⟩

/-! ### What is done at once -/

lemma onHost_related {a b : Act Host α} (h : Related Host.SameButLog Eq a b) :
    Related (Alongside x e) Eq (onHost a) (onHost b) :=
  h.onPart (fun _ _ h => h.host) fun _ _ _ _ h hhost =>
    ⟨hhost, h.workspace, h.provider, h.engine, h.later, h.queue, h.finished⟩

lemma note_related (level : Level) (text : String) :
    Related (Alongside x e) Eq (note level text) (note level text) :=
  onHost_related (Host.note_related level text)

lemma onProject_related (index : Nat) {a b : Act Workbench α}
    (hab : Related Workbench.SameButLog Eq a b) :
    Related (Alongside x e) Eq (onProject index a) (onProject index b) := by
  intro s t h
  obtain ⟨log, queue, finished, rfl⟩ := h.eq
  simp only [onProject, Act.apply_ofFunction]
  cases s.workspace.projects[index]? with
  | none => exact ⟨rfl, h⟩
  | some l =>
    obtain ⟨hagree, hhost, hproject⟩ :=
      hab ⟨s.host, l.project⟩ ⟨{ s.host with log := log }, l.project⟩ ⟨h.host, rfl⟩
    refine ⟨hagree, hhost, ?_, h.provider, h.engine, h.later, h.queue, h.finished⟩
    simp only [putProject, hproject]

lemma currentIndex_related : Related (Alongside x e) Eq currentIndex currentIndex := by
  refine .get_bind fun s t h => ?_
  obtain ⟨log, queue, finished, rfl⟩ := h.eq
  dsimp only
  cases s.workspace.current with
  | none => exact .throw _
  | some index => exact .pure rfl

lemma onCurrent_related {a b : Act Workbench α} (hab : Related Workbench.SameButLog Eq a b) :
    Related (Alongside x e) Eq (onCurrent a) (onCurrent b) :=
  currentIndex_related.bind_eq fun index => onProject_related index hab

lemma project_related : Related (Alongside x e) Eq project project :=
  onCurrent_related <| .get_bind fun w v h => by
    rw [h.2]
    exact .pure rfl

lemma emit_related (event : Document) : Related (Alongside x e) Eq (emit event) (emit event) := by
  refine .modify fun s t h => ?_
  obtain ⟨log, queue, finished, rfl⟩ := h.eq
  dsimp only
  split
  · exact ⟨h.host, rfl, h.provider, h.engine, h.later, h.queue, h.finished⟩
  · exact h

lemma loadRecipe_related : Related (Alongside x e) Eq loadRecipe loadRecipe := by
  refine .get_bind fun s t h => ?_
  obtain ⟨log, queue, finished, rfl⟩ := h.eq
  exact .ofExcept _

lemma platformOf_related (compiler : String) :
    Related (Alongside x e) Eq (platformOf compiler) (platformOf compiler) := by
  refine .get_bind fun s t h => ?_
  obtain ⟨log, queue, finished, rfl⟩ := h.eq
  dsimp only
  rw [resolve_of_log s.workspace.resolver s.host log compiler]
  split
  · exact .pure rfl
  · exact (note_related _ _).bind_eq fun _ => .pure rfl
  · exact .throw _

lemma startup_related : Related (Alongside x e) Eq startup startup := by
  refine loadRecipe_related.bind_eq fun recipe => .get_bind fun s t h => ?_
  obtain ⟨log, queue, finished, rfl⟩ := h.eq
  dsimp only
  refine (platformOf_related _).bind_eq fun platform => .bind_eq (.ofExcept _) fun found =>
    .bind_eq (.modify fun s t h => ?_) fun _ => (note_related _ _).bind_eq fun _ =>
      .bind_eq (.ofExcept _) fun valid => ?_
  · obtain ⟨log, queue, finished, rfl⟩ := h.eq
    exact ⟨h.host, rfl, h.provider, h.engine, h.later, h.queue, h.finished⟩
  · cases valid with
    | true => exact onCurrent_related (Project.refresh_related h.provider _)
    | false =>
      exact (note_related _ _).bind_eq fun _ => (emit_related _).bind_eq fun _ => .pure rfl

lemma stop_related : Related (Alongside x e) Eq stop stop := by
  refine .modify fun s t h => ?_
  obtain ⟨log, queue, finished, rfl⟩ := h.eq
  exact ⟨h.host, rfl, h.provider, h.engine, h.later, h.queue, h.finished⟩

lemma restart_related : Related (Alongside x e) Eq restart restart :=
  loadRecipe_related.bind_eq fun recipe =>
    (onCurrent_related (Project.reload_related recipe)).bind_eq fun _ => note_related _ _

/-! ### Questions and selections -/

lemma validate_related : Related (Alongside x e) Eq validate validate :=
  onCurrent_related Project.validate_related

lemma select_related (pick : Pick) : Related (Alongside x e) Eq (select pick) (select pick) := by
  refine .get_bind fun s t h => ?_
  obtain ⟨log, queue, finished, rfl⟩ := h.eq
  exact onCurrent_related (Project.select_related h.provider _ pick)

lemma configurations_related : Related (Alongside x e) Eq configurations configurations := by
  refine project_related.bind_eq fun p => .get_bind fun s t h => ?_
  obtain ⟨log, queue, finished, rfl⟩ := h.eq
  exact .ofExcept _

lemma buildTypes_related : Related (Alongside x e) Eq buildTypes buildTypes :=
  project_related.bind_eq fun _ => .pure rfl

lemma archTypes_related : Related (Alongside x e) Eq archTypes archTypes := by
  refine project_related.bind_eq fun p => .get_bind fun s t h => ?_
  obtain ⟨log, queue, finished, rfl⟩ := h.eq
  exact .pure rfl

lemma rootDependencies_related : Related (Alongside x e) Eq rootDependencies rootDependencies :=
  validate_related.bind_eq fun _ => project_related.bind_eq fun _ => .pure rfl

/-! ### Jobs -/

lemma runCheck_related (selection : Selection) :
    Related (Alongside x e) Eq (runCheck selection) (runCheck selection) := by
  refine .get_bind fun s t h => ?_
  obtain ⟨log, queue, finished, rfl⟩ := h.eq
  dsimp only
  rw [settings_of_log selection s.workspace.resolver s.host log]
  refine .bind_eq (.ofExcept _) fun settings =>
    (onHost_related (Dub.generate_related h.engine _ _ _)).bind_eq fun heard => ?_
  split
  · exact .pure rfl
  · split
    · exact (note_related _ _).bind_eq fun _ => .pure rfl
    · exact .throw _
  · exact .throw _

lemma check_related : Related (Alongside x e) Eq check check :=
  validate_related.bind_eq fun _ => project_related.bind_eq fun p => runCheck_related p.selection

lemma perform_related (work : Work) : Related (Alongside x e) Eq (perform work) (perform work) := by
  cases work with
  | build number selection =>
    exact (runCheck_related selection).bind_eq fun _ => (note_related _ _).bind_eq fun _ =>
      .pure rfl
  | update index =>
    refine .get_bind fun s t h => ?_
    obtain ⟨log, queue, finished, rfl⟩ := h.eq
    exact (onProject_related index (Project.refresh_related h.provider _)).bind_eq fun _ =>
      .pure rfl
  | describe settings =>
    refine .get_bind fun s t h => ?_
    obtain ⟨log, queue, finished, rfl⟩ := h.eq
    exact (onHost_related (h.provider.describe settings)).bind_eq fun _ =>
      .bind_eq (.ofExcept _) fun _ => .pure rfl

lemma deliver_related {n m : Nat} (hnm : x.SameRequest n m) (outcome : Except Failure Outcome) :
    Related (Alongside x e) Eq (deliver n outcome) (deliver m outcome) := by
  refine .modify fun s t h => ?_
  refine ⟨h.host, ?_, h.provider, h.engine, h.later, h.queue, ?_⟩
  · obtain ⟨log, queue, finished, rfl⟩ := h.eq
    rfl
  · obtain ⟨ds, cs, hds, hcs, hsame⟩ := h.finished
    refine ⟨ds ++ [⟨n, outcome⟩], cs ++ [⟨m, outcome⟩], ?_, ?_, ?_⟩
    · dsimp only
      rw [hds, List.append_assoc]
    · dsimp only
      rw [hcs, List.append_assoc, List.cons_append]
    · exact List.rel_append hsame (.cons ⟨rfl, hnm⟩ .nil)

lemma runJob_related {j k : Job} (hjk : x.SameJob j k) :
    Related (Alongside x e) Eq (runJob j) (runJob k) := by
  obtain ⟨ticket, work⟩ := j
  obtain ⟨ticket', work'⟩ := k
  obtain ⟨hwork, hticket⟩ := hjk
  obtain rfl : work' = work := hwork
  refine (perform_related work').outcome.bind_eq fun outcome => ?_
  cases outcome with
  | error f => exact (note_related _ _).bind_eq fun _ => deliver_related hticket _
  | ok result => exact .bind_eq (.pure rfl) fun _ => deliver_related hticket _

lemma newTicket_related :
    Related (Alongside x e) (fun n m => x.SameRequest n m) newTicket newTicket := by
  intro s t h
  have hlater := h.later
  have htickets : t.workspace.tickets = s.workspace.tickets + 1 := by rw [h.workspace]
  rw [newTicket_apply, newTicket_apply]
  refine ⟨Or.inr ⟨by rw [htickets], by omega⟩, h.host, ?_, h.provider, h.engine, ?_, h.queue,
    h.finished⟩
  · obtain ⟨log, queue, finished, rfl⟩ := h.eq
    rfl
  · change x.workspace.tickets ≤ s.workspace.tickets + 1
    omega

lemma launch_related {n m : Nat} (hnm : x.SameRequest n m) (work : Work) :
    Related (Alongside x e) Eq (launch n work) (launch m work) := by
  refine .get_bind fun s t h => ?_
  have hdeferred : t.workspace.deferred = s.workspace.deferred := by rw [h.workspace]
  rw [hdeferred]
  split
  · refine .modify fun s t h => ?_
    refine ⟨h.host, ?_, h.provider, h.engine, h.later, ?_, h.finished⟩
    · obtain ⟨log, queue, finished, rfl⟩ := h.eq
      rfl
    · exact List.rel_append h.queue (.cons ⟨rfl, hnm⟩ .nil)
  · exact runJob_related ⟨rfl, hnm⟩

lemma runQueued_related (index : Nat) :
    Related (Alongside x e) Eq (runQueued index) (runQueued index) := by
  refine .get_bind fun s t h => ?_
  have htaken : Related (Alongside x e) Eq
      (change fun w => { w with queue := w.queue.eraseIdx index })
      (change fun w => { w with queue := w.queue.eraseIdx index }) := by
    refine .modify fun s t h => ?_
    refine ⟨h.host, ?_, h.provider, h.engine, h.later, ?_, h.finished⟩
    · obtain ⟨log, queue, finished, rfl⟩ := h.eq
      rfl
    · dsimp only
      rw [List.eraseIdx_eq_take_drop_succ, List.eraseIdx_eq_take_drop_succ]
      exact List.rel_append (List.forall₂_take _ h.queue) (List.forall₂_drop _ h.queue)
  cases hj : s.workspace.queue[index]? with
  | none =>
    have hk : t.workspace.queue[index]? = none := by
      rw [List.getElem?_eq_none_iff] at hj ⊢
      rwa [← h.queue.length_eq]
    rw [hk]
    exact .pure rfl
  | some j =>
    obtain ⟨k, hk, hjk⟩ : ∃ k, t.workspace.queue[index]? = some k ∧ x.SameJob j k := by
      obtain ⟨hlength, hget⟩ := List.forall₂_iff_get.mp h.queue
      obtain ⟨hi, rfl⟩ := List.getElem?_eq_some_iff.mp hj
      exact ⟨_, List.getElem?_eq_getElem (hlength ▸ hi), hget index hi (hlength ▸ hi)⟩
    rw [hk]
    refine htaken.bind_eq fun _ => (runJob_related hjk).bind_eq fun _ => .pure ?_
    rw [hjk.1]

/-! ### Requests -/

lemma build_related :
    Related (Alongside x e) (fun n m => x.SameRequest n m) build build := by
  refine currentIndex_related.bind_eq fun index => validate_related.bind_eq fun _ =>
    project_related.bind_eq fun p => newTicket_related.bind fun n m hnm =>
      .bind_eq (.modify fun s t h => ?_) fun _ => .get_bind fun s t h => ?_
  · obtain ⟨log, queue, finished, rfl⟩ := h.eq
    exact ⟨h.host, rfl, h.provider, h.engine, h.later, h.queue, h.finished⟩
  · obtain ⟨log, queue, finished, rfl⟩ := h.eq
    exact (note_related _ _).bind_eq fun _ => (launch_related hnm _).bind_eq fun _ => .pure hnm

lemma update_related :
    Related (Alongside x e) (fun n m => x.SameRequest n m) update update := by
  refine newTicket_related.bind fun n m hnm => restart_related.outcome.bind_eq fun outcome => ?_
  cases outcome with
  | error f =>
    exact (note_related _ _).bind_eq fun _ => (deliver_related hnm _).bind_eq fun _ => .pure hnm
  | ok u =>
    exact currentIndex_related.bind_eq fun index => (launch_related hnm _).bind_eq fun _ =>
      .pure hnm

lemma dependencies_related :
    Related (Alongside x e) (fun n m => x.SameRequest n m) dependencies dependencies := by
  refine validate_related.bind_eq fun _ => project_related.bind_eq fun p =>
    .get_bind fun s t h => ?_
  obtain ⟨log, queue, finished, rfl⟩ := h.eq
  dsimp only
  rw [settings_of_log p.selection s.workspace.resolver s.host log]
  exact .bind_eq (.ofExcept _) fun settings => newTicket_related.bind fun n m hnm =>
    (launch_related hnm _).bind_eq fun _ => .pure hnm

lemma ask_related (kind : Kind) :
    Related (Alongside x e) (fun n m => x.SameRequest n m) kind.ask kind.ask := by
  cases kind with
  | build => exact build_related
  | update => exact update_related
  | dependencies => exact dependencies_related

end Session

/-! ## Operations -/

open Session (Alongside)

variable {x s t : Session} {e : Failure}

/-- **One operation.**  Side by side every operation gives the same answer. -/
theorem Operation.related (op : Operation) : Related (Alongside x e) Eq op.call op.call := by
  cases op with
  | startup => exact Session.startup_related.bind_eq fun _ => .pure rfl
  | stop => exact Session.stop_related.bind_eq fun _ => .pure rfl
  | restart => exact Session.restart_related.bind_eq fun _ => .pure rfl
  | validate => exact Session.validate_related.bind_eq fun _ => .pure rfl
  | select pick => exact (Session.select_related pick).bind_eq fun _ => .pure rfl
  | project => exact Session.project_related.bind_eq fun _ => .pure rfl
  | configurations => exact Session.configurations_related.bind_eq fun _ => .pure rfl
  | buildTypes => exact Session.buildTypes_related.bind_eq fun _ => .pure rfl
  | archTypes => exact Session.archTypes_related.bind_eq fun _ => .pure rfl
  | rootDependencies => exact Session.rootDependencies_related.bind_eq fun _ => .pure rfl
  | check => exact Session.check_related.bind_eq fun _ => .pure rfl
  | ask kind => exact (Session.ask_related kind).bind fun _ _ _ => .pure rfl
  | run index => exact (Session.runQueued_related index).bind_eq fun _ => .pure rfl
  | move host =>
    refine .bind_eq (.modify fun s t h => ?_) fun _ => .pure rfl
    obtain ⟨log, queue, finished, rfl⟩ := h.eq
    exact ⟨⟨log, rfl⟩, rfl, h.provider, h.engine, h.later, h.queue, h.finished⟩

/-- **All operations.**  Side by side the answers are the same, however long it goes on. -/
theorem Session.answers_of_alongside (h : Alongside x e s t) (ops : List Operation) :
    (t.answers ops).1 = (s.answers ops).1 ∧ Alongside x e (s.answers ops).2 (t.answers ops).2 := by
  induction ops generalizing s t with
  | nil => exact ⟨rfl, h⟩
  | cons op ops ih =>
    obtain ⟨hagree, hafter⟩ := op.related s t h
    obtain ⟨hrest, hend⟩ := ih hafter
    exact ⟨congrArg₂ List.cons hagree.eq.symm hrest, hend⟩

end DubCheck
