import DubCheck.Proofs.Workspace.Jobs
/-!
# Jobs do not see each other

A `History` is a session with a record of what has been asked for and of what has been delivered:
a `Request` keeps the session in which it was made, and a `Completion` the sessions before and after
the step in which an outcome was delivered.  The record is read off the sessions and the tickets
alone, and no operation sees it.

In every history each request is waiting or has been completed, once.  What a completion delivers,
and which runs of dub were made for it, is the effect of its own request: of what was selected when
it was made, and of what the host says when its job runs.

* `History.Invariant.after`: what one step preserves.
* `History.isolated_of_steps`: this is so after all steps, in any order.
-/

namespace DubCheck

/-- What a listener is told of an outcome: what went wrong, and the result. -/
def Delivery.told (d : Delivery) : Option Failure × Option Outcome :=
  match d.outcome with
  | .error e => (some e, none)
  | .ok result => (none, some result)

/-! ## Requests and histories -/

/-- What can be asked for. -/
inductive Kind where
  /-- A build. -/
  | build
  /-- Finding the paths again after reading the recipe again. -/
  | update
  /-- The packages that take part in the project. -/
  | dependencies

/-- Ask for something; the result is the ticket. -/
def Kind.ask : Kind → Act Session Nat
  | .build => Session.build
  | .update => Session.update
  | .dependencies => Session.dependencies

/-- Something that was asked for. -/
structure Request where
  ticket : Nat
  kind : Kind
  /-- The session in which it was asked for. -/
  asked : Session

/-- What has to come of a request when its work is done in a session.  Builds and listings are about
what was selected when they were asked for, and they go as in a session in which nothing else has
ever been done.  An update is about the project that was the current one; if its recipe could not be
read again, nothing is run and it fails for that reason. -/
def Request.HasEffect (r : Request) (s : Session) (effect : Effect) : Prop :=
  match r.kind with
  | .build =>
    ∃ selection, r.asked.selection? = some selection ∧ effect = s.renewed.buildEffect selection
  | .dependencies =>
    ∃ selection, r.asked.selection? = some selection ∧ effect = s.renewed.describeEffect selection
  | .update =>
    match r.asked.reloaded with
    | .error e => effect = ⟨[], .error e⟩
    | .ok index => effect = s.updateEffect index

/-- An outcome that was delivered. -/
structure Completion where
  delivery : Delivery
  /-- The session before the step in which it was delivered. -/
  before : Session
  /-- The session after that step. -/
  after : Session

/-- A completion is the effect of a request. -/
def Request.Gives (r : Request) (c : Completion) : Prop :=
  ∃ effect, r.HasEffect c.before effect ∧ c.delivery.outcome = effect.outcome ∧
    c.after.host.runs = c.before.host.runs ++ effect.runs

/-- A session, and what has been asked for and delivered. -/
structure History where
  session : Session
  requests : List Request := []
  completions : List Completion := []

/-- One step of a run. -/
inductive Step where
  /-- The project is loaded. -/
  | startup
  /-- The project is let go. -/
  | stop
  /-- The recipe is read again. -/
  | restart
  /-- A value is selected. -/
  | select (pick : Pick)
  /-- Something is asked for. -/
  | ask (kind : Kind)
  /-- The job at a place in the queue runs. -/
  | run (index : Nat)
  /-- Something changes around the workspace. -/
  | change (f : Host → Host)

/-- Nobody interrupts dub, also if it changes. -/
def Step.Quiet : Step → Prop
  | .change f => ∀ h : Host, h.Quiet → (f h).Quiet
  | _ => True

namespace History

/-- The history goes on with a session; the outcomes that are new in it are recorded. -/
def reach (x : History) (requests : List Request) (t : Session) : History where
  session := t
  requests := x.requests ++ requests
  completions := x.completions ++
    (t.workspace.finished.drop x.session.workspace.finished.length).map fun d => ⟨d, x.session, t⟩

/-- The history after a step. -/
def after (x : History) : Step → History
  | .startup => x.reach [] (Session.startup.apply x.session).2
  | .stop => x.reach [] (Session.stop.apply x.session).2
  | .restart => x.reach [] (Session.restart.apply x.session).2
  | .select pick => x.reach [] ((Session.select pick).apply x.session).2
  | .ask kind =>
    match kind.ask.apply x.session with
    | (.ok ticket, t) => x.reach [⟨ticket, kind, x.session⟩] t
    | (.error _, t) => x.reach [] t
  | .run index => x.reach [] ((Session.runQueued index).apply x.session).2
  | .change f => x.reach [] { x.session with host := f x.session.host }

/-- Every request is waiting or has been completed, once, and completions are the effects of their
requests. -/
structure Isolated (x : History) : Prop where
  /-- No two requests have the same ticket. -/
  distinct : (x.requests.map (·.ticket)).Nodup
  /-- The tickets in the queue and those of the completions are those of the requests. -/
  accounted : (x.session.workspace.queue.map (·.ticket) ++
    x.completions.map (·.delivery.ticket)).Perm (x.requests.map (·.ticket))
  /-- All that has been delivered is in the record. -/
  delivered : x.session.workspace.finished = x.completions.map (·.delivery)
  /-- What is delivered for a request is its effect. -/
  completed : ∀ c ∈ x.completions, ∃ r ∈ x.requests, r.ticket = c.delivery.ticket ∧ r.Gives c
  /-- Listeners are told what went wrong or the result, and not both. -/
  told : ∀ c ∈ x.completions, c.delivery.told.1.isSome ≠ c.delivery.told.2.isSome

end History

/-! ## Requests and their jobs -/

/-- The work of a job is what its request asks for. -/
def Request.Asks (r : Request) (work : Work) : Prop :=
  match r.kind, work with
  | .build, .build _ selection => r.asked.selection? = some selection ∧ selection.archType ≠ ""
  | .update, .update index => r.asked.reloaded = .ok index
  | .dependencies, .describe settings =>
    ∃ selection, r.asked.selection? = some selection ∧ settings.Carries selection ∧
      selection.archType ≠ ""
  | _, _ => False

/-- Whatever session it is done in, the work of a request has the effect that has to come of it. -/
lemma Request.Asks.realizes {r : Request} {work : Work} (h : r.Asks work) {s : Session}
    (hs : s.Regular) : ∃ effect, r.HasEffect s effect ∧ s.Realizes work effect := by
  obtain ⟨ticket, kind, asked⟩ := r
  cases kind <;> cases work <;> try exact h.elim
  case build.build number selection =>
    exact ⟨_, ⟨selection, h.1, (s.buildEffect_renewed selection).symm⟩,
      Session.realizes_build hs number h.2⟩
  case update.update index =>
    refine ⟨s.updateEffect index, ?_, Session.realizes_update hs index⟩
    have hreloaded : asked.reloaded = .ok index := h
    simp only [HasEffect, hreloaded]
  case dependencies.describe settings =>
    obtain ⟨selection, hselection, hcarries, ha⟩ := h
    exact ⟨_, ⟨selection, hselection, (s.describeEffect_renewed selection).symm⟩,
      Session.realizes_describe hs hcarries ha⟩

/-- What has to come of a request does not depend on the jobs that wait. -/
lemma Request.hasEffect_withoutJob {r : Request} {s : Session} {index : Nat} {effect : Effect}
    (h : r.HasEffect (s.withoutJob index) effect) : r.HasEffect s effect :=
  h

lemma Delivery.told_ne (d : Delivery) : d.told.1.isSome ≠ d.told.2.isSome := by
  rw [told]
  cases d.outcome <;> simp

namespace Session

lemma archType_ne_empty {s : Session} (hs : s.Regular) {selection : Selection}
    (h : s.selection? = some selection) : selection.archType ≠ "" := by
  obtain ⟨loaded, hl, rfl⟩ := Option.map_eq_some_iff.mp h
  obtain ⟨index, -, hindex⟩ := Option.bind_eq_some_iff.mp hl
  exact hs.archTypes loaded (List.mem_of_getElem? hindex)

end Session

/-! ## What steps preserve -/

namespace History

/-- What holds of a history and makes it isolated: the jobs that wait are those of requests. -/
structure Invariant (x : History) : Prop where
  regular : x.session.Regular
  deferred : x.session.workspace.deferred = true
  bounded : ∀ r ∈ x.requests, r.ticket ≤ x.session.workspace.tickets
  waiting : ∀ job ∈ x.session.workspace.queue, ∃ r ∈ x.requests, r.ticket = job.ticket ∧
    r.Asks job.work
  isolated : x.Isolated

variable {x : History} {t : Session}

lemma reach_of_finished (requests : List Request)
    (h : t.workspace.finished = x.session.workspace.finished) :
    x.reach requests t = ⟨t, x.requests ++ requests, x.completions⟩ := by
  simp [reach, h]

lemma reach_of_delivered (requests : List Request) {d : Delivery}
    (h : t.workspace.finished = x.session.workspace.finished ++ [d]) :
    x.reach requests t =
      ⟨t, x.requests ++ requests, x.completions ++ [⟨d, x.session, t⟩]⟩ := by
  simp [reach, h]

/-- Nothing is asked for and no job runs. -/
lemma Invariant.stay (hx : x.Invariant) (ht : t.Regular)
    (hwork : t.workspace.deferred = x.session.workspace.deferred ∧
      t.workspace.queue = x.session.workspace.queue ∧
      t.workspace.tickets = x.session.workspace.tickets ∧
      t.workspace.finished = x.session.workspace.finished) : (x.reach [] t).Invariant := by
  obtain ⟨hdeferred, hqueue, htickets, hfinished⟩ := hwork
  rw [reach_of_finished [] hfinished, List.append_nil]
  refine ⟨ht, hdeferred.trans hx.deferred, ?_, ?_, hx.isolated.distinct, ?_, ?_,
    hx.isolated.completed, hx.isolated.told⟩
  · dsimp only
    rw [htickets]
    exact hx.bounded
  · dsimp only
    rw [hqueue]
    exact hx.waiting
  · dsimp only
    rw [hqueue]
    exact hx.isolated.accounted
  · exact hfinished.trans hx.isolated.delivered

lemma Invariant.keep (hx : x.Invariant) (h : x.session.Keeps t) : (x.reach [] t).Invariant :=
  hx.stay (hx.regular.keeps h) ⟨h.deferred, h.queue, h.tickets, h.finished⟩

/-- A new ticket is none of those that have been given out. -/
lemma Invariant.distinct_concat (hx : x.Invariant) {r : Request}
    (hr : r.ticket = x.session.workspace.tickets + 1) :
    ((x.requests ++ [r]).map (·.ticket)).Nodup := by
  rw [List.map_append, List.map_singleton, hr]
  refine List.nodup_append.mpr ⟨hx.isolated.distinct, List.nodup_singleton _, ?_⟩
  rintro _ hq _ hn rfl
  obtain ⟨q, hq, heq⟩ := List.mem_map.mp hq
  have := hx.bounded q hq
  rw [List.mem_singleton.mp hn] at heq
  omega

lemma Invariant.bounded_concat (hx : x.Invariant) {r : Request}
    (hr : r.ticket = x.session.workspace.tickets + 1) :
    ∀ q ∈ x.requests ++ [r], q.ticket ≤ x.session.workspace.tickets + 1 := by
  intro q hq
  rcases List.mem_append.mp hq with hq | hq
  · exact (hx.bounded q hq).trans (Nat.le_succ _)
  · rw [List.mem_singleton.mp hq, hr]

lemma Invariant.waiting_append (hx : x.Invariant) (requests : List Request) :
    ∀ job ∈ x.session.workspace.queue, ∃ r ∈ x.requests ++ requests, r.ticket = job.ticket ∧
      r.Asks job.work := by
  intro job hjob
  obtain ⟨r, hr, hasks⟩ := hx.waiting job hjob
  exact ⟨r, List.mem_append_left _ hr, hasks⟩

lemma Isolated.completed_append (hx : x.Isolated) (requests : List Request) :
    ∀ c ∈ x.completions, ∃ r ∈ x.requests ++ requests, r.ticket = c.delivery.ticket ∧
      r.Gives c := by
  intro c hc
  obtain ⟨r, hr, hgives⟩ := hx.completed c hc
  exact ⟨r, List.mem_append_left _ hr, hgives⟩

/-- What is asked for waits in the queue. -/
lemma Invariant.enqueue (hx : x.Invariant) {r : Request} {work : Work}
    (hr : r.ticket = x.session.workspace.tickets + 1) (hasks : r.Asks work)
    (h : (x.session.withTicket.enqueued ⟨x.session.workspace.tickets + 1, work⟩).Keeps t) :
    (x.reach [r] t).Invariant := by
  have hqueue : t.workspace.queue = x.session.workspace.queue ++
    [⟨x.session.workspace.tickets + 1, work⟩] := h.queue
  have htickets : t.workspace.tickets = x.session.workspace.tickets + 1 := h.tickets
  have hfinished : t.workspace.finished = x.session.workspace.finished := h.finished
  have haccounted : (t.workspace.queue.map (·.ticket) ++
      x.completions.map (·.delivery.ticket)).Perm ((x.requests ++ [r]).map (·.ticket)) := by
    rw [hqueue, List.map_append, List.map_append, List.map_singleton, List.map_singleton, hr,
      List.append_assoc]
    refine (List.perm_append_comm.append_left _).trans ?_
    rw [← List.append_assoc]
    exact hx.isolated.accounted.append_right _
  rw [reach_of_finished [r] hfinished]
  refine ⟨(hx.regular.withTicket.enqueued _).keeps h, h.deferred.trans hx.deferred, ?_, ?_,
    hx.distinct_concat hr, haccounted, hfinished.trans hx.isolated.delivered,
    hx.isolated.completed_append [r], hx.isolated.told⟩
  · dsimp only
    rw [htickets]
    exact hx.bounded_concat hr
  · dsimp only
    rw [hqueue, List.forall_mem_append, List.forall_mem_singleton]
    exact ⟨hx.waiting_append [r], r, List.mem_append_right _ List.mem_cons_self, hr, hasks⟩

/-- What is asked for fails at once. -/
lemma Invariant.fail (hx : x.Invariant) {r : Request} {e : Failure}
    (hr : r.ticket = x.session.workspace.tickets + 1)
    (heffect : r.HasEffect x.session ⟨[], .error e⟩)
    (h : (x.session.withTicket.delivered ⟨x.session.workspace.tickets + 1, .error e⟩).Keeps t)
    (hruns : t.host.runs = x.session.host.runs) : (x.reach [r] t).Invariant := by
  have hqueue : t.workspace.queue = x.session.workspace.queue := h.queue
  have htickets : t.workspace.tickets = x.session.workspace.tickets + 1 := h.tickets
  have hfinished : t.workspace.finished = x.session.workspace.finished ++
    [⟨x.session.workspace.tickets + 1, .error e⟩] := h.finished
  have hgives : r.Gives ⟨⟨x.session.workspace.tickets + 1, .error e⟩, x.session, t⟩ :=
    ⟨_, heffect, rfl, by rw [hruns, List.append_nil]⟩
  rw [reach_of_delivered [r] hfinished]
  refine ⟨(hx.regular.withTicket.delivered _).keeps h, h.deferred.trans hx.deferred, ?_, ?_,
    hx.distinct_concat hr, ?_, ?_, ?_, ?_⟩
  · dsimp only
    rw [htickets]
    exact hx.bounded_concat hr
  · dsimp only
    rw [hqueue]
    exact hx.waiting_append [r]
  · dsimp only
    rw [hqueue, List.map_append, List.map_append, List.map_singleton, List.map_singleton, hr,
      ← List.append_assoc]
    exact hx.isolated.accounted.append_right _
  · dsimp only
    rw [hfinished, hx.isolated.delivered, List.map_append, List.map_singleton]
  · rw [List.forall_mem_append, List.forall_mem_singleton]
    exact ⟨hx.isolated.completed_append [r], r, List.mem_append_right _ List.mem_cons_self, hr,
      hgives⟩
  · rw [List.forall_mem_append, List.forall_mem_singleton]
    exact ⟨hx.isolated.told, Delivery.told_ne _⟩

/-- A queued job runs. -/
lemma Invariant.run (hx : x.Invariant) (index : Nat) :
    (x.reach [] ((Session.runQueued index).apply x.session).2).Invariant := by
  cases hjob : x.session.workspace.queue[index]? with
  | none =>
    rw [Session.runQueued_of_none hjob]
    exact hx.keep (Session.frame.refl _)
  | some job =>
    obtain ⟨t, hrun, h, hruns⟩ := Session.runQueued_apply hx.regular hjob
    obtain ⟨r, hr, hticket, hasks⟩ := hx.waiting job (List.mem_of_getElem? hjob)
    obtain ⟨effect, heffect, hrealizes⟩ := hasks.realizes (hx.regular.withoutJob index)
    have hqueue : t.workspace.queue = x.session.workspace.queue.eraseIdx index := h.queue
    have htickets : t.workspace.tickets = x.session.workspace.tickets := h.tickets
    have hfinished : t.workspace.finished = x.session.workspace.finished ++
      [⟨job.ticket, _⟩] := h.finished
    -- The job still asks for what its request asked for, so its outcome is one of that request.
    have hgives : r.Gives ⟨⟨job.ticket, ((Session.perform job.work).apply
        (x.session.withoutJob index)).1⟩, x.session, t⟩ :=
      ⟨effect, Request.hasEffect_withoutJob heffect, hrealizes.outcome, hruns.trans hrealizes.runs⟩
    have hperm : (job :: x.session.workspace.queue.eraseIdx index).Perm
        x.session.workspace.queue := by
      obtain ⟨hlt, rfl⟩ := List.getElem?_eq_some_iff.mp hjob
      exact List.getElem_cons_eraseIdx_perm hlt
    rw [hrun]
    dsimp only
    rw [reach_of_delivered [] hfinished, List.append_nil]
    refine ⟨((hx.regular.withoutJob index).delivered _).keeps h, h.deferred.trans hx.deferred,
      ?_, ?_, hx.isolated.distinct, ?_, ?_, ?_, ?_⟩
    · dsimp only
      rw [htickets]
      exact hx.bounded
    · dsimp only
      rw [hqueue]
      exact fun other hother => hx.waiting other (List.mem_of_mem_eraseIdx hother)
    · -- The ticket of the job goes from the queue to the deliveries.
      dsimp only
      rw [hqueue, List.map_append, List.map_singleton]
      refine List.Perm.trans ?_ hx.isolated.accounted
      rw [← List.append_assoc]
      refine List.perm_append_comm.trans ?_
      exact (hperm.map (·.ticket)).append_right _
    · dsimp only
      rw [hfinished, hx.isolated.delivered, List.map_append, List.map_singleton]
    · rw [List.forall_mem_append, List.forall_mem_singleton]
      exact ⟨hx.isolated.completed, r, hr, hticket, hgives⟩
    · rw [List.forall_mem_append, List.forall_mem_singleton]
      exact ⟨hx.isolated.told, Delivery.told_ne _⟩

/-- Something is asked for. -/
lemma Invariant.ask (hx : x.Invariant) (kind : Kind) : (x.after (.ask kind)).Invariant := by
  have hdeferred := hx.deferred
  -- Work that begins waits in the queue here.
  have hbegins : ∀ {work : Work} {t : Session}, x.session.Begins work t →
      (x.session.withTicket.enqueued ⟨x.session.workspace.tickets + 1, work⟩).Keeps t := by
    rintro work t (⟨-, h⟩ | ⟨hnot, -⟩)
    · exact h
    · rw [hdeferred] at hnot
      cases hnot
  cases kind with
  | build =>
    rcases Session.build_apply hx.regular with ⟨e, -, h⟩ | ⟨number, selection, t, hs, h, hbegin⟩
    · simp only [after, Kind.ask, h]
      exact hx.keep (Session.frame.refl _)
    · simp only [after, Kind.ask, h]
      refine hx.enqueue rfl ?_ (hbegins hbegin)
      exact ⟨hs, Session.archType_ne_empty hx.regular hs⟩
  | dependencies =>
    rcases Session.dependencies_apply hx.regular with
      ⟨e, -, h⟩ | ⟨settings, selection, t, hs, hcarries, h, hbegin⟩
    · simp only [after, Kind.ask, h]
      exact hx.keep (Session.frame.refl _)
    · simp only [after, Kind.ask, h]
      refine hx.enqueue rfl ?_ (hbegins hbegin)
      exact ⟨selection, hs, hcarries, Session.archType_ne_empty hx.regular hs⟩
  | update =>
    obtain ⟨t, h, hbegin⟩ := Session.update_apply hx.regular
    simp only [after, Kind.ask, h]
    cases hr : x.session.reloaded with
    | error e =>
      rw [hr] at hbegin
      refine hx.fail rfl ?_ hbegin.1 hbegin.2
      simp only [Request.HasEffect, hr]
    | ok index =>
      rw [hr] at hbegin
      refine hx.enqueue rfl ?_ (hbegins hbegin)
      exact hr

/-- Every step preserves the invariant. -/
theorem Invariant.after (hx : x.Invariant) {step : Step} (hstep : step.Quiet) :
    (x.after step).Invariant := by
  cases step with
  | startup => exact hx.keep (Session.startup_sound _ hx.regular).2
  | stop => exact hx.keep (Session.stop_sound _ hx.regular).2
  | restart => exact hx.keep (Session.restart_sound _ hx.regular).2
  | select pick => exact hx.keep (Session.select_sound pick _ hx.regular).2
  | ask kind => exact hx.ask kind
  | run index => exact hx.run index
  | change f =>
    have h := hx.regular
    exact hx.stay ⟨hstep _ h.quiet, h.provider, h.engine, h.archTypes⟩ ⟨rfl, rfl, rfl, rfl⟩

end History

/-! ## Isolation -/

/-- A workspace that asks dub and in which nothing has happened yet; jobs wait until they are told
to run. -/
structure Session.Fresh (s : Session) : Prop where
  quiet : s.host.Quiet
  provider : s.workspace.provider = .dub s.workspace.settings.dub s.workspace.directory
  engine : s.workspace.engine = .dub s.workspace.settings.dub s.workspace.directory
  deferred : s.workspace.deferred = true
  projects : s.workspace.projects = []
  queue : s.workspace.queue = []
  finished : s.workspace.finished = []

lemma Session.Fresh.invariant {s : Session} (hs : s.Fresh) : (⟨s, [], []⟩ : History).Invariant where
  regular := ⟨hs.quiet, hs.provider, hs.engine, by simp [hs.projects]⟩
  deferred := hs.deferred
  bounded := by simp
  waiting := by simp [hs.queue]
  isolated := ⟨List.nodup_nil, by simp [hs.queue], hs.finished, by simp, by simp⟩

/-- Whatever is done with a workspace and in whichever order its jobs run, each request is completed
once, by an outcome that comes of its own runs of dub, made with what was selected when it was
made. -/
theorem History.isolated_of_steps {s : Session} (hs : s.Fresh) {steps : List Step}
    (hsteps : ∀ step ∈ steps, step.Quiet) :
    (steps.foldl History.after ⟨s, [], []⟩).Isolated := by
  suffices h : ∀ x : History, x.Invariant → (steps.foldl History.after x).Invariant from
    (h _ hs.invariant).isolated
  induction steps with
  | nil => exact fun x hx => hx
  | cons step steps ih =>
    intro x hx
    rw [List.forall_mem_cons] at hsteps
    exact ih hsteps.2 _ (hx.after hsteps.1)

/-! ## A sample -/

namespace History

/-- A host with a package, a compiler and a dub that has nothing to say. -/
def sampleHost : Host where
  files := ⟨[("p", .directory [("dub.json", .file [123, 125] false)]),
    ("bin", .directory [("dmd", .file [] true)])]⟩
  directory := []
  environment := [("PATH", "/bin"), ("DFLAGS", " -g ")]
  machine := "x86_64"
  dub := fun _ => .finished [] [] 0

/-- A new session for the package. -/
def sampleSession : Session where
  host := sampleHost
  workspace := { Workspace.new ["p"]
    { homeDirectory := ⟨.slash, ["h"]⟩, dub := "dub", logLevel := "INFO",
      preferredCompiler := none } {} with deferred := true }

/-- Two builds are asked for, between which another build type is selected and the recipe changes.
The second build runs first. -/
def sampleSteps : List Step :=
  [.startup, .ask .build, .select (.buildType "release"), .change fun h => { h with files := ⟨[]⟩ },
    .ask .update, .stop, .change fun _ => sampleHost, .startup, .ask .build, .run 1, .run 0]

theorem isolated_of_sampleSteps :
    sampleSession.Fresh ∧ (∀ step ∈ sampleSteps, step.Quiet) ∧
      (sampleSteps.foldl after ⟨sampleSession, [], []⟩).Isolated := by
  have hquiet : sampleHost.Quiet := by
    rintro arguments ⟨⟩
  have hfresh : sampleSession.Fresh := ⟨hquiet, rfl, rfl, rfl, rfl, rfl, rfl⟩
  have hsteps : ∀ step ∈ sampleSteps, step.Quiet := by
    simp only [sampleSteps, List.forall_mem_cons, Step.Quiet, true_and]
    exact ⟨fun _ h => h, fun _ _ => hquiet, by simp⟩
  exact ⟨hfresh, hsteps, isolated_of_steps hfresh hsteps⟩

end History

end DubCheck
