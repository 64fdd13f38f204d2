import DubCheck.Proofs.Service.RoundTrip
import DubCheck.Proofs.Workspace.Jobs
import DubCheck.Service.Server
/-!
# What comes of a line

A `Reading` is a line and the session that is there when it is read.  What comes of it is known from
these two: its identifier, the answer or the ticket that its request gives, and the session
afterwards.  The server writes at most one response at once, and that response is one to this line;
it writes none if the response is nested deeper than there is room for.

* `dispatch_cases`: a request is answered at once and leaves all work alone, or it gives out the
  next ticket, under which some work has begun.
* `Server.complete_apply`: a response is written if there is room for it, and is lost otherwise.
* `Server.serveLineSafely_prompt`, `Server.serveLineSafely_later`: a line is answered at once, or
  its ticket is remembered.
* `Server.settle_apply`: an outcome is the response to the request whose ticket it has.
-/

namespace DubCheck.Service

/-! ## Requests -/

/-- An action that gives its answer at once, and leaves all work alone. -/
structure Prompt (a : Act Session Answer) : Prop where
  sound : a.Sound Session.frame
  answers : ∀ s ticket, (a.apply s).1 ≠ .ok (.later ticket)

namespace Prompt

protected lemma now {α : Type} {a : Act Session α} (ha : a.Sound Session.frame)
    (f : α → Document) : Prompt (a >>= fun x => pure (.now (f x))) where
  sound := ha.bind fun _ => .pure _
  answers s ticket := by
    rw [Act.apply_bind]
    rcases a.apply s with ⟨e | x, t⟩ <;> rintro ⟨⟩

protected lemma bind {α : Type} {a : Act Session α} {f : α → Act Session Answer}
    (ha : a.Sound Session.frame) (hf : ∀ x, Prompt (f x)) : Prompt (a >>= f) where
  sound := ha.bind fun x => (hf x).sound
  answers s ticket := by
    rw [Act.apply_bind]
    rcases a.apply s with ⟨e | x, t⟩
    · rintro ⟨⟩
    · exact (hf x).answers t ticket

end Prompt

lemma prompt_about (f : Project → Document) : Prompt (about f) :=
  .now Session.project_sound f

lemma prompt_selectArgument (r : Request) (key : String) (pick : String → Pick) :
    Prompt (selectArgument r key pick) :=
  .bind (.ofExcept (mapError_ne_interrupted (by rintro _ ⟨⟩))) fun name =>
    .now (Session.select_sound (pick name)) .bool

/-- Commands that begin no work are answered at once. -/
lemma Command.prompt_run (r : Request) {c : Command} (hc : c ≠ .update ∧ c ≠ .build ∧
    c ≠ .dependencies) : Prompt (c.run r) := by
  cases c with
  | update => exact absurd rfl hc.1
  | build => exact absurd rfl hc.2.1
  | dependencies => exact absurd rfl hc.2.2
  | revalidate => exact .now Session.validate_sound fun _ => .null
  | rootDependencies => exact .now Session.rootDependencies_sound texts
  | configurations => exact .now Session.configurations_sound .array
  | buildTypes => exact .now Session.buildTypes_sound texts
  | archTypes => exact .now Session.archTypes_sound texts
  | path => exact .now .get fun s : Session => .string s.workspace.directory.text
  | setConfiguration | setArchType | setBuildType | setCompiler =>
    exact prompt_selectArgument r _ _
  | imports | stringImports | fileImports | getConfiguration | getArchType | getBuildType
  | getCompiler | name => exact prompt_about _

/-- Some work has begun under the next ticket: it waits, or its outcome has been delivered. -/
def Begun (s t : Session) : Prop :=
  (∃ work, (s.withTicket.enqueued ⟨s.workspace.tickets + 1, work⟩).Keeps t) ∨
    ∃ outcome, (s.withTicket.delivered ⟨s.workspace.tickets + 1, outcome⟩).Keeps t

lemma Begun.of_begins {s t : Session} {work : Work} (h : s.Begins work t) : Begun s t := by
  rcases h with ⟨-, h⟩ | ⟨-, h⟩
  · exact Or.inl ⟨work, h⟩
  · exact Or.inr h

/-- What a request gives: an answer or a failure at once, or the next ticket. -/
def Dispatches (s : Session) (course : Except Failure Answer × Session) : Prop :=
  (∀ ticket, course.1 ≠ .ok (.later ticket)) ∧ s.Keeps course.2 ∨
    course.1 = .ok (.later (s.workspace.tickets + 1)) ∧ Begun s course.2

lemma Prompt.dispatches {a : Act Session Answer} (ha : Prompt a) {s : Session} (hs : s.Regular) :
    (a.apply s).1 ≠ .error .interrupted ∧ Dispatches s (a.apply s) :=
  ⟨(ha.sound s hs).1, Or.inl ⟨ha.answers s, (ha.sound s hs).2⟩⟩

/-- A request is answered at once and leaves all work alone, or it gives out the next ticket. -/
theorem dispatch_cases (r : Request) {s : Session} (hs : s.Regular) :
    ((dispatch r).apply s).1 ≠ .error .interrupted ∧ Dispatches s ((dispatch r).apply s) := by
  rw [dispatch]
  cases Command.ofName? r.command with
  | none => exact ⟨by rintro ⟨⟩, Or.inl ⟨by rintro _ ⟨⟩, Session.frame.refl s⟩⟩
  | some c =>
    -- Three commands begin work; the first of them gives out its ticket even if it cannot begin.
    cases c with
    | update =>
      obtain ⟨t, h, hbegun⟩ := Session.update_apply hs
      simp only [Command.run, Act.apply_bind, h]
      refine ⟨by rintro ⟨⟩, Or.inr ⟨rfl, ?_⟩⟩
      cases hr : s.reloaded with
      | error e =>
        rw [hr] at hbegun
        exact Or.inr ⟨_, hbegun.1⟩
      | ok index =>
        rw [hr] at hbegun
        exact .of_begins hbegun
    | build =>
      rcases Session.build_apply hs with ⟨e, he, h⟩ | ⟨_, _, t, -, h, hbegins⟩
      · simp only [Command.run, Act.apply_bind, h]
        exact ⟨fun h => he (Except.error.inj h), Or.inl ⟨by rintro _ ⟨⟩, Session.frame.refl s⟩⟩
      · simp only [Command.run, Act.apply_bind, h]
        exact ⟨by rintro ⟨⟩, Or.inr ⟨rfl, .of_begins hbegins⟩⟩
    | dependencies =>
      rcases Session.dependencies_apply hs with ⟨e, he, h⟩ | ⟨_, _, t, -, -, h, hbegins⟩
      · simp only [Command.run, Act.apply_bind, h]
        exact ⟨fun h => he (Except.error.inj h), Or.inl ⟨by rintro _ ⟨⟩, Session.frame.refl s⟩⟩
      · simp only [Command.run, Act.apply_bind, h]
        exact ⟨by rintro ⟨⟩, Or.inr ⟨rfl, .of_begins hbegins⟩⟩
    | _ => exact (Command.prompt_run r (by decide)).dispatches hs

/-! ## Responses -/

namespace Response

/-- The response that tells a result. -/
def of (id : Document) : Except Failure Document → Response
  | .ok value => .success id value
  | .error e => .failure id e

/-- The line that a response is written on. -/
def line (r : Response) : String :=
  r.toDocument.write

/-- A response, if there is room to write it. -/
def fitting (room : Nat) (r : Response) : Option Response :=
  if r.toDocument.nesting > room then none else some r

lemma nesting_failure (id : Document) (e : Failure) :
    (failure id e).toDocument.nesting = id.nesting + 1 := by
  simp [failure, toDocument, Document.nesting, Document.membersNesting]

/-- There is always room for a failure without an identifier. -/
lemma nesting_failure_null (e : Failure) :
    (failure .null e).toDocument.nesting ≤ Server.maxMessageNesting := by
  rw [nesting_failure]
  decide

end Response

/-! ## Lines -/

/-- A line, and the session that is there when it is read. -/
structure Reading where
  text : String
  session : Session

namespace Reading

/-- The identifier that the response to a line has to carry: that of the object on the line. -/
def id (r : Reading) : Document :=
  match Server.readLine r.text with
  | .ok d => (d.get? "id").getD .null
  | .error _ => .null

/-- What a line gives: a failure to read it, or what comes of its request. -/
def course (r : Reading) : Except Failure Answer × Session :=
  match Server.readLine r.text with
  | .error e => (.error e, r.session)
  | .ok d =>
    match Request.ofDocument d with
    | .error e => (.error (.request e), r.session)
    | .ok q =>
      (do
        Session.note .debug s!"Request {q.id.display}: {q.command}"
        dispatch q : Act Session Answer).apply r.session

/-- Whether a line holds a request. -/
def asks (r : Reading) : Bool :=
  match Server.readLine r.text with
  | .error _ => false
  | .ok d => (Request.ofDocument d).isOk

/-- Whether a job is started for a line, which then waits in the queue.  Work that is done while the
line is served is no job. -/
def startsJob (r : Reading) : Bool :=
  decide (r.session.workspace.queue.length < r.course.2.workspace.queue.length)

/-- How many containers there may be around each other in the response to a line. -/
def room (r : Reading) : Nat :=
  if r.startsJob then Server.maxLateNesting
  else if r.asks then Server.maxPromptNesting
  else Server.maxMessageNesting

/-- The response that is written at once, unless there is none or the answer comes later.  An answer
that is nested too deep is taken for a failure of the server, and so is a refusal.  Any other
response that is nested too deep is lost. -/
def prompt? (r : Reading) : Option Response :=
  match r.course.1 with
  | .error e =>
    ((Response.failure r.id e).fitting r.room).or
      (if r.asks then none else some (.failure .null .unwritable))
  | .ok (.now value) =>
    if value.sequenceDepth > Server.maxAnswerDepth then some (.failure .null .overlyNested)
    else (Response.success r.id value).fitting r.room
  | .ok (.later _) => none

end Reading

/-- The response to a request whose outcome is known, if the outcome can be handed on and there is
room for the response. -/
def settled? (room : Nat) (id : Document) : Except Failure Outcome → Option Response
  | .error e => (Response.failure id e).fitting room
  | .ok outcome =>
    match outcomeDocument outcome with
    | .ok value => (Response.success id value).fitting room
    | .error _ => none

lemma readLine_ne_interrupted (text : String) : Server.readLine text ≠ .error .interrupted :=
  mapError_ne_interrupted (by rintro (_ | _ | _) ⟨⟩)

/-- A request has the identifier of its object. -/
lemma id_of_ofDocument {d : Document} {q : Request} (h : Request.ofDocument d = .ok q) :
    q.id = (d.get? "id").getD .null := by
  have hdecodes := decodes_ofDocument d
  rw [h] at hdecodes
  exact hdecodes.own.2

lemma Reading.course_cases (r : Reading) (hs : r.session.Regular) :
    r.course.1 ≠ .error .interrupted ∧
      ∃ u, r.session.Keeps u ∧ Dispatches u r.course := by
  rw [course]
  cases hread : Server.readLine r.text with
  | error e =>
    have hne := readLine_ne_interrupted r.text
    rw [hread] at hne
    exact ⟨fun h => hne (congrArg _ (Except.error.inj h)), _, Session.frame.refl _,
      Or.inl ⟨by rintro _ ⟨⟩, Session.frame.refl _⟩⟩
  | ok d =>
    dsimp only
    cases Request.ofDocument d with
    | error e =>
      exact ⟨by rintro ⟨⟩, _, Session.frame.refl _, Or.inl ⟨by rintro _ ⟨⟩, Session.frame.refl _⟩⟩
    | ok q =>
      have hnote := (Session.note_sound .debug s!"Request {q.id.display}: {q.command}" _ hs).2
      obtain ⟨hne, hdispatches⟩ := dispatch_cases q (hs.keeps hnote)
      exact ⟨hne, _, hnote, hdispatches⟩

namespace Reading

variable {r : Reading} {d : Document}

/-- No job is started for a line that is answered at once. -/
lemma startsJob_of_prompt (hs : r.session.Regular)
    (h : ∀ ticket, r.course.1 ≠ .ok (.later ticket)) : r.startsJob = false := by
  obtain ⟨-, u, hu, ⟨-, hkeeps⟩ | ⟨hcourse, -⟩⟩ := r.course_cases hs
  · rw [startsJob, hkeeps.queue, hu.queue, decide_eq_false_iff_not]
    exact lt_irrefl _
  · exact absurd hcourse (h _)

/-- What comes later comes of a request. -/
lemma asks_of_later {ticket : Nat} (h : r.course.1 = .ok (.later ticket)) : r.asks = true := by
  rw [course] at h
  rw [asks]
  split at h
  · cases h
  · split at h
    · cases h
    · rename_i hq
      rw [hq]
      rfl

lemma room_of_startsJob (h : r.startsJob = true) : r.room = Server.maxLateNesting :=
  if_pos h

lemma room_of_later {ticket : Nat} (h : r.course.1 = .ok (.later ticket))
    (hstarts : r.startsJob = false) : r.room = Server.maxPromptNesting := by
  rw [room, hstarts, asks_of_later h]
  rfl

lemma prompt?_of_unread {e : Failure} (hread : Server.readLine r.text = .error e) :
    r.prompt? = some (.failure .null e) := by
  simp only [prompt?, room, startsJob, asks, course, id, hread]
  simp [Response.fitting, Nat.not_lt_of_le (Response.nesting_failure_null e)]

lemma prompt?_of_refused {e : RequestError} (hread : Server.readLine r.text = .ok d)
    (hq : Request.ofDocument d = .error e) :
    r.prompt? = some (((Response.failure ((d.get? "id").getD .null) (.request e)).fitting
      Server.maxMessageNesting).getD (.failure .null .unwritable)) := by
  simp only [prompt?, room, startsJob, asks, course, id, hread, hq]
  simp only [Except.isOk, Except.toBool, lt_irrefl, decide_false, Bool.false_eq_true, if_false]
  cases (Response.failure ((d.get? "id").getD .null) (.request e)).fitting
    Server.maxMessageNesting <;> rfl

lemma prompt?_of_request {q : Request} (hread : Server.readLine r.text = .ok d)
    (hq : Request.ofDocument d = .ok q) (hstarts : r.startsJob = false) :
    r.prompt? = match r.course.1 with
      | .error e => (Response.failure q.id e).fitting Server.maxPromptNesting
      | .ok (.now value) =>
        if value.sequenceDepth > Server.maxAnswerDepth then some (.failure .null .overlyNested)
        else (Response.success q.id value).fitting Server.maxPromptNesting
      | .ok (.later _) => none := by
  have hasks : r.asks = true := by
    rw [asks, hread]
    dsimp only
    rw [hq]
    rfl
  have hid : r.id = q.id := by
    rw [id, hread, id_of_ofDocument hq]
  simp only [prompt?, room, hstarts, hasks, hid, Bool.false_eq_true, if_false, if_true,
    Option.or_none]

end Reading

/-- The session with all outcomes taken. -/
def taken (s : Session) : Session :=
  s.withWork s.workspace.queue s.workspace.tickets []

namespace Server

/-! ## What the server does with a line -/

/-- The server with another session. -/
def inSession (s : Server) (session : Session) : Server :=
  { s with session := session }

/-- The server with more lines written. -/
def saying (s : Server) (lines : List String) : Server :=
  { s with output := s.output ++ lines }

/-- The server with one more ticket to wait for. -/
def awaiting (s : Server) (ticket : Nat) (id : Document) : Server :=
  { s with waiting := s.waiting ++ [(ticket, id)] }

/-- The server with a ticket that is not waited for any longer. -/
def forgetting (s : Server) (ticket : Nat) : Server :=
  { s with waiting := s.waiting.filter (·.1 != ticket) }

variable {s t : Server} {text : String}

lemma note_apply (level : Level) (text : String) :
    (note level text).apply s =
      (.ok (), s.inSession { s.session with host := s.session.host.noted level text }) :=
  rfl

lemma keeps_noted (s : Session) (level : Level) (text : String) :
    s.Keeps { s with host := s.host.noted level text } :=
  ⟨Host.noted_dub level text, rfl, id⟩

lemma send_of_le {room : Nat} {d : Document} (h : d.nesting ≤ room) :
    (send room d).apply s = (.ok (), s.saying [d.write]) := by
  rw [send, if_neg (Nat.not_lt_of_le h)]
  rfl

lemma send_of_lt {room : Nat} {d : Document} (h : room < d.nesting) :
    (send room d).apply s = (.error .unwritable, s) := by
  rw [send, if_pos h]
  rfl

/-- A result is sent as a response; a failure is noted before. -/
lemma respond_apply (room : Nat) (id : Document) (r : Except Failure Document) :
    ∃ u, s.session.Keeps u ∧ (respond room id r).apply s =
      (send room (Response.of id r).toDocument).apply (s.inSession u) := by
  cases r with
  | ok value => exact ⟨s.session, Session.frame.refl _, rfl⟩
  | error e => exact ⟨_, keeps_noted _ _ _, rfl⟩

/-- A response is written if there is room for it.  Otherwise it is lost, and nothing fails. -/
theorem complete_apply (room : Nat) (id : Document) (r : Except Failure Document) :
    ∃ u, s.session.Keeps u ∧ (complete room id r).apply s =
      (.ok (), (s.inSession u).saying (((Response.of id r).fitting room).toList.map
        Response.line)) := by
  obtain ⟨u, hkeeps, hrespond⟩ := respond_apply (s := s) room id r
  refine ⟨u, hkeeps, ?_⟩
  rw [complete, Act.apply_bind, Act.apply_outcome, hrespond, Response.fitting]
  split_ifs with h
  · rw [send_of_lt h]
    simp [saying]
  · rw [send_of_le (Nat.le_of_not_lt h)]
    rfl

lemma serveLineSafely_of_ok (h : (serveLine text).apply s = (.ok (), t)) :
    (serveLineSafely text).apply s = (.ok (), t) := by
  have hne : ((serveLine text).apply s).1 ≠ .error .interrupted := by
    rw [h]
    rintro ⟨⟩
  rw [serveLineSafely, Act.apply_bind, Act.apply_outcome_of_ne hne, h]
  rfl

/-- A failure is answered and goes no further. -/
lemma serveLineSafely_of_error {e : Failure} (h : (serveLine text).apply s = (.error e, t))
    (he : e ≠ .interrupted) :
    ∃ u, t.session.Keeps u ∧ (serveLineSafely text).apply s =
      (.ok (), (t.inSession u).saying [(Response.failure .null e).line]) := by
  have hne : ((serveLine text).apply s).1 ≠ .error .interrupted := by
    rw [h]
    exact fun h => he (Except.error.inj h)
  refine ⟨_, keeps_noted t.session .error ("Server error: " ++ e.message), ?_⟩
  rw [serveLineSafely, Act.apply_bind, Act.apply_outcome_of_ne hne, h]
  exact send_of_le (Response.nesting_failure_null e)

/-- What is done once it is known what a request gives. -/
def conclude (id : Document) : Except Failure Answer → Act Server Unit
  | .error e => complete maxPromptNesting id (.error e)
  | .ok (.now value) => do
    if value.sequenceDepth > maxAnswerDepth then throw .overlyNested
    complete maxPromptNesting id (.ok value)
  | .ok (.later ticket) => do
    modify fun s => { s with waiting := s.waiting ++ [(ticket, id)] }
    settleAll maxPromptNesting

lemma serveRequest_apply (q : Request) {answer : Except Failure Answer} {u : Session}
    (hcourse : (do
      Session.note .debug s!"Request {q.id.display}: {q.command}"
      dispatch q : Act Session Answer).apply s.session = (answer, u))
    (hne : answer ≠ .error .interrupted) :
    (serveRequest q).apply s = (conclude q.id answer).apply (s.inSession u) := by
  rw [Act.apply_bind, Session.note_apply] at hcourse
  simp only at hcourse
  have hdispatch : (onSession (dispatch q)).apply (s.inSession { s.session with
      host := s.session.host.noted .debug s!"Request {q.id.display}: {q.command}" }) =
      (answer, s.inSession u) := by
    rw [onSession, Act.apply_onPart]
    exact congrArg (fun r : Except Failure Answer × Session => (r.1, s.inSession r.2)) hcourse
  have hne' : ((onSession (dispatch q)).apply (s.inSession { s.session with
      host := s.session.host.noted .debug s!"Request {q.id.display}: {q.command}" })).1 ≠
      .error .interrupted := by
    rw [hdispatch]
    exact hne
  rw [serveRequest, Act.apply_bind, note_apply]
  simp only
  rw [Act.apply_bind, Act.apply_outcome_of_ne hne', hdispatch]
  rcases answer with e | (value | ticket) <;> rfl

/-- A line that holds no document is answered without an identifier. -/
lemma serveLineSafely_of_unread {e : Failure} (hread : readLine text = .error e) :
    ∃ u, s.session.Keeps u ∧ (serveLineSafely text).apply s =
      (.ok (), (s.inSession u).saying [(Response.failure .null e).line]) := by
  cases e with
  | request e =>
    refine ⟨s.session, Session.frame.refl _, serveLineSafely_of_ok ?_⟩
    simp only [serveLine, hread]
    exact send_of_le (Response.nesting_failure_null _)
  | interrupted => exact absurd hread (readLine_ne_interrupted text)
  | _ =>
    refine serveLineSafely_of_error (t := s) ?_ (by rintro ⟨⟩)
    simp only [serveLine, hread]
    rfl

/-- A document that is no request is answered with its identifier, if there is room for that. -/
lemma serveLineSafely_of_refused {d : Document} {e : RequestError}
    (hread : readLine text = .ok d) (hq : Request.ofDocument d = .error e) :
    let refusal := Response.failure ((d.get? "id").getD .null) (.request e)
    ∃ u, s.session.Keeps u ∧ (serveLineSafely text).apply s =
      (.ok (), (s.inSession u).saying
        [((refusal.fitting maxMessageNesting).getD (.failure .null .unwritable)).line]) := by
  intro refusal
  have hserve : (serveLine text).apply s = (send maxMessageNesting refusal.toDocument).apply s := by
    simp only [serveLine, hread, hq]
    rfl
  rw [Response.fitting]
  split_ifs with h
  · exact serveLineSafely_of_error (hserve.trans (send_of_lt h)) (by rintro ⟨⟩)
  · exact ⟨s.session, Session.frame.refl _,
      serveLineSafely_of_ok (hserve.trans (send_of_le (Nat.le_of_not_lt h)))⟩

lemma serveLine_of_request {d : Document} {q : Request} (hread : readLine text = .ok d)
    (hq : Request.ofDocument d = .ok q) (hd : s.dispatches = true) :
    (serveLine text).apply s = (serveRequest q).apply s := by
  simp only [serveLine, hread, hq, Act.apply_bind, Act.apply_get, hd]
  rfl

/-- A line that is answered at once: its response is written if there is room for it, and nothing
else has changed. -/
theorem serveLineSafely_prompt (hs : s.session.Regular) (hd : s.dispatches = true)
    (h : ∀ ticket, (⟨text, s.session⟩ : Reading).course.1 ≠ .ok (.later ticket)) :
    ∃ u, (⟨text, s.session⟩ : Reading).course.2.Keeps u ∧ (serveLineSafely text).apply s =
      (.ok (), (s.inSession u).saying
        ((⟨text, s.session⟩ : Reading).prompt?.toList.map Response.line)) := by
  have hne := (Reading.course_cases ⟨text, s.session⟩ hs).1
  cases hread : readLine text with
  | error e =>
    rw [Reading.prompt?_of_unread (r := ⟨text, s.session⟩) hread]
    simp only [Reading.course, hread]
    exact serveLineSafely_of_unread hread
  | ok d =>
    cases hq : Request.ofDocument d with
    | error e =>
      rw [Reading.prompt?_of_refused (r := ⟨text, s.session⟩) hread hq]
      simp only [Reading.course, hread, hq]
      exact serveLineSafely_of_refused hread hq
    | ok q =>
      rw [Reading.prompt?_of_request (r := ⟨text, s.session⟩) hread hq
        (Reading.startsJob_of_prompt hs h)]
      simp only [Reading.course, hread, hq] at h hne ⊢
      generalize hcourse : (do
        Session.note .debug s!"Request {q.id.display}: {q.command}"
        dispatch q : Act Session Answer).apply s.session = course at h hne ⊢
      obtain ⟨answer, u⟩ := course
      have hserve := (serveLine_of_request (s := s) hread hq hd).trans
        (serveRequest_apply q hcourse hne)
      -- The request is completed, unless its answer is nested too deep for that.
      rcases answer with e | (value | ticket)
      · obtain ⟨v, hkeeps, hcomplete⟩ :=
          complete_apply (s := s.inSession u) maxPromptNesting q.id (.error e)
        exact ⟨v, hkeeps, serveLineSafely_of_ok (hserve.trans hcomplete)⟩
      · simp only [conclude] at hserve ⊢
        split at hserve
        · rename_i hdeep
          rw [if_pos hdeep]
          exact serveLineSafely_of_error hserve (by rintro ⟨⟩)
        · rename_i hdeep
          rw [if_neg hdeep]
          obtain ⟨v, hkeeps, hcomplete⟩ :=
            complete_apply (s := s.inSession u) maxPromptNesting q.id (.ok value)
          exact ⟨v, hkeeps, serveLineSafely_of_ok (hserve.trans hcomplete)⟩
      · exact absurd rfl (h ticket)

/-- A line whose answer comes later: its ticket is remembered with its identifier, and outcomes that
have been delivered are answered. -/
theorem serveLineSafely_later (hs : s.session.Regular) (hd : s.dispatches = true) {ticket : Nat}
    (h : (⟨text, s.session⟩ : Reading).course.1 = .ok (.later ticket))
    (hsettle : (settleAll maxPromptNesting).apply
      ((s.inSession (⟨text, s.session⟩ : Reading).course.2).awaiting ticket
        (⟨text, s.session⟩ : Reading).id) = (.ok (), t)) :
    (serveLineSafely text).apply s = (.ok (), t) := by
  have hne := (Reading.course_cases ⟨text, s.session⟩ hs).1
  simp only [Reading.id] at hsettle
  cases hread : readLine text with
  | error e =>
    simp only [Reading.course, hread] at h
    cases h
  | ok d =>
    cases hq : Request.ofDocument d with
    | error e =>
      simp only [Reading.course, hread, hq] at h
      cases h
    | ok q =>
      simp only [Reading.course, hread, hq] at h hne hsettle
      generalize hcourse : (do
        Session.note .debug s!"Request {q.id.display}: {q.command}"
        dispatch q : Act Session Answer).apply s.session = course at h hne hsettle
      obtain ⟨answer, u⟩ := course
      cases h
      have hserve := (serveLine_of_request (s := s) hread hq hd).trans
        (serveRequest_apply q hcourse hne)
      rw [id_of_ofDocument hq] at hserve
      exact serveLineSafely_of_ok (hserve.trans hsettle)

/-! ## What the server does with outcomes -/

/-- An outcome is the response to the request that waits for it. -/
theorem settle_apply (room : Nat) {d : Delivery} {id : Document}
    (h : s.waiting.lookup d.ticket = some id) :
    ∃ u, s.session.Keeps u ∧ (settle room d).apply s = (.ok (),
      ((s.inSession u).forgetting d.ticket).saying
        ((settled? room id d.outcome).toList.map Response.line)) := by
  have hforgotten (t : Server) : (set t : Act Server Unit).apply s = (.ok (), t) := rfl
  obtain ⟨ticket, e | outcome⟩ := d
  · obtain ⟨u, hkeeps, hcomplete⟩ :=
      complete_apply (s := s.forgetting ticket) room id (.error e)
    refine ⟨u, hkeeps, ?_⟩
    simp only [settle, Act.apply_bind, Act.apply_get, h, hforgotten]
    exact hcomplete
  · simp only [settle, Act.apply_bind, Act.apply_get, h, hforgotten, settled?]
    cases outcomeDocument outcome with
    | ok value =>
      obtain ⟨u, hkeeps, hcomplete⟩ :=
        complete_apply (s := s.forgetting ticket) room id (.ok value)
      exact ⟨u, hkeeps, hcomplete⟩
    | error e =>
      refine ⟨s.session, Session.frame.refl _, ?_⟩
      simp [inSession, forgetting, saying]

lemma takeFinished_apply (s : Server) :
    (onSession Session.takeFinished).apply s =
      (.ok s.session.workspace.finished, s.inSession (taken s.session)) := rfl

/-- Nothing is answered if no outcome has been delivered. -/
lemma settleAll_of_nil (room : Nat) (h : s.session.workspace.finished = []) :
    (settleAll room).apply s = (.ok (), s.inSession (taken s.session)) := by
  rw [settleAll, Act.apply_bind, takeFinished_apply, h]
  rfl

/-- The outcome that has been delivered is answered. -/
lemma settleAll_of_singleton (room : Nat) {d : Delivery} {id : Document}
    (hfinished : s.session.workspace.finished = [d])
    (h : s.waiting.lookup d.ticket = some id) :
    ∃ u, (taken s.session).Keeps u ∧ (settleAll room).apply s = (.ok (),
      ((s.inSession u).forgetting d.ticket).saying
        ((settled? room id d.outcome).toList.map Response.line)) := by
  obtain ⟨u, hkeeps, hsettle⟩ := settle_apply (s := s.inSession (taken s.session)) room h
  refine ⟨u, hkeeps, ?_⟩
  have hone : ([d].forM (settle room) : Act Server Unit) =
      settle room d >>= fun _ => pure () := rfl
  rw [settleAll, Act.apply_bind, takeFinished_apply, hfinished]
  simp only [hone, Act.apply_bind, hsettle]
  rfl

/-- When a queued job has run, its outcome is answered. -/
lemma runQueued_apply {index : Nat} {name : Option String} {u : Session}
    (h : (Session.runQueued index).apply s.session = (.ok name, u)) :
    (runQueued index).apply s = (settleAll maxLateNesting).apply (s.inSession u) := by
  rw [runQueued, Act.apply_bind, onSession, Act.apply_onPart, h]
  rfl

end Server

end DubCheck.Service
