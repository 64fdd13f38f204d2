import DubCheck.Service.Command
import DubCheck.Service.Response
/-!
# The server

The server reads requests, one to a line, and writes responses, one to a line.  A request that is
answered later is remembered with its ticket until its outcome is delivered, so that responses
may come in another order than requests.  A line that cannot be served is answered as well, and
serving goes on.

What reaches the server besides lines are `Event`s: queued jobs run, the host changes, the server
is told to stop, or the user interrupts it.  `serve` goes through a list of events; the end of the
list is the end of the input.
-/

namespace DubCheck.Service

/-- Something that reaches a server. -/
inductive Event where
  /-- A line, with its line end. -/
  | line (text : String)
  /-- The queued job at a place is run, or all jobs that are queued. -/
  | run (which : Option Nat)
  /-- Something changes around the server. -/
  | change (f : Host → Host)
  /-- The server is told to stop. -/
  | stop
  /-- The user interrupts the server. -/
  | interrupt

/-- The process that started a server. -/
inductive Parent where
  /-- The process with the given number. -/
  | numbered (process : Int)
  /-- A process whose number is not given. -/
  | unnumbered
deriving DecidableEq, Repr

/-- A server. -/
structure Server where
  /-- What it serves. -/
  session : Session
  /-- Whether requests are passed on to the workspace. -/
  dispatches : Bool := true
  /-- The process that started the server, if it is to be watched. -/
  parent : Option Parent := none
  /-- Whether that process is being watched. -/
  watching : Bool := false
  /-- The lines written so far, without their line ends. -/
  output : List String := []
  /-- Whether it has been told to stop. -/
  stopping : Bool := false
  /-- The tickets of requests that are still to be answered, with the identifiers of the
  requests. -/
  waiting : List (Nat × Document) := []

namespace Server

/-- Do something with the session. -/
def onSession {α : Type} (a : Act Session α) : Act Server α :=
  Act.onPart (·.session) (fun session s => { s with session := session }) a

/-- Put a note in the log. -/
def note (level : Level) (text : String) : Act Server Unit :=
  onSession (Session.note level text)

/-- How many containers there may be around each other in a message.  It is written one call further
in than where a line is read, and each call takes the room of a container. -/
def maxMessageNesting : Nat := Document.maxNesting - 1

/-- How many there may be in the response to a request that is completed while its line is served.
This is four calls further in. -/
def maxPromptNesting : Nat := Document.maxNesting - 4

/-- How many there may be in the response to a request that is completed by a job.  This is seven
calls further in. -/
def maxLateNesting : Nat := Document.maxNesting - 7

/-- Write a document on a line, unless it is nested deeper than there is room for. -/
def send (room : Nat) (d : Document) : Act Server Unit := do
  if d.nesting > room then throw .unwritable
  modify fun s => { s with output := s.output ++ [d.write] }

/-- Write the response to the request with the given identifier. -/
def respond (room : Nat) (id : Document) : Except Failure Document → Act Server Unit
  | .ok result => send room (Response.success id result).toDocument
  | .error e => do
    note .warning s!"Request {id.display} failed: {e.kind}: {e.message}"
    send room (Response.failure id e).toDocument

/-- Complete the request with the given identifier.  Nobody is left to hear of a failure here, so
that a response which cannot be written is lost.  That the log tells of it is left out. -/
def complete (room : Nat) (id : Document) (r : Except Failure Document) : Act Server Unit := do
  let _ ← (respond room id r).outcome

/-- Answer the request that a delivery is for.  A request whose outcome cannot be handed on is never
answered. -/
def settle (room : Nat) (d : Delivery) : Act Server Unit := do
  let s ← get
  match s.waiting.lookup d.ticket with
  | none => pure ()
  | some id =>
    set { s with waiting := s.waiting.filter (·.1 != d.ticket) }
    match d.outcome with
    | .error e => complete room id (.error e)
    | .ok outcome =>
      match outcomeDocument outcome with
      | .ok document => complete room id (.ok document)
      | .error _ => pure ()

/-- Answer the requests whose outcomes have been delivered. -/
def settleAll (room : Nat) : Act Server Unit := do
  (← onSession Session.takeFinished).forM (settle room)

/-- How many sequences there may be around a value in an answer. -/
def maxAnswerDepth : Nat := 494

/-- Serve a request.  An answer that is nested too deep is a failure of the server and not of the
request. -/
def serveRequest (r : Request) : Act Server Unit := do
  note .debug s!"Request {r.id.display}: {r.command}"
  match ← (onSession (dispatch r)).outcome with
  | .error e => complete maxPromptNesting r.id (.error e)
  | .ok (.now value) =>
    if value.sequenceDepth > maxAnswerDepth then throw .overlyNested
    complete maxPromptNesting r.id (.ok value)
  | .ok (.later ticket) =>
    modify fun s => { s with waiting := s.waiting ++ [(ticket, r.id)] }
    settleAll maxPromptNesting

/-- The document that a line holds, or the failure to answer with. -/
def readLine (line : String) : Except Failure Document :=
  (Document.read line.toList).mapError
    (Failure.ofReading line.toList fun m => .request (.malformed m))

/-- Serve a line. -/
def serveLine (line : String) : Act Server Unit := do
  match readLine line with
  | .error (.request e) =>
    send maxMessageNesting (Response.failure .null (.request e)).toDocument
  | .error e => throw e
  | .ok d =>
    match Request.ofDocument d with
    | .error e =>
      send maxMessageNesting (Response.failure ((d.get? "id").getD .null) (.request e)).toDocument
    | .ok r =>
      if !(← get).dispatches then throw (.crashed "Server has no dispatcher")
      serveRequest r

/-- Serve a line; a failure is answered and does not go further. -/
def serveLineSafely (line : String) : Act Server Unit := do
  match ← (serveLine line).outcome with
  | .ok () => pure ()
  | .error e =>
    note .error ("Server error: " ++ e.message)
    send maxMessageNesting (Response.failure .null e).toDocument

/-- Run the queued job at a place and answer its request. -/
def runQueued (index : Nat) : Act Server Unit := do
  let _ ← onSession (Session.runQueued index)
  settleAll maxLateNesting

/-- Take events until the input ends or a line comes after the server has been told to stop. -/
def takeEvents : List Event → Act Server Unit
  | [] => pure ()
  | .line text :: rest => do
    if (← get).stopping then return
    if !(Text.trimmed text).isEmpty then serveLineSafely text
    takeEvents rest
  | .run (some index) :: rest => do
    runQueued index
    takeEvents rest
  | .run none :: rest => do
    (List.replicate (← get).session.workspace.queue.length 0).forM runQueued
    takeEvents rest
  | .change f :: rest => do
    onSession (Session.onHost (modify f))
    takeEvents rest
  | .stop :: rest => do
    modify fun s => { s with stopping := true }
    takeEvents rest
  | .interrupt :: _ => throw .interrupted

/-- Serve until the input ends.  The parent process is watched meanwhile.  An interruption ends
serving quietly if the server has been told to stop. -/
def serve (events : List Event) : Act Server Unit :=
  Act.ofFunction fun s =>
    match (takeEvents events).apply { s with watching := s.parent.isSome } with
    | (.error .interrupted, s) =>
      if s.stopping then (note .info "Server stopped").apply s else (.error .interrupted, s)
    | (.error e, s) => (.error e, s)
    | (.ok (), s) => (note .info "Input closed, server stopping").apply s

end Server

/-! ## A server for a project -/

/-- The names that the log knows in capitals: those of levels, with their ranks, and two that stand
for how lines are laid out. -/
def logNames : List (String × Except LevelError Nat) :=
  [("NOTSET", .ok 0), ("DEBUG", .ok 10), ("INFO", .ok 20), ("WARN", .ok 30), ("WARNING", .ok 30),
   ("ERROR", .ok 40), ("CRITICAL", .ok 50), ("FATAL", .ok 50),
   ("BASIC_FORMAT", .error (.layout "%(levelname)s:%(name)s:%(message)s")),
   ("_STYLES", .error .table)]

/-- The rank of the level that a name stands for; a name that the log does not know stands for
`INFO`. -/
def thresholdOf (level : String) : Except LevelError Nat :=
  (logNames.lookup level).getD (.ok 20)

/-- The file that the server logs to. -/
def logFile (settings : ToolSettings) : Path :=
  settings.logDirectory.join (Path.ofText "server.log")

/-- Make the directory for logs, keep only notes that are important enough, and make the log
file. -/
def startLogging (settings : ToolSettings) : Act Host Unit := do
  Host.makeDirectories settings.logDirectory
  let threshold ← Act.ofExcept ((thresholdOf settings.logLevel).mapError .level)
  modify fun h => { h with threshold := threshold }
  Host.makeFile ((logFile settings).absolute (← get).directory)

/-- The event that tells that the project has been loaded. -/
def loadedEvent (hasPaths : Bool) : Document :=
  .object [("type", .string "loaded"), ("component", .string component), ("result", .bool hasPaths)]

/-- The event that tells that the project cannot be loaded. -/
def errorEvent (e : Failure) : Document :=
  .object [("type", .string "error"), ("component", .string component),
    ("detail", .string e.message)]

/-- Tell the events of the workspace. -/
def Server.tellEvents : Act Server Unit := do
  (← onSession Session.takeEvents).forM (send maxMessageNesting)

/-- Load the project and serve requests for it.  The project is let go in the end.  The result is
the exit code. -/
def Server.run (events : List Event) : Act Server Nat := do
  let s ← get
  let settings := s.session.workspace.settings
  onSession (Session.onHost (startLogging settings))
  Act.ofExcept (Workspace.checkDirectory s.session.workspace.directory)
  note .info (s!"Server started with PID {s.session.host.process} for " ++
    s.session.workspace.directory.text)
  match ← (onSession Session.startup).outcome with
  | .error e =>
    tellEvents
    note .error ("Failed to load project: " ++ e.message)
    send maxMessageNesting (errorEvent e)
    return 1
  | .ok hasPaths =>
    tellEvents
    send maxMessageNesting (loadedEvent hasPaths)
    Act.ofFunction fun s =>
      let (r, s) := (serve events).apply s
      let (_, s) := (onSession Session.stop).apply s
      (r, s)
    return 0

end DubCheck.Service
