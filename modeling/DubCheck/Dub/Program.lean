/-!
# The program dub

dub is run with arguments and answers with what it prints and an exit status.  A `Program` says how
dub answers to every list of arguments; a `Run` is the record of one run.
-/

namespace DubCheck.Dub

/-- What comes of running a program. -/
inductive Reply where
  /-- It ended with the given output and status. -/
  | finished (stdout stderr : List UInt8) (status : Int)
  /-- There is no such program. -/
  | noProgram
  /-- It may not be run. -/
  | denied
  /-- It took too long. -/
  | timedOut
  /-- The user interrupted it. -/
  | interrupted
deriving Repr

/-- How dub answers to arguments. -/
abbrev Program := List String → Reply

/-- What dub was run for. -/
inductive Purpose where
  /-- Describing a project, within the given number of seconds. -/
  | describe (seconds : Nat)
  /-- Building, with the given flags for the compiler in the environment.  The run was killed if
  nobody could take its output. -/
  | build (flags : Option String) (killed : Bool)
deriving DecidableEq, Repr

/-- The record of a run of dub. -/
structure Run where
  /-- The program and its arguments. -/
  command : List String
  /-- The directory it ran in. -/
  directory : String
  /-- What it was run for. -/
  purpose : Purpose
deriving DecidableEq, Repr

/-- The same run, but killed. -/
def Run.kill (r : Run) : Run :=
  match r.purpose with
  | .build flags _ => { r with purpose := .build flags true }
  | .describe _ => r

end DubCheck.Dub
