/-!
# Watching the parent process

A server may watch the process that started it.  It looks every few seconds whether that process
is still there; once it is gone, the server stops itself by an interrupt signal.
-/

namespace DubCheck.Service

/-- The number of seconds between two looks. -/
def lookInterval : Nat := 5

/-- The signal by which a server stops itself. -/
def interruptSignal : Nat := 2

/-- What a watch has done. -/
structure Watch where
  /-- The processes that were looked for. -/
  checks : List Int := []
  /-- How long was waited before each look. -/
  sleeps : List Nat := []
  /-- The signals that were sent. -/
  signals : List Nat := []
  /-- Whether the server has been told to stop. -/
  stopping : Bool := false
deriving DecidableEq, Repr

/-- Another look at the process. -/
def Watch.look (w : Watch) (process : Int) : Watch :=
  { w with checks := w.checks ++ [process], sleeps := w.sleeps ++ [lookInterval] }

/-- What the server does when the process is gone. -/
def Watch.stop (w : Watch) : Watch :=
  { w with signals := w.signals ++ [interruptSignal], stopping := true }

/-- Watch a process.  `alive` tells what each look finds, and `stopped` whether somebody else tells
the server to stop during the last one. -/
def Watch.run (process : Int) (stopped : Bool) (w : Watch) : List Bool → Watch
  | [] => w
  | alive :: rest =>
    let w := w.look process
    let w := if rest.isEmpty && stopped then { w with stopping := true } else w
    if !alive then w.stop
    else if w.stopping then w
    else w.run process stopped rest

end DubCheck.Service
