import DubCheck.Proofs.Dub.Ending
/-!
# What a receiver gets of a build

While a build runs, its lines are handed to a receiver, which may fail at any of them.  The relation
`Handed` says what it is to be handed some lines: they are taken one after the other, up to the last
one or up to a failure.  It knows nothing of builds, of exit statuses or of lines in which dub
reports a failure.

* `Handed.feed_append`: what comes of some lines and of those after them.
* `exists_handed`: all lines are handed over, or those up to the first failure.
* `delivers_received`: a build hands over as many lines as the receiver takes, and is killed if and
  only if the receiver fails.
* `delivers_generate`: the same for a run of dub, with the lines that the text has.
-/

namespace DubCheck.Dub

variable {τ : Type} {receive : τ → List Char → Except Failure τ} {start kept : τ}
  {lines first : List (List Char)} {failure : Option Failure}

/-! ## Handing lines over -/

/-- A receiver is handed some lines, one after the other, and comes from one state to another.  It
takes all of them, or it fails at the last one and keeps what it had before. -/
inductive Handed (receive : τ → List Char → Except Failure τ) :
    τ → List (List Char) → τ → Option Failure → Prop where
  | nothing (t : τ) : Handed receive t [] t none
  | taken {t u v : τ} {line : List Char} {lines : List (List Char)} {failure : Option Failure}
    (take : receive t line = .ok u) (rest : Handed receive u lines v failure) :
    Handed receive t (line :: lines) v failure
  | refused {t : τ} {line : List Char} {e : Failure} (refusal : receive t line = .error e) :
    Handed receive t [line] t (some e)

/-- Lines that have been taken are done with.  After a failure no other line is handed over. -/
lemma Handed.feed_append (h : Handed receive start first kept failure)
    (rest : List (List Char)) :
    feed receive start (first ++ rest) =
      failure.elim (feed receive kept rest) fun e => (kept, some e) := by
  induction h with
  | nothing t => rfl
  | taken take _ ih =>
    rw [List.cons_append, feed, take]
    exact ih
  | refused refusal =>
    rw [List.cons_append, feed, refusal]
    rfl

lemma Handed.feed_eq (h : Handed receive start lines kept none) :
    feed receive start lines = (kept, none) := by
  have hfeed := h.feed_append []
  rwa [List.append_nil, Option.elim_none, feed] at hfeed

/-- A receiver that takes all lines fails at none of them. -/
lemma Handed.not_refused (h : Handed receive start lines kept none) (hfirst : first <+: lines)
    (t : τ) (e : Failure) : ¬ Handed receive start first t (some e) := by
  intro hrefused
  obtain ⟨rest, rfl⟩ := hfirst
  have hfeed := h.feed_eq
  rw [hrefused.feed_append rest] at hfeed
  cases hfeed

/-- The lines decide what a receiver keeps that takes all of them. -/
lemma Handed.kept_eq (h : Handed receive start lines kept none) {t : τ}
    (ht : Handed receive start lines t none) : kept = t := by
  have hfeed := h.feed_eq
  rw [ht.feed_eq] at hfeed
  cases hfeed
  rfl

/-- A receiver is handed all lines, or those up to its first failure. -/
lemma exists_handed (receive : τ → List Char → Except Failure τ) (start : τ)
    (lines : List (List Char)) :
    ∃ first rest kept failure, lines = first ++ rest ∧ Handed receive start first kept failure ∧
      (failure = none → rest = []) := by
  induction lines generalizing start with
  | nil => exact ⟨[], [], start, none, rfl, .nothing start, fun _ => rfl⟩
  | cons line lines ih =>
    cases hline : receive start line with
    | error e => exact ⟨[line], lines, start, some e, rfl, .refused hline, by rintro ⟨⟩⟩
    | ok t =>
      obtain ⟨first, rest, kept, failure, rfl, hfirst, hrest⟩ := ih t
      exact ⟨line :: first, rest, kept, failure, rfl, .taken hline hfirst, hrest⟩

/-! ## Builds -/

/-- What a build does for a receiver: which lines it hands over, what comes of it, and whether it is
killed.  `ending` is how the build ends if it is not killed. -/
structure Delivers (receive : τ → List Char → Except Failure τ) (start : τ)
    (lines : List (List Char)) (ending : Option Failure) (outcome : τ × Option Failure)
    (killed : Bool) : Prop where
  /-- A receiver that fails at none of the lines is handed all of them. -/
  all : (∀ first, first <+: lines → ∀ kept e, ¬ Handed receive start first kept (some e)) →
    ∃ kept, Handed receive start lines kept none ∧ outcome = (kept, ending) ∧ killed = false
  /-- If a receiver fails at the last one of the first lines, these are all that it is handed, and
  its failure is the one that comes out. -/
  some : ∀ first, first <+: lines → ∀ kept e, Handed receive start first kept (some e) →
    outcome = (kept, .some e) ∧ killed = true

lemma received_of_taken {transcript : Transcript}
    (h : Handed receive start transcript.lines kept none) :
    received receive start transcript = ((kept, transcript.ending), false) := by
  rw [received, h.feed_eq]

lemma received_of_refused {transcript : Transcript} {e : Failure}
    (hfirst : first <+: transcript.lines) (h : Handed receive start first kept (some e)) :
    received receive start transcript = ((kept, some e), true) := by
  obtain ⟨rest, hrest⟩ := hfirst
  rw [received, ← hrest, h.feed_append rest, Option.elim_some]

theorem delivers_received (receive : τ → List Char → Except Failure τ) (start : τ)
    (transcript : Transcript) :
    Delivers receive start transcript.lines transcript.ending
      (received receive start transcript).1 (received receive start transcript).2 where
  all hnever := by
    obtain ⟨first, rest, kept, failure, hsplit, hfirst, hrest⟩ :=
      exists_handed receive start transcript.lines
    cases failure with
    | none =>
      rw [hrest rfl, List.append_nil] at hsplit
      rw [← hsplit] at hfirst
      rw [received_of_taken hfirst]
      exact ⟨kept, hfirst, rfl, rfl⟩
    | some e => exact absurd hfirst (hnever first ⟨rest, hsplit.symm⟩ kept e)
  some first hprefix kept e h := by
    rw [received_of_refused hprefix h]
    exact ⟨rfl, rfl⟩

/-- **What a receiver gets of a build.**  When dub has been started, a receiver that never fails is
handed exactly the lines of the text that dub prints, in their order, and dub is not killed.  If the
receiver fails at some line, it has been handed the lines up to this one, dub is killed, and the
receiver's failure is what comes of the build, whatever the status and whatever the lines say. -/
theorem delivers_generate (program : String) (directory : Location) {h : Host} {settings : Settings}
    {stdout stderr : List UInt8} {status : Int}
    (hreply : h.dub settings.buildArguments = .finished stdout stderr status)
    (receive : τ → List Char → Except Failure τ) (start : τ) :
    let text := Text.Utf8.decodeLossy (stdout ++ stderr)
    ∃ lines outcome killed log, Text.HasLines (Text.translateNewlines text) lines ∧
      ((Engine.dub program directory).generate settings receive start).apply h =
        (.ok outcome, h.ran log (buildRun program directory settings.buildArguments
          (flagsVariable h settings) killed)) ∧
      Delivers receive start lines (transcriptOf (stdout ++ stderr) status).ending outcome
        killed := by
  have hstart : startOf program (h.dub settings.buildArguments) =
      .ok (transcriptOf (stdout ++ stderr) status) := by
    rw [hreply]
    rfl
  obtain ⟨log, hgenerate⟩ := generate_of_start program directory hstart receive start
  have hdelivers := delivers_received receive start (transcriptOf (stdout ++ stderr) status)
  rw [lines_transcriptOf] at hdelivers
  exact ⟨printedLines (stdout ++ stderr), _, _, log, Text.hasLines_iff.mpr rfl, hgenerate,
    hdelivers⟩

/-- A receiver with room for some lines.  When it has no room, it complains about all the lines it
has been handed. -/
def hoard (room : Nat) (kept : List (List Char)) (line : List Char) :
    Except Failure (List (List Char)) :=
  if kept.length < room then .ok (kept ++ [line])
  else .error (.crashed (String.ofList (kept ++ [line]).flatten))

/-- What dub prints: four lines with different line ends, the last one without any. -/
def talk : List UInt8 :=
  Text.Utf8.encode "one\r\ndmd failed with exit code 1.\rtwo\nthree"

/-- Its lines. -/
def talkLines : List (List Char) :=
  ["one".toList, "dmd failed with exit code 1.".toList, "two".toList, "three".toList]

/-- A host on which dub prints this, and fails. -/
def talkingHost : Host where
  files := ⟨[]⟩
  directory := []
  environment := []
  machine := "x86_64"
  dub := fun _ => .finished talk [] 2

/-- Settings of a build on it. -/
def talkingSettings : Settings where
  configuration := "library"
  buildType := "debug"
  compiler := ⟨.dmd, "dmd", "/bin/dmd"⟩
  archType := none

lemma eq_talkLines {lines : List (List Char)}
    (h : Text.HasLines (Text.translateNewlines (Text.Utf8.decodeLossy (talk ++ []))) lines) :
    lines = talkLines := by
  rw [Text.hasLines_iff, List.append_nil, talk, Text.Utf8.decodeLossy_encode] at h
  rw [h]
  rfl

/-- With room for two lines, the third one is refused; with room for four, all are taken. -/
theorem delivers_generate_hoard :
    (∃ log, ((Engine.dub "dub" ["p"]).generate talkingSettings (hoard 2) []).apply talkingHost =
      (.ok (talkLines.take 2, some (.crashed "onedmd failed with exit code 1.two")),
        talkingHost.ran log
          (buildRun "dub" ["p"] talkingSettings.buildArguments none true))) ∧
    ∃ log, ((Engine.dub "dub" ["p"]).generate talkingSettings (hoard 4) []).apply talkingHost =
      (.ok (talkLines, some (.build (.failed "dmd failed with exit code 1."))),
        talkingHost.ran log
          (buildRun "dub" ["p"] talkingSettings.buildArguments none false)) := by
  have hreply : talkingHost.dub talkingSettings.buildArguments = .finished talk [] 2 := rfl
  constructor
  · obtain ⟨lines, outcome, killed, log, hlines, happly, hdelivers⟩ :=
      delivers_generate "dub" ["p"] hreply (hoard 2) []
    obtain rfl := eq_talkLines hlines
    obtain ⟨rfl, rfl⟩ := hdelivers.some (talkLines.take 3) (List.take_prefix 3 talkLines) _ _
      (.taken rfl (.taken rfl (.refused rfl)))
    exact ⟨log, happly⟩
  · obtain ⟨lines, outcome, killed, log, hlines, happly, hdelivers⟩ :=
      delivers_generate "dub" ["p"] hreply (hoard 4) []
    have hending : (transcriptOf (talk ++ []) 2).ending =
        some (.build (.failed "dmd failed with exit code 1.")) := by
      rw [ending_transcriptOf, printedLines, printedText, ← Text.hasLines_iff.mp hlines,
        eq_talkLines hlines, if_neg (by decide)]
      refine congrArg (fun e => some (Failure.build e)) ?_
      decide +kernel
    obtain rfl := eq_talkLines hlines
    have htaken : Handed (hoard 4) [] talkLines talkLines none :=
      .taken rfl (.taken rfl (.taken rfl (.taken rfl (.nothing _))))
    obtain ⟨kept, hkept, rfl, rfl⟩ := hdelivers.all fun first hfirst t e =>
      htaken.not_refused hfirst t e
    rw [hkept.kept_eq htaken, hending] at happly
    exact ⟨log, happly⟩

end DubCheck.Dub
