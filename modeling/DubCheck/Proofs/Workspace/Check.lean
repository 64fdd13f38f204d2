import DubCheck.Proofs.Dub.Ending
import DubCheck.Proofs.Issue.Legibility
import DubCheck.Proofs.Workspace.Isolation
/-!
# What a check gives

A check is a build that only looks for issues.  dub is run once, and each line that it prints is
read as soon as it is printed; what the check gives depends on these lines and on how dub ends.

* `Session.runCheck_verdict`: the verdict on the lines and the status, when all lines can be read.
* `Session.readsWhole_iff`: reading line by line gives the issues in the whole text, unless there is
  a boundary in the text that is no newline.
* `Session.checksSafely_iff`: a check fails for a reason of its own and kills no dub, unless a line
  cannot be read or the system refuses to look for the compiler.
-/

namespace DubCheck

/-- A check may fail because its compiler is not found, or because the build fails. -/
def Failure.OfCheck (e : Failure) : Prop :=
  (∃ reason, e = .compiler reason) ∨ ∃ reason, e = .build reason

namespace Dub

/-- What a check gives when dub has printed some bytes and has ended with some status, and whether
dub is killed because a line cannot be read. -/
def checked (output : List UInt8) (status : Int) : Except Failure (List Issue) × Bool :=
  match Issue.ofLines (printedLines output) with
  | ⟨found, none⟩ => (concluded found (transcriptOf output status).ending, false)
  | ⟨_, some e⟩ => (.error (.ofUnreadable e), true)

lemma checkOf_finished (program : String) (stdout stderr : List UInt8) (status : Int) :
    checkOf program (.finished stdout stderr status) = checked (stdout ++ stderr) status := by
  rw [checked, ← lines_transcriptOf (stdout ++ stderr) status]
  rfl

variable {output : List UInt8} {status : Int}

lemma checked_of_forall₂ {found : List (List Issue)}
    (h : List.Forall₂ (fun line issues => Issue.ofLine line = .ok issues)
      (printedLines output) found) :
    checked output status =
      (concluded found.flatten (transcriptOf output status).ending, false) := by
  have hraw : List.Forall₂ (fun line issues => Issue.ofRawLine line = .ok issues)
      (printedLines output) found := by
    rw [← map_dropLineEnd_printedLines, List.forall₂_map_left_iff] at h
    exact h
  rw [checked, Issue.ofLines_of_forall₂ hraw]

lemma checked_success (output : List UInt8) :
    (checked output 0).1 =
      (Issue.ofLines (printedLines output)).complete.mapError .ofUnreadable := by
  rw [checked, ending_transcriptOf, if_pos rfl]
  rcases Issue.ofLines (printedLines output) with ⟨found, _ | e⟩ <;> rfl

/-- A check does not fail for another reason, and dub is not killed. -/
def Safe (check : Except Failure (List Issue) × Bool) : Prop :=
  (∀ e, check.1 = .error e → e.OfCheck) ∧ check.2 = false

lemma safe_concluded (found : List Issue) {ending : Option Failure}
    (hending : ∀ e, ending = some e → ∃ reason, e = .build reason) :
    Safe (concluded found ending, false) := by
  refine ⟨fun e he => Or.inr ?_, rfl⟩
  cases ending with
  | none => cases he
  | some e' =>
    obtain ⟨reason, rfl⟩ := hending e' rfl
    dsimp only [concluded] at he
    split at he <;> cases he
    exact ⟨reason, rfl⟩

lemma fault_printedLines_eq_none_iff : (Issue.ofLines (printedLines output)).fault = none ↔
    ∀ line ∈ printedLines output, Issue.Legible line := by
  rw [Issue.fault_ofLines_eq_none_iff]
  refine forall₂_congr fun line hline => ?_
  rw [Issue.ofRawLine, dropLineEnd_of_mem_printedLines hline, Issue.exists_ofLine_eq_ok_iff]

/-- If dub ends by itself, the check is safe if and only if the lines can be read. -/
lemma safe_checked_iff (output : List UInt8) (status : Int) :
    Safe (checked output status) ↔ ∀ line ∈ printedLines output, Issue.Legible line := by
  rw [← fault_printedLines_eq_none_iff, checked]
  rcases Issue.ofLines (printedLines output) with ⟨found, _ | e⟩
  · refine iff_of_true (safe_concluded found fun e he => ?_) rfl
    rw [ending_transcriptOf] at he
    split at he <;> cases he
    exact ⟨_, rfl⟩
  · refine iff_of_false ?_ (Option.some_ne_none e)
    rintro ⟨-, ⟨⟩⟩

end Dub

namespace Session

variable {s : Session} {selection : Selection} {output : List UInt8} {status : Int}

/-- When a selection is checked, dub is started, prints some bytes and ends with some status. -/
structure Prints (s : Session) (selection : Selection) (output : List UInt8) (status : Int) :
    Prop where
  engine : ∃ program directory, s.workspace.engine = .dub program directory
  reply : ∃ c stdout stderr, s.workspace.resolver.resolve s.host selection.compiler = .ok c ∧
    s.host.dub (selection.checkSettings c).buildArguments = .finished stdout stderr status ∧
    output = stdout ++ stderr

/-- What a check gives comes of what dub prints and how it ends. -/
lemma Prints.runCheck_eq (h : s.Prints selection output status) :
    ((runCheck selection).apply s).1 = (Dub.checked output status).1 := by
  obtain ⟨⟨program, directory, hengine⟩, c, stdout, stderr, hc, hreply, rfl⟩ := h
  have hne : s.host.dub (selection.checkSettings c).buildArguments ≠ .interrupted := by
    rw [hreply]
    rintro ⟨⟩
  obtain ⟨log, hrun⟩ := runCheck_of_compiler hengine hc hne
  rw [hrun, hreply, Dub.checkOf_finished]

/-! ## A sample -/

/-- A session in which dub prints some bytes and ends with some status, whatever it is asked. -/
def printing (output : List UInt8) (status : Int) : Session where
  host := { History.sampleHost with dub := fun _ => .finished output [] status }
  workspace := History.sampleSession.workspace

/-- What is selected in it. -/
def printingSelection : Selection where
  configuration := .string "library"
  compiler := "dmd"

lemma prints_printing (output : List UInt8) (status : Int) :
    (printing output status).Prints printingSelection output status := by
  have hc : ∃ c, (printing output status).workspace.resolver.resolve (printing output status).host
      printingSelection.compiler = .ok c := ⟨_, by cbv⟩
  obtain ⟨c, hc⟩ := hc
  exact ⟨⟨_, _, rfl⟩, c, output, [], hc, rfl, (List.append_nil output).symm⟩

/-! ## The verdict -/

/-- **The verdict on a check.**  When all lines can be read, a check gives the issues in all of them
if dub succeeds or if some line reports a failure of the compiler, wherever it stands.  Otherwise it
fails, and the message is the last line that is not blank, or names the status if there is none. -/
theorem runCheck_verdict (h : s.Prints selection output status) {found : List (List Issue)}
    (hfound : List.Forall₂ (fun line issues => Issue.ofLine line = .ok issues)
      (Dub.printedLines output) found) :
    Dub.Verdict (Dub.printedLines output) found.flatten status ((runCheck selection).apply s).1 ∧
      (status ≠ 0 → ((∃ issues, ((runCheck selection).apply s).1 = .ok issues) ↔
        ∃ line ∈ Dub.printedLines output, Dub.Reporting line)) := by
  have hverdict : Dub.Verdict (Dub.printedLines output) found.flatten status
      ((runCheck selection).apply s).1 := by
    rw [h.runCheck_eq, Dub.checked_of_forall₂ hfound]
    exact Dub.verdict_concluded found.flatten output status
  exact ⟨hverdict, hverdict.ok_iff⟩

/-- What a build prints that fails because of errors, and goes on after it has said so. -/
def sampleLines : List (List Char) :=
  ["a.d(1): Error: x".toList, "dmd failed with exit code 1.".toList, "b.d(2): Warning: y".toList]

lemma printedLines_sampleLines : Dub.printedLines (Dub.printOf sampleLines) = sampleLines :=
  Dub.printedLines_printOf (by decide +kernel)

theorem runCheck_verdict_of_sampleLines :
    Dub.Verdict sampleLines [⟨1, 0, "a.d", .error, "x"⟩, ⟨2, 0, "b.d", .warning, "y"⟩] 2
      ((runCheck printingSelection).apply (printing (Dub.printOf sampleLines) 2)).1 := by
  have hfound : List.Forall₂ (fun line issues => Issue.ofLine line = .ok issues)
      (Dub.printedLines (Dub.printOf sampleLines))
      [[⟨1, 0, "a.d", .error, "x"⟩], [], [⟨2, 0, "b.d", .warning, "y"⟩]] := by
    rw [printedLines_sampleLines]
    refine .cons (by cbv) (.cons ?_ (.cons (by cbv) .nil))
    exact Issue.ofLine_of_classified (Issue.classified_of_paren_not_mem (by decide +kernel))
  have hverdict := (runCheck_verdict (prints_printing _ 2) hfound).1
  rw [printedLines_sampleLines] at hverdict
  exact hverdict

/-! ## Reading line by line -/

/-- When a check succeeds, and dub has printed some text, the issues are those that are found when
the whole text is read at once. -/
def ReadsWhole (text : List Char) : Prop :=
  ∀ (s : Session) (selection : Selection) (output : List UInt8),
    s.Prints selection output 0 → Dub.printedText output = text →
      ((runCheck selection).apply s).1 = (Issue.ofText text).complete.mapError .ofUnreadable

/-- The whole text is read if the two ways of cutting it come to the same. -/
lemma readsWhole_text_iff {text : List Char} (hreturn : '\r' ∉ text) :
    ReadsWhole text ↔ (Issue.ofLines (Text.linesOf text)).complete.mapError Failure.ofUnreadable =
      (Issue.ofText text).complete.mapError .ofUnreadable := by
  constructor
  · intro h
    let output := Text.Utf8.encode (String.ofList text)
    have htext : Dub.printedText output = text := by
      rw [← String.toList_ofList (l := text)] at hreturn ⊢
      exact Dub.printedText_encode hreturn
    have hwhole := h _ _ _ (prints_printing output 0) htext
    rw [(prints_printing output 0).runCheck_eq, Dub.checked_success, Dub.printedLines, htext]
      at hwhole
    exact hwhole
  · rintro h s selection output hprints rfl
    rw [hprints.runCheck_eq, Dub.checked_success]
    exact h

/-- A line with one issue. -/
def sampleLine : List Char :=
  "a(1): Error: x".toList

lemma ofLine_sampleLine : Issue.ofLine sampleLine = .ok [⟨1, 0, "a", .error, "x"⟩] := by
  cbv

/-- Three such lines with a character between them. -/
def threeLines (c : Char) : List Char :=
  sampleLine ++ c :: (sampleLine ++ c :: sampleLine)

lemma ofText_threeLines {c : Char} (hc : Text.isLineBoundary c = true) (hreturn : c ≠ '\r') :
    (Issue.ofText (threeLines c ++ ['\n'])).complete =
      .ok (List.replicate 3 ⟨1, 0, "a", .error, "x"⟩) := by
  have hline : Text.OneLine sampleLine := by decide
  have hlines :
      Text.splitLines (threeLines c ++ ['\n']) = [sampleLine, sampleLine, sampleLine] := by
    rw [threeLines, List.append_assoc, List.cons_append,
      Text.splitLines_append_boundary hline hc hreturn, List.append_assoc, List.cons_append,
      Text.splitLines_append_boundary hline hc hreturn,
      Text.splitLines_append_boundary hline (by decide) (by decide)]
    rfl
  have hraw : Issue.ofRawLine sampleLine = .ok [⟨1, 0, "a", .error, "x"⟩] := by
    rw [Issue.ofRawLine, Text.dropLineEnd_eq_self (by decide) (by decide), ofLine_sampleLine]
  rw [Issue.ofText, hlines, Issue.ofLines_of_forall₂
    (.cons hraw (.cons hraw (.cons hraw .nil)))]
  rfl

/-- A line has not as many issues as three lines. -/
lemma not_readsWhole_threeLines {c : Char} (hc : Text.isLineBoundary c = true)
    (hreturn : c ≠ '\r') (hnewline : c ≠ '\n') : ¬ ReadsWhole (threeLines c ++ ['\n']) := by
  have hnone : ∀ {d : Char}, d ∉ sampleLine → d ≠ c → d ∉ threeLines c := by
    intro d hd hne
    simp [threeLines, hd, hne]
  have hreturns : '\r' ∉ threeLines c ++ ['\n'] := by
    rw [List.mem_append, not_or]
    exact ⟨hnone (by decide) hreturn.symm, by decide⟩
  have hlines : Text.linesOf (threeLines c ++ ['\n']) = [threeLines c] :=
    Text.linesOf_append_newline (hnone (by decide) hnewline.symm) []
  rw [readsWhole_text_iff hreturns, hlines, ofText_threeLines hc hreturn, Issue.ofLines]
  cases hfound : Issue.ofRawLine (threeLines c) with
  | error e => rintro ⟨⟩
  | ok found =>
    intro h
    have hlength : found.length ≤ 2 := (Issue.classified_of_ofLine hfound).length_le
    have heq : found ++ [] = List.replicate 3 ⟨1, 0, "a", .error, "x"⟩ := Except.ok.inj h
    rw [List.append_nil] at heq
    rw [heq] at hlength
    exact absurd hlength (by decide)

/-- The whole text is read if each boundary in it is a newline or a carriage return. -/
lemma readsWhole_of_newlines {text : List Char}
    (h : ∀ d ∈ text, Text.isLineBoundary d = true → Text.isReturnOrNewline d = true) :
    ReadsWhole text := by
  rintro s selection output hprints rfl
  have hreturn := Text.return_not_mem_translateNewlines (Text.Utf8.decodeLossy output)
  refine (readsWhole_text_iff hreturn).mpr ?_ s selection output hprints rfl
  rw [Issue.ofText, Text.splitLines_eq_linesOf]
  intro d hd hboundary
  have hend := h d hd hboundary
  rw [Text.isReturnOrNewline, Bool.or_eq_true, beq_iff_eq, beq_iff_eq] at hend
  exact hend.resolve_left (ne_of_mem_of_not_mem hd hreturn)

/-- **Reading line by line.**  A character keeps the issues in the whole text from being found only
if it ends a line and is neither a newline nor a carriage return, and every such character does. -/
theorem readsWhole_iff (c : Char) :
    (∀ text, (∀ d ∈ text, Text.isLineBoundary d = true → d = '\n' ∨ d = c) → ReadsWhole text) ↔
      (Text.isLineBoundary c = true → Text.isReturnOrNewline c = true) := by
  constructor
  · intro h hc
    by_contra hnot
    rw [Text.isReturnOrNewline, Bool.or_eq_true, beq_iff_eq, beq_iff_eq, not_or] at hnot
    refine not_readsWhole_threeLines hc hnot.1 hnot.2 (h _ fun d hd hboundary => ?_)
    -- The lines have no boundary, so it is one that was put between or after them.
    have hline : d ∉ sampleLine := by
      intro hmem
      have hone : Text.OneLine sampleLine := by decide
      rw [hone d hmem] at hboundary
      cases hboundary
    simpa [threeLines, hline, or_comm] using hd
  · intro h text htext
    refine readsWhole_of_newlines fun d hd hboundary => ?_
    rcases htext d hd hboundary with rfl | rfl
    · rfl
    · exact h hboundary

/-- The form feed, which ends a line but is no newline. -/
def formFeed : Char := Char.ofNat 0xC

theorem not_readsWhole_of_formFeed : ¬ ∀ text, ReadsWhole text := by
  have hboundary : Text.isLineBoundary formFeed = true := by decide
  intro h
  exact not_readsWhole_threeLines hboundary (by decide) (by decide) (h _)

/-! ## Safety -/

/-- A check fails for a reason of its own only, and does not kill dub. -/
structure ChecksSafely (s : Session) (selection : Selection) : Prop where
  failure : ∀ e, ((runCheck selection).apply s).1 = .error e → e.OfCheck
  unharmed : ∃ runs, ((runCheck selection).apply s).2.host.runs = s.host.runs ++ runs ∧
    ∀ run ∈ runs, ¬ run.Killed

/-- dub is asked when a selection is checked, and nobody interrupts it. -/
structure Undisturbed (s : Session) (selection : Selection) : Prop where
  engine : ∃ program directory, s.workspace.engine = .dub program directory
  quiet : ∀ c, s.workspace.resolver.resolve s.host selection.compiler = .ok c →
    s.host.dub (selection.checkSettings c).buildArguments ≠ .interrupted

lemma checksSafely_of_error_iff {e : Failure}
    (he : s.workspace.resolver.resolve s.host selection.compiler = .error e) :
    s.ChecksSafely selection ↔ ∃ reason, e = .compiler reason := by
  have hrun := runCheck_of_error he
  constructor
  · rintro ⟨hfailure, -⟩
    rw [hrun] at hfailure
    rcases hfailure e rfl with hcompiler | ⟨reason, rfl⟩
    · exact hcompiler
    · rcases Resolver.resolve_eq_error he with ⟨_, ⟨⟩⟩ | ⟨_, _, ⟨⟩⟩
  · rintro ⟨reason, rfl⟩
    constructor
    · intro e' he'
      rw [hrun] at he'
      cases he'
      exact Or.inl ⟨reason, rfl⟩
    · rw [hrun]
      exact ⟨[], (List.append_nil _).symm, by simp⟩

lemma checksSafely_of_compiler_iff {program : String} {directory : Location}
    (hengine : s.workspace.engine = .dub program directory) {c : Compiler}
    (hc : s.workspace.resolver.resolve s.host selection.compiler = .ok c)
    (hreply : s.host.dub (selection.checkSettings c).buildArguments ≠ .interrupted) :
    s.ChecksSafely selection ↔
      Dub.Safe (Dub.checkOf program (s.host.dub (selection.checkSettings c).buildArguments)) := by
  obtain ⟨log, hrun⟩ := runCheck_of_compiler hengine hc hreply
  constructor
  · rintro ⟨hfailure, runs, hafter, hunharmed⟩
    rw [hrun] at hfailure
    rw [hrun, Host.ran_runs, List.append_cancel_left_eq] at hafter
    refine ⟨hfailure, Bool.eq_false_iff.mpr fun hkilled => ?_⟩
    exact hunharmed _ (hafter ▸ List.mem_singleton_self _) (Dub.killed_buildRun_iff.mpr hkilled)
  · rintro ⟨hfailure, hunharmed⟩
    constructor
    · rw [hrun]
      exact hfailure
    · rw [hrun]
      refine ⟨_, Host.ran_runs _ _, ?_⟩
      rw [List.forall_mem_singleton, Dub.killed_buildRun_iff, hunharmed]
      exact Bool.false_ne_true

/-- If dub ends by itself, a check is safe if and only if all lines can be read. -/
lemma Prints.checksSafely_iff_legible (h : s.Prints selection output status) :
    s.ChecksSafely selection ↔ ∀ line ∈ Dub.printedLines output, Issue.Legible line := by
  obtain ⟨⟨program, directory, hengine⟩, c, stdout, stderr, hc, hreply, rfl⟩ := h
  rw [checksSafely_of_compiler_iff hengine hc (by rw [hreply]; rintro ⟨⟩), hreply,
    Dub.checkOf_finished, Dub.safe_checked_iff]

/-- **Safety of a check.**  A line is read, reading some lines goes on to the end, and a check fails
for a reason of its own only and does not kill dub, if and only if the lines are legible; the check
also needs a system that lets it look for the compiler. -/
theorem checksSafely_iff (h : s.Undisturbed selection) (line : List Char)
    (lines : List (List Char)) :
    ((∃ issues, Issue.ofLine line = .ok issues) ↔ Issue.Legible line) ∧
    ((Issue.ofLines lines).fault = none ↔
      ∀ line ∈ lines, Issue.Legible (Text.dropLineEnd line)) ∧
    (s.ChecksSafely selection ↔
      (∀ e, s.workspace.resolver.resolve s.host selection.compiler = .error e →
        ∃ reason, e = .compiler reason) ∧
      ∀ output status, s.Prints selection output status →
        ∀ line ∈ Dub.printedLines output, Issue.Legible line) := by
  refine ⟨Issue.exists_ofLine_eq_ok_iff, ?_, ?_⟩
  · rw [Issue.fault_ofLines_eq_none_iff]
    exact forall₂_congr fun line _ => Issue.exists_ofLine_eq_ok_iff
  · obtain ⟨⟨program, directory, hengine⟩, hquiet⟩ := h
    constructor
    · intro h
      refine ⟨fun e he => (checksSafely_of_error_iff he).mp h, ?_⟩
      exact fun output status hprints => hprints.checksSafely_iff_legible.mp h
    · rintro ⟨hcompiler, hlegible⟩
      cases hc : s.workspace.resolver.resolve s.host selection.compiler with
      | error e => exact (checksSafely_of_error_iff hc).mpr (hcompiler e hc)
      | ok c =>
        cases hreply : s.host.dub (selection.checkSettings c).buildArguments with
        | finished stdout stderr status =>
          have hprints : s.Prints selection (stdout ++ stderr) status :=
            ⟨⟨program, directory, hengine⟩, c, stdout, stderr, hc, hreply, rfl⟩
          exact hprints.checksSafely_iff_legible.mpr (hlegible _ _ hprints)
        | interrupted => exact absurd hreply (hquiet c hc)
        | noProgram | denied | timedOut =>
          -- dub has not printed anything that a line could be read from.
          rw [checksSafely_of_compiler_iff hengine hc (hquiet c hc), hreply]
          refine Dub.safe_concluded [] ?_
          rintro e ⟨⟩
          exact ⟨_, rfl⟩

theorem checksSafely_of_sampleLines :
    (printing (Dub.printOf sampleLines) 2).Undisturbed printingSelection ∧
      (printing (Dub.printOf sampleLines) 2).ChecksSafely printingSelection := by
  have hundisturbed : (printing (Dub.printOf sampleLines) 2).Undisturbed printingSelection := by
    refine ⟨⟨_, _, rfl⟩, ?_⟩
    rintro c - ⟨⟩
  refine ⟨hundisturbed, (checksSafely_iff hundisturbed [] []).2.2.mpr ⟨?_, ?_⟩⟩
  · obtain ⟨-, c, -, -, hc, -, -⟩ := prints_printing (Dub.printOf sampleLines) 2
    intro e he
    rw [hc] at he
    cases he
  · rintro output status ⟨-, c, stdout, stderr, -, ⟨⟩, rfl⟩ line hline
    rw [List.append_nil, printedLines_sampleLines] at hline
    have hshort : ∀ line ∈ sampleLines,
        Issue.dottedCapital ∉ line ∧ line.length ≤ Text.maxDigits := by
      decide +kernel
    obtain ⟨hdotted, hlength⟩ := hshort line hline
    exact Issue.legible_of_length_le hdotted hlength

/-- A line that names a severity with the capital `İ` in it. -/
def dottedLine : List Char :=
  "a.d(1): deprecatİon: x".toList

theorem not_checksSafely_of_dottedLine :
    (¬ ∃ issues, Issue.ofLine dottedLine = .ok issues) ∧
      ¬ (printing (Dub.printOf [dottedLine]) 1).ChecksSafely printingSelection := by
  have hline : Issue.ofLine dottedLine = .error (.severity "DEPRECATİON") := by
    cbv
  have hnone : ¬ ∃ issues, Issue.ofLine dottedLine = .ok issues := by
    rintro ⟨issues, h⟩
    rw [hline] at h
    cases h
  refine ⟨hnone, ?_⟩
  rw [(prints_printing _ 1).checksSafely_iff_legible, Dub.printedLines_printOf (by decide +kernel)]
  intro h
  exact hnone (Issue.exists_ofLine_eq_ok_iff.mpr (h dottedLine (List.mem_singleton_self _)))

end Session

end DubCheck
