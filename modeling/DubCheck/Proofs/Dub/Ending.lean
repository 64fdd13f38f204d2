import DubCheck.Proofs.Dub.Runs
import DubCheck.Proofs.Text.Line
import DubCheck.Proofs.Text.Numeral
import DubCheck.Proofs.Text.Search
import DubCheck.Proofs.Text.Utf8
/-!
# Why a build fails

While a build runs, two things are remembered of what it prints: the last line in which dub reports
a failure of the compiler, and the last line that is not blank.  Whether a failure is harmless is
decided later, by searching its message.  Both decisions come to the same: a failure is harmless if
dub reports a failure of the compiler anywhere in the output.

* `latest_foldl_hear`: what is remembered after all lines have been heard.
* `reporting_blame_iff`: the message reports a failure of the compiler if and only if a line does.
* `printedLines_printOf`: lines without line ends are read as they are printed.
* `lines_transcriptOf`: the lines are received as they have been read.
* `verdict_concluded`: the two decisions come to the verdict on the lines.
-/

namespace DubCheck.Dub

/-! ## The last line of a kind -/

/-- A line is the last one among some lines that has some property. -/
def IsLast (p : List Char → Prop) (lines : List (List Char)) (line : List Char) : Prop :=
  p line ∧ ∃ before after, lines = before ++ line :: after ∧ ∀ later ∈ after, ¬ p later

variable {p : List Char → Prop} {lines : List (List Char)} {line said : List Char}

lemma IsLast.mem (h : IsLast p lines line) : line ∈ lines := by
  obtain ⟨-, before, after, rfl, -⟩ := h
  exact List.mem_append_right before List.mem_cons_self

lemma isLast_concat_self (h : p line) : IsLast p (lines ++ [line]) line :=
  ⟨h, lines, [], rfl, by simp⟩

lemma IsLast.concat (h : IsLast p lines line) {next : List Char} (hnext : ¬ p next) :
    IsLast p (lines ++ [next]) line := by
  obtain ⟨hp, before, after, rfl, hafter⟩ := h
  refine ⟨hp, before, after ++ [next], by simp, ?_⟩
  rw [List.forall_mem_append, List.forall_mem_singleton]
  exact ⟨hafter, hnext⟩

/-- What is remembered is the last line with some property, without the blanks around it, or nothing
if there is no such line. -/
def Latest (p : List Char → Prop) (lines : List (List Char)) (said : List Char) : Prop :=
  (said = [] ∧ ∀ line ∈ lines, ¬ p line) ∨
    ∃ line, IsLast p lines line ∧ said = Text.trim line

/-- One more line is remembered if it has the property. -/
lemma Latest.concat [DecidablePred p] (h : Latest p lines said) (line : List Char) :
    Latest p (lines ++ [line]) (if p line then Text.trim line else said) := by
  split
  · rename_i hline
    exact Or.inr ⟨line, isLast_concat_self hline, rfl⟩
  · rename_i hline
    rcases h with ⟨hsaid, hnone⟩ | ⟨last, hlast, hsaid⟩
    · left
      rw [List.forall_mem_append, List.forall_mem_singleton]
      exact ⟨hsaid, hnone, hline⟩
    · exact Or.inr ⟨last, hlast.concat hline, hsaid⟩

/-! ## What is remembered -/

/-- A line in which dub reports a failure of the compiler. -/
def Reporting (line : List Char) : Prop :=
  "failed with exit code".toList <:+: line

/-- A line with something in it that is no blank. -/
def Spoken (line : List Char) : Prop :=
  Text.trim line ≠ []

instance : DecidablePred Spoken :=
  fun line => inferInstanceAs (Decidable (Text.trim line ≠ []))

lemma reportsCompiler_iff : reportsCompiler line = true ↔ Reporting line :=
  Text.occursIn_iff

instance : DecidablePred Reporting :=
  fun _ => decidable_of_iff _ reportsCompiler_iff

/-- Trimming a line does not change what it reports. -/
lemma reporting_trim_iff : Reporting (Text.trim line) ↔ Reporting line := by
  refine ⟨fun h => h.trans (Text.trim_infix line), fun h => Text.infix_trim h ?_ ?_⟩
  · rintro c ⟨⟩
    decide
  · rintro c ⟨⟩
    decide

lemma Reporting.trim_ne_nil (h : Reporting line) : Text.trim line ≠ [] := by
  intro hnil
  have hnone : Reporting [] := hnil ▸ reporting_trim_iff.mpr h
  rw [Reporting, List.infix_nil] at hnone
  cases hnone

lemma Reporting.mem (h : Reporting line) : 'l' ∈ line :=
  List.IsInfix.subset h (by decide)

/-- One more line is heard. -/
lemma hear_eq (r : Remarks) (line : List Char) :
    r.hear line = ⟨if Reporting line then Text.trim line else r.compiler,
      if Spoken line then Text.trim line else r.last⟩ := by
  have hlast : (if (Text.trim line).isEmpty then r.last else Text.trim line) =
      if Spoken line then Text.trim line else r.last := by
    by_cases h : Text.trim line = []
    · have hblank : ¬ Spoken line := not_not.mpr h
      rw [if_pos (by simp [h]), if_neg hblank]
    · have hspoken : Spoken line := h
      rw [if_neg (by simpa using h), if_pos hspoken]
  simp only [Remarks.hear, reportsCompiler_iff, hlast]

/-- What is remembered when all lines have been heard. -/
theorem latest_foldl_hear (lines : List (List Char)) :
    Latest Reporting lines (lines.foldl Remarks.hear {}).compiler ∧
      Latest Spoken lines (lines.foldl Remarks.hear {}).last := by
  -- The induction is on the line that is heard last.
  induction lines using List.reverseRecOn with
  | nil => exact ⟨Or.inl ⟨rfl, by simp⟩, Or.inl ⟨rfl, by simp⟩⟩
  | append_singleton lines line ih =>
    rw [List.foldl_append, List.foldl_cons, List.foldl_nil, hear_eq]
    exact ⟨ih.1.concat line, ih.2.concat line⟩

/-! ## The message -/

section Blame

variable {r : Remarks} (status : Int)

lemma blame_of_compiler (h : r.compiler ≠ []) :
    r.blame status = .failed (String.ofList r.compiler) := by
  rw [Remarks.blame, if_pos (by simpa using h)]

lemma blame_of_last (h : r.compiler = []) (hlast : r.last ≠ []) :
    r.blame status = .failed (String.ofList r.last) := by
  rw [Remarks.blame, if_neg (by simp [h]), if_pos (by simpa using hlast)]

lemma blame_of_nothing (h : r.compiler = []) (hlast : r.last = []) :
    r.blame status = .exited status := by
  rw [Remarks.blame, if_neg (by simp [h]), if_neg (by simp [hlast])]

end Blame

/-- Nothing but the last line is remembered if no line reports a failure of the compiler. -/
lemma compiler_foldl_hear (h : ∀ line ∈ lines, ¬ Reporting line) :
    (lines.foldl Remarks.hear {}).compiler = [] := by
  rcases (latest_foldl_hear lines).1 with ⟨hsaid, -⟩ | ⟨line, hline, -⟩
  · exact hsaid
  · exact absurd hline.1 (h line hline.mem)

/-- Why a run failed in which a line reports a failure of the compiler. -/
lemma blame_of_reporting (status : Int) (h : ∃ line ∈ lines, Reporting line) :
    ∃ line, IsLast Reporting lines line ∧
      (lines.foldl Remarks.hear {}).blame status =
        .failed (String.ofList (Text.trim line)) := by
  rcases (latest_foldl_hear lines).1 with ⟨-, hnone⟩ | ⟨line, hline, hsaid⟩
  · obtain ⟨line, hmem, hline⟩ := h
    exact absurd hline (hnone line hmem)
  · refine ⟨line, hline, ?_⟩
    have hne : (lines.foldl Remarks.hear {}).compiler ≠ [] := by
      rw [hsaid]
      exact hline.1.trim_ne_nil
    rw [blame_of_compiler status hne, hsaid]

/-- Why a run failed in which no line reports a failure of the compiler, but some line is not
blank. -/
lemma blame_of_spoken (status : Int) (hnone : ∀ line ∈ lines, ¬ Reporting line)
    (h : ∃ line ∈ lines, Spoken line) :
    ∃ line, IsLast Spoken lines line ∧
      (lines.foldl Remarks.hear {}).blame status =
        .failed (String.ofList (Text.trim line)) := by
  rcases (latest_foldl_hear lines).2 with ⟨-, hblank⟩ | ⟨line, hline, hsaid⟩
  · obtain ⟨line, hmem, hline⟩ := h
    exact absurd hline (hblank line hmem)
  · refine ⟨line, hline, ?_⟩
    have hne : (lines.foldl Remarks.hear {}).last ≠ [] := by
      rw [hsaid]
      exact hline.1
    rw [blame_of_last status (compiler_foldl_hear hnone) hne, hsaid]

/-- Why a run failed that printed nothing but blank lines. -/
lemma blame_of_silent (status : Int) (h : ∀ line ∈ lines, ¬ Spoken line) :
    (lines.foldl Remarks.hear {}).blame status = .exited status := by
  have hnone : ∀ line ∈ lines, ¬ Reporting line :=
    fun line hmem hline => h line hmem hline.trim_ne_nil
  rcases (latest_foldl_hear lines).2 with ⟨hsaid, -⟩ | ⟨line, hline, -⟩
  · exact blame_of_nothing status (compiler_foldl_hear hnone) hsaid
  · exact absurd hline.1 (h line hline.mem)

lemma message_failed (reason : String) : (BuildError.failed reason).message = reason := rfl

/-- That dub has exited reports nothing about the compiler. -/
lemma not_reporting_exited (status : Int) :
    ¬ Reporting (BuildError.exited status).message.toList := by
  intro h
  -- There is an `l` in the report, but none in the message.
  have hmem := h.mem
  have hmessage : (BuildError.exited status).message.toList =
      "dub exited with status ".toList ++ (toString status).toList := by
    have htext : (BuildError.exited status).message =
        "dub exited with status " ++ toString status := rfl
    rw [htext, String.toList_append]
  rw [hmessage, List.mem_append] at hmem
  rcases hmem with hmem | hmem
  · revert hmem
    decide
  · have hdigit := Text.isDigit_of_mem_toString hmem (by decide)
    revert hdigit
    decide

/-- Either a line reports a failure of the compiler, or none does and some line is not blank, or all
lines are blank. -/
lemma lines_cases (lines : List (List Char)) :
    (∃ line ∈ lines, Reporting line) ∨
      (∀ line ∈ lines, ¬ Reporting line) ∧ (∃ line ∈ lines, Spoken line) ∨
      ∀ line ∈ lines, ¬ Spoken line := by
  by_cases hreporting : ∃ line ∈ lines, Reporting line
  · exact Or.inl hreporting
  · have hnone : ∀ line ∈ lines, ¬ Reporting line :=
      fun line hmem hline => hreporting ⟨line, hmem, hline⟩
    by_cases hspoken : ∃ line ∈ lines, Spoken line
    · exact Or.inr (Or.inl ⟨hnone, hspoken⟩)
    · exact Or.inr (Or.inr fun line hmem hline => hspoken ⟨line, hmem, hline⟩)

lemma not_exists_reporting_of_blank (h : ∀ line ∈ lines, ¬ Spoken line) :
    ¬ ∃ line ∈ lines, Reporting line := by
  rintro ⟨line, hmem, hline⟩
  exact h line hmem hline.trim_ne_nil

/-- The message reports a failure of the compiler if and only if a line does. -/
theorem reporting_blame_iff (lines : List (List Char)) (status : Int) :
    Reporting ((lines.foldl Remarks.hear {}).blame status).message.toList ↔
      ∃ line ∈ lines, Reporting line := by
  rcases lines_cases lines with hreporting | ⟨hnone, hspoken⟩ | hblank
  · obtain ⟨line, hline, hblame⟩ := blame_of_reporting status hreporting
    refine iff_of_true ?_ hreporting
    rw [hblame, message_failed, String.toList_ofList]
    exact reporting_trim_iff.mpr hline.1
  · obtain ⟨line, hline, hblame⟩ := blame_of_spoken status hnone hspoken
    refine iff_of_false ?_ (by simpa using hnone)
    rw [hblame, message_failed, String.toList_ofList, reporting_trim_iff]
    exact hnone line hline.mem
  · refine iff_of_false ?_ fun ⟨line, hmem, hline⟩ => hblank line hmem hline.trim_ne_nil
    rw [blame_of_silent status hblank]
    exact not_reporting_exited status

/-! ## Transcripts -/

lemma printedText_encode {text : String} (h : '\r' ∉ text.toList) :
    printedText (Text.Utf8.encode text) = text.toList := by
  rw [printedText, Text.Utf8.decodeLossy_encode, Text.translateNewlines_eq_self h]

/-- Lines as they are printed, each with a newline after it. -/
def printOf (lines : List (List Char)) : List UInt8 :=
  Text.Utf8.encode (String.ofList (lines.flatMap fun line => line ++ ['\n']))

/-- Lines without line ends in them are read as they were before they were printed. -/
theorem printedLines_printOf (h : ∀ line ∈ lines, '\r' ∉ line ∧ '\n' ∉ line) :
    printedLines (printOf lines) = lines := by
  have hreturn : '\r' ∉ lines.flatMap fun line => line ++ ['\n'] := by
    rw [List.mem_flatMap]
    rintro ⟨line, hmem, hline⟩
    rw [List.mem_append, List.mem_singleton] at hline
    rcases hline with hline | hline
    · exact (h line hmem).1 hline
    · revert hline
      decide
  rw [printedLines, printOf, printedText_encode (by rwa [String.toList_ofList]),
    String.toList_ofList, Text.linesOf_flatMap fun line hmem => (h line hmem).2]

/-- There is no line end to remove from a line that has been read. -/
lemma dropLineEnd_of_mem_printedLines {output : List UInt8} (h : line ∈ printedLines output) :
    Text.dropLineEnd line = line := by
  have hreturn : '\r' ∉ line := fun hmem =>
    Text.return_not_mem_translateNewlines _ (Text.subset_of_mem_linesOf h hmem)
  exact Text.dropLineEnd_eq_self hreturn (Text.newline_not_mem_of_mem_linesOf h)

lemma map_dropLineEnd_printedLines (output : List UInt8) :
    (printedLines output).map Text.dropLineEnd = printedLines output :=
  (List.map_congr_left fun _ => dropLineEnd_of_mem_printedLines).trans (List.map_id _)

/-- The lines are received as they have been read. -/
lemma lines_transcriptOf (output : List UInt8) (status : Int) :
    (transcriptOf output status).lines = printedLines output :=
  map_dropLineEnd_printedLines output

lemma ending_transcriptOf (output : List UInt8) (status : Int) :
    (transcriptOf output status).ending = if status = 0 then none
      else some (.build (((printedLines output).foldl Remarks.hear {}).blame status)) := by
  rw [transcriptOf, map_dropLineEnd_printedLines]

/-! ## The verdict on a check -/

/-- What a build gives that only looks for issues, when dub has printed some lines and has ended
with some status.  `found` are the issues in the lines. -/
inductive Verdict (lines : List (List Char)) (found : List Issue) (status : Int) :
    Except Failure (List Issue) → Prop where
  | passed (harmless : status = 0 ∨ ∃ line ∈ lines, Reporting line) :
    Verdict lines found status (.ok found)
  | failed {line : List Char} {e : BuildError} (failure : status ≠ 0)
    (silent : ∀ line ∈ lines, ¬ Reporting line) (last : IsLast Spoken lines line)
    (message : e.message = String.ofList (Text.trim line)) :
    Verdict lines found status (.error (.build e))
  | exited {e : BuildError} (failure : status ≠ 0) (blank : ∀ line ∈ lines, ¬ Spoken line)
    (message : e.message = s!"dub exited with status {status}") :
    Verdict lines found status (.error (.build e))

/-- When dub has failed, there are issues if and only if a line reports a failure of the
compiler. -/
lemma Verdict.ok_iff {found : List Issue} {status : Int} {result : Except Failure (List Issue)}
    (h : Verdict lines found status result) (hstatus : status ≠ 0) :
    (∃ issues, result = .ok issues) ↔ ∃ line ∈ lines, Reporting line := by
  cases h with
  | passed harmless => exact iff_of_true ⟨found, rfl⟩ (harmless.resolve_left hstatus)
  | failed failure silent last message =>
    refine iff_of_false ?_ (by simpa using silent)
    rintro ⟨issues, ⟨⟩⟩
  | exited failure blank message =>
    refine iff_of_false ?_ (not_exists_reporting_of_blank blank)
    rintro ⟨issues, ⟨⟩⟩

/-- Searching the message of a failure comes to the verdict on the lines. -/
theorem verdict_concluded (found : List Issue) (output : List UInt8) (status : Int) :
    Verdict (printedLines output) found status
      (concluded found (transcriptOf output status).ending) := by
  rw [ending_transcriptOf]
  generalize printedLines output = lines
  by_cases hstatus : status = 0
  · rw [if_pos hstatus]
    exact .passed (Or.inl hstatus)
  · have hreports := reporting_blame_iff lines status
    rw [← reportsCompiler_iff] at hreports
    rw [if_neg hstatus, concluded]
    rcases lines_cases lines with hreporting | ⟨hnone, hspoken⟩ | hblank
    · rw [if_pos (hreports.mpr hreporting)]
      exact .passed (Or.inr hreporting)
    · rw [if_neg (mt hreports.mp (by simpa using hnone))]
      obtain ⟨line, hline, hblame⟩ := blame_of_spoken status hnone hspoken
      exact .failed hstatus hnone hline (congrArg BuildError.message hblame)
    · rw [if_neg (mt hreports.mp (not_exists_reporting_of_blank hblank))]
      exact .exited hstatus hblank (congrArg BuildError.message (blame_of_silent status hblank))

end DubCheck.Dub
