import DubCheck.Issue.Output
import DubCheck.Issue.Report
import DubCheck.Proofs.Issue.Classification
import DubCheck.Proofs.Text.Line
import DubCheck.Proofs.Text.Numeral
/-!
# Reading a report

An issue is printed as a header and a severity word, as the primary rule reads them, whichever rule
it came from.  It is read back unless its file or its message breaks the line, one of its numbers is
too long, or a header in its file is followed by a severity word.  None of this happens to an issue
that has itself been read.

* `Canonical`: what an issue needs in order to be read back.
* `canonical_of_classified`: the issues that a line stands for have it.
* `ofLine_format`: a canonical issue is read back.
* `complete_ofText_report`: so is the report of all issues in a text.
-/

namespace DubCheck.Issue

/-- An issue that is read back when it is printed. -/
structure Canonical (i : Issue) : Prop where
  line : i.line < 10 ^ Text.maxDigits
  column : i.column < 10 ^ Text.maxDigits
  file : Text.OneLine i.file.toList
  message : Text.OneLine i.message.toList
  unnamed : Unnamed i.file.toList

/-! ## Headers in a part of a line -/

lemma Header.Named.append {h : Header} (hh : h.Named) (tail : List Char) :
    Header.Named { h with rest := h.rest ++ tail } := by
  obtain ⟨s, spelling, rest, hspells, hsplit⟩ := hh
  refine ⟨s, spelling, rest ++ tail, hspells, ?_⟩
  simp only [hsplit, List.append_assoc, List.cons_append]

/-- In front of the first header that is followed by a severity word there is no other one. -/
lemma Header.IsFirst.unnamed {h : Header} {line : List Char}
    (hh : h.IsFirst line Header.Named) : Unnamed h.seen.reverse := by
  intro g hg hnamed
  -- Such a header would stand in the line too, before the first one.
  have hstands := hg.append (h.text ++ h.rest)
  rw [← hh.stands.split] at hstands
  have hle := hh.first _ hstands (hnamed.append _)
  have hlt := hg.length_lt
  rw [List.length_reverse] at hlt
  exact absurd hle (Nat.not_le_of_lt hlt)

/-- If no header of a line is followed by a severity word, then none in a file named there is. -/
lemma Unnamed.file {h : Header} {line : List Char} (hline : Unnamed line)
    (hh : h.StandsIn line) : Unnamed h.seen.reverse := by
  intro g hg hnamed
  have hstands := hg.append (h.text ++ h.rest)
  rw [← hh.split] at hstands
  exact hline _ hstands (hnamed.append _)

/-! ## The issues that a line stands for -/

variable {line : List Char} {h : Header}

lemma Header.Readable.columnOr_lt (hread : h.Readable) {defaultColumn : Nat}
    (hdefault : defaultColumn < 10 ^ Text.maxDigits) :
    h.columnOr defaultColumn < 10 ^ Text.maxDigits := by
  unfold columnOr
  split
  · exact hdefault
  · rename_i ds hds
    exact (Text.digitsValue_lt ds).trans_le (Nat.pow_le_pow_right (by decide) (hread.column ds hds))

/-- The issue at a header is canonical if its message is on one line and no header in its file is
followed by a severity word. -/
lemma Header.StandsIn.canonical (hh : h.StandsIn line) (hline : Text.OneLine line)
    (hread : h.Readable) (hunnamed : Unnamed h.seen.reverse) {defaultColumn : Nat}
    (hdefault : defaultColumn < 10 ^ Text.maxDigits) (s : Severity) {message : List Char}
    (hmessage : Text.OneLine message) : (h.issue defaultColumn s message).Canonical := by
  refine ⟨?_, hread.columnOr_lt hdefault, ?_, ?_, ?_⟩
  · exact (Text.digitsValue_lt h.line).trans_le (Nat.pow_le_pow_right (by decide) hread.line)
  · have hfile : h.seen.reverse ⊆ line := by
      rw [hh.split]
      exact List.subset_append_left _ _
    rw [Header.issue, String.toList_ofList]
    exact hline.subset hfile
  · rwa [Header.issue, String.toList_ofList]
  · rwa [Header.issue, String.toList_ofList]

lemma oneLine_toNewline {cs : List Char} (hcs : Text.OneLine cs) : Text.OneLine (toNewline cs) :=
  hcs.subset (List.takeWhile_sublist _).subset

/-- The text of a deprecation is on one line like the sentence that it was read from. -/
lemma ReadsDeprecated.oneLine {cs old new : List Char} (hreads : ReadsDeprecated cs old new)
    (hcs : Text.OneLine cs) : Text.OneLine (deprecationText old new) := by
  obtain ⟨stop, -, hsentence⟩ := hreads
  have hsubset : old ++ (deprecationPhrase ++ (new ++ deprecationEnding)) ⊆ cs := by
    have hstart : old ++ (deprecationPhrase ++ (new ++ deprecationEnding)) <+:
        deprecationSentence old new stop :=
      ⟨[stop], by simp only [deprecationSentence, List.append_assoc]⟩
    rcases hsentence with rfl | rfl
    · exact hstart.subset
    · exact (hstart.trans (List.prefix_append _ _)).subset
  have hstop : Text.OneLine ['.'] := by
    intro c hc
    rw [List.mem_singleton.mp hc]
    decide
  have htext := (hcs.subset hsubset).append hstop
  simpa only [deprecationText, List.append_assoc] using htext

/-- The issues that a line without boundaries stands for are canonical. -/
theorem canonical_of_classified {issues : List Issue} (hline : Text.OneLine line)
    (hissues : Classified line issues) : ∀ i ∈ issues, i.Canonical := by
  have hzero : 0 < 10 ^ Text.maxDigits := Nat.pow_pos (by decide)
  have hone : 1 < 10 ^ Text.maxDigits := Nat.one_lt_pow (by decide) (by decide)
  cases hissues with
  | @primary h s spelling rest first readable names undotted =>
    have hrest : Text.OneLine rest := by
      refine hline.subset (List.Subset.trans ?_ first.stands.rest_subset)
      rw [names.split]
      exact fun c hc => List.mem_append_right _ (List.mem_cons_of_mem _ (List.mem_cons_of_mem _ hc))
    intro i hi
    rw [List.mem_singleton.mp hi]
    exact first.stands.canonical hline readable first.unnamed hzero s (oneLine_toNewline hrest)
  | secondary unnamed continued deprecated =>
    intro i hi
    rcases List.mem_append.mp hi with hi | hi
    · cases continued with
      | first occurs first readable =>
        rw [List.mem_singleton.mp hi]
        have hrest := hline.subset first.stands.rest_subset
        exact first.stands.canonical hline readable (unnamed.file first.stands) hone _
          (oneLine_toNewline hrest)
      | absent absent => cases hi
    · cases deprecated with
      | @first h old new first readable names =>
        rw [List.mem_singleton.mp hi]
        have htext := names.reads.oneLine (hline.subset first.stands.rest_subset)
        exact first.stands.canonical hline readable (unnamed.file first.stands) hone _ htext
      | absent absent => cases hi

/-! ## Reading an issue back -/

/-- The header of an issue as it is printed. -/
def printedHeader (i : Issue) : Header where
  seen := i.file.toList.reverse
  line := Nat.toDigits 10 i.line
  column := some (Nat.toDigits 10 i.column)
  rest := i.severity.label.toList ++ ':' :: ' ' :: i.message.toList

variable {i : Issue}

lemma format_toList (i : Issue) :
    i.format.toList = i.file.toList ++ (i.printedHeader.text ++ i.printedHeader.rest) := by
  simp [format, printedHeader, Header.text, Header.columnText, toString, Nat.toList_repr]

lemma digits_toDigits (n : Nat) : Digits (Nat.toDigits 10 n) :=
  ⟨Nat.toDigits_ne_nil, fun _ hd => Text.isDigit_of_mem_toDigits hd⟩

lemma Canonical.standsIn (hi : i.Canonical) : i.printedHeader.StandsIn i.format.toList := by
  refine ⟨⟨digits_toDigits i.line, ?_⟩, ?_, ?_⟩
  · rintro ds ⟨⟩
    exact digits_toDigits i.column
  · rw [printedHeader, List.mem_reverse]
    exact hi.file.newline_not_mem
  · rw [format_toList, printedHeader, List.reverse_reverse]

lemma Canonical.readable (hi : i.Canonical) : i.printedHeader.Readable := by
  refine ⟨Text.length_toDigits_le (by decide) hi.line, ?_⟩
  rintro ds ⟨⟩
  exact Text.length_toDigits_le (by decide) hi.column

/-- The word for a severity as it is printed. -/
lemma namesSeverity_printed (i : Issue) :
    NamesSeverity i.printedHeader.rest i.severity i.severity.label.toList i.message.toList := by
  refine ⟨?_, rfl⟩
  unfold Spells Severity.word
  rw [List.forall₂_map_left_iff, List.forall₂_same]
  intro c _
  rw [isFormOf, beq_self_eq_true, Bool.true_or]

lemma Canonical.issue_eq (hi : i.Canonical) :
    i.printedHeader.issue 0 i.severity (toNewline i.message.toList) = i := by
  rw [toNewline_eq_self hi.message.newline_not_mem]
  simp only [Header.issue, Header.columnOr, printedHeader, Text.digitsValue_toDigits,
    List.reverse_reverse, String.ofList_toList]

/-! ## Headers across the end of the file -/

/-- If no header of a file is followed by a severity word, then none that is begins in the file,
where a parenthesis comes after the file. -/
theorem Unnamed.length_le {file tail : List Char} (hfile : Unnamed file) {g : Header}
    (hg : g.StandsIn (file ++ '(' :: tail)) (hnamed : g.Named) :
    file.length ≤ g.seen.length := by
  by_contra hlt
  obtain ⟨s, spelling, rest, hspells, hrest⟩ := hnamed
  obtain ⟨inner, htext, hinner⟩ := Header.exists_text_eq hg.numbered
  -- The header begins in the file, and so does the parenthesis at its beginning.
  have hline : g.seen.reverse ++ '(' :: (inner ++ g.rest) = file ++ '(' :: tail := by
    rw [hg.split, htext, List.cons_append]
  have hseen : g.seen.reverse ++ ['('] <+: file := by
    have hleft : g.seen.reverse ++ ['('] <+: file ++ '(' :: tail := by
      rw [← hline]
      exact ⟨inner ++ g.rest, by rw [List.append_assoc, List.singleton_append]⟩
    refine List.prefix_of_prefix_length_le hleft (List.prefix_append file _) ?_
    rw [List.length_append, List.length_reverse, List.length_singleton]
    omega
  obtain ⟨middle, rfl⟩ := hseen
  -- What comes after it up to the colon after the severity word has no parenthesis, so that it
  -- does not reach beyond the file.
  have hafter : (inner ++ (spelling ++ [':', ' '])) ++ rest = middle ++ '(' :: tail := by
    rw [hrest] at hline
    simp only [List.append_assoc, List.cons_append, List.nil_append] at hline ⊢
    exact (List.cons.inj (List.append_cancel_left hline)).2
  have hparen : '(' ∉ inner ++ (spelling ++ [':', ' ']) := by
    rw [List.mem_append, List.mem_append, not_or, not_or]
    exact ⟨hinner, paren_not_mem_of_spells hspells, by decide⟩
  obtain ⟨more, rfl⟩ := prefix_of_append_eq hafter hparen
  refine hfile { g with rest := spelling ++ ':' :: ' ' :: more } ⟨?_, hg.file, ?_⟩
    ⟨s, spelling, more, hspells, rfl⟩
  · exact ⟨hg.numbered.line, hg.numbered.column⟩
  · change _ = g.seen.reverse ++ (g.text ++ (spelling ++ ':' :: ' ' :: more))
    rw [htext]
    simp only [List.append_assoc, List.cons_append, List.nil_append]

/-- **An issue is read back.**  The line that a canonical issue is printed on is read as this
issue. -/
theorem ofLine_format (hi : i.Canonical) : ofLine i.format.toList = .ok [i] := by
  have hnames := namesSeverity_printed i
  have hfirst : i.printedHeader.IsFirst i.format.toList Header.Named := by
    refine ⟨hi.standsIn, ⟨_, _, _, hnames⟩, fun g hg hnamed => ?_⟩
    rw [format_toList, Header.text, List.cons_append] at hg
    have hle := hi.unnamed.length_le hg hnamed
    rwa [printedHeader, List.length_reverse]
  have hundotted : dottedCapital ∉ i.severity.label.toList := by
    cases i.severity <;> decide
  have hclassified := Classified.primary hfirst hi.readable hnames hundotted
  rw [hi.issue_eq] at hclassified
  exact ofLine_of_classified hclassified

/-! ## Reading a report back -/

lemma oneLine_format (hi : i.Canonical) : Text.OneLine i.format.toList := by
  have hdigit : ∀ d < 10, Text.isLineBoundary (Nat.digitChar d) = false := by decide
  have hnumber : ∀ n, Text.OneLine (Nat.toDigits 10 n) := by
    intro n c hc
    obtain ⟨d, hd, rfl⟩ := Text.exists_digitChar_of_mem_toDigits hc
    exact hdigit d hd
  have hlabel : Text.OneLine i.severity.label.toList := by
    cases i.severity <;> decide
  have hend : Text.OneLine [')', ':', ' '] := by
    decide
  have hcolumn : Text.OneLine i.printedHeader.columnText :=
    Text.OneLine.cons (by decide) (hnumber i.column)
  have htext : Text.OneLine i.printedHeader.text :=
    Text.OneLine.cons (by decide) ((hnumber i.line).append (hcolumn.append hend))
  have hrest : Text.OneLine i.printedHeader.rest :=
    hlabel.append (Text.OneLine.cons (by decide) (Text.OneLine.cons (by decide) hi.message))
  rw [format_toList]
  exact hi.file.append (htext.append hrest)

lemma ofRawLine_eq {line : List Char} (hline : Text.OneLine line) :
    ofRawLine line = ofLine line := by
  unfold ofRawLine
  rw [Text.dropLineEnd_eq_self hline.return_not_mem hline.newline_not_mem]

/-- What is read in lines without boundaries is canonical. -/
lemma canonical_of_mem_ofLines {lines : List (List Char)} (hlines : ∀ l ∈ lines, Text.OneLine l) :
    ∀ i ∈ (ofLines lines).issues, i.Canonical := by
  induction lines with
  | nil => exact fun i hi => absurd hi List.not_mem_nil
  | cons line lines ih =>
    rw [List.forall_mem_cons] at hlines
    intro i hi
    unfold ofLines at hi
    rw [ofRawLine_eq hlines.1] at hi
    split at hi
    · rename_i found hfound
      rcases List.mem_append.mp hi with hi | hi
      · exact canonical_of_classified hlines.1 (classified_of_ofLine hfound) i hi
      · exact ih hlines.2 i hi
    · cases hi

lemma ofLines_format {issues : List Issue} (hissues : ∀ i ∈ issues, i.Canonical) :
    ofLines (issues.map fun i => i.format.toList) = ⟨issues, none⟩ := by
  induction issues with
  | nil => rfl
  | cons i issues ih =>
    rw [List.forall_mem_cons] at hissues
    rw [List.map_cons, ofLines, ofRawLine_eq (oneLine_format hissues.1), ofLine_format hissues.1,
      ih hissues.2]
    rfl

lemma report_toList (issues : List Issue) :
    (Report.ofIssues false issues).toList =
      (issues.map fun i => i.format.toList).flatMap fun l => l ++ ['\n'] := by
  simp [Report.ofIssues, Report.lines, Report.line, String.toList_join, List.flatMap_map]

/-- **A report is read back.**  If the issues in a text can be read, then the report of them is read
as the same issues, in the same order. -/
theorem complete_ofText_report {text : List Char} {issues : List Issue}
    (h : (ofText text).complete = .ok issues) :
    (ofText (Report.ofIssues false issues).toList).complete = .ok issues := by
  have hissues : (ofText text).issues = issues := by
    unfold Findings.complete at h
    split at h
    · exact Except.ok.inj h
    · cases h
  have hcanonical : ∀ i ∈ issues, i.Canonical := by
    rw [← hissues]
    exact canonical_of_mem_ofLines fun _ hl => Text.oneLine_of_mem_splitLines hl
  have hlines : ∀ l ∈ issues.map (fun i => i.format.toList), Text.OneLine l := by
    intro l hl
    obtain ⟨i, hi, rfl⟩ := List.mem_map.mp hl
    exact oneLine_format (hcanonical i hi)
  unfold ofText
  rw [report_toList, Text.splitLines_flatMap hlines, ofLines_format hcanonical]
  rfl

/-! A text in which one line gives two issues. -/

theorem complete_ofText_report_of_sample :
    let issues : List Issue :=
      [⟨3, 1, "a.d", .error, "f is deprecated, use g from h instead."⟩,
        ⟨3, 1, "a.d", .deprecation, "f is deprecated, use g from h instead."⟩]
    (ofText "a.d(3): f is deprecated, use g from h instead.\n".toList).complete = .ok issues ∧
      (ofText (Report.ofIssues false issues).toList).complete = .ok issues := by
  have hread : (ofText "a.d(3): f is deprecated, use g from h instead.\n".toList).complete =
      .ok [⟨3, 1, "a.d", .error, "f is deprecated, use g from h instead."⟩,
        ⟨3, 1, "a.d", .deprecation, "f is deprecated, use g from h instead."⟩] := by
    cbv
  exact ⟨hread, complete_ofText_report hread⟩

end DubCheck.Issue
