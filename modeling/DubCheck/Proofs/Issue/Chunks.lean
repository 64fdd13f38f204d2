import DubCheck.Issue.Output
import DubCheck.Proofs.Issue.Legibility
import DubCheck.Proofs.Issue.RoundTrip
import DubCheck.Proofs.Text.Line
/-!
# Output that comes in chunks

The output of a build can be read in chunks as it comes in.  Each chunk is cut into lines by itself,
so that a chunk has to end where a line ends, or the line that goes on in the next one is cut in
two.  This is the only condition.  A carriage return at the end of a chunk and a newline at the
beginning of the next one are two boundaries in place of one, but the empty line between them stands
for no issue.

* `Text.splitLines_append`: how a text is cut that is put together from two.
* `ofText_append`: what is found in such a text.
* `foldl_feed_eq`: reading chunks one after another is reading them all at once.
* `complete_of_chunks`: which issues are found, and those found so far are the first of them.
-/

namespace DubCheck

/-! ## Lines of chunks -/

namespace Text

/-- A text that is empty or ends in a line boundary. -/
def Closed (cs : List Char) : Prop :=
  ∀ c, cs.getLast? = some c → isLineBoundary c = true

variable {c : Char} {cs : List Char}

lemma closed_nil : Closed [] := by
  rintro c ⟨⟩

lemma Closed.of_cons (h : Closed (c :: cs)) : Closed cs := by
  intro d hd
  refine h d ?_
  rw [List.getLast?_cons, hd, Option.getD_some]

lemma Closed.append {cs' : List Char} (h : Closed cs) (h' : Closed cs') : Closed (cs ++ cs') := by
  intro d hd
  rw [List.getLast?_append, Option.or_eq_some_iff] at hd
  rcases hd with hd | ⟨-, hd⟩
  · exact h' d hd
  · exact h d hd

lemma closed_flatten {chunks : List (List Char)} (h : ∀ chunk ∈ chunks, Closed chunk) :
    Closed chunks.flatten := by
  induction chunks with
  | nil => exact closed_nil
  | cons chunk chunks ih =>
    rw [List.forall_mem_cons] at h
    exact h.1.append (ih h.2)

lemma consFirst_append {ls : List (List Char)} (h : ls ≠ []) (c : Char) (ms : List (List Char)) :
    consFirst c (ls ++ ms) = consFirst c ls ++ ms := by
  cases ls with
  | nil => exact absurd rfl h
  | cons l ls => rfl

lemma splitLines_cons_of_boundary (hc : isLineBoundary c = true)
    (hpair : ∀ rest, c = '\r' → cs = '\n' :: rest → False) :
    splitLines (c :: cs) = [] :: splitLines cs := by
  rw [splitLines, if_pos hc]
  exact hpair

lemma splitLines_cons_of_not_boundary (hc : isLineBoundary c = false) :
    splitLines (c :: cs) = consFirst c (splitLines cs) := by
  rw [splitLines, if_neg (by rw [hc]; decide)]
  rintro rest rfl
  cases hc

lemma splitLines_ne_nil (h : cs ≠ []) : splitLines cs ≠ [] := by
  unfold splitLines
  split
  · exact absurd rfl h
  · exact List.cons_ne_nil _ _
  · split
    · exact List.cons_ne_nil _ _
    · rename_i rest _ _
      cases splitLines rest <;> exact List.cons_ne_nil _ _

/-- The lines of a closed text come in front of those of what follows it.  If a carriage return and
a newline belong together across the border, then what follows has one empty line more by itself. -/
theorem splitLines_append (h : Closed cs) (more : List Char) :
    splitLines (cs ++ more) = splitLines cs ++ splitLines more ∨
      ∃ lines, splitLines more = [] :: lines ∧
        splitLines (cs ++ more) = splitLines cs ++ lines := by
  induction cs using splitLines.induct with
  | case1 => exact Or.inl rfl
  | case2 rest ih =>
    rw [List.cons_append, List.cons_append, splitLines, splitLines]
    refine (ih h.of_cons.of_cons).imp (congrArg _) ?_
    rintro ⟨lines, hmore, hlines⟩
    exact ⟨lines, hmore, congrArg _ hlines⟩
  | case3 c rest hpair hboundary ih =>
    by_cases hcut : ∃ more', c = '\r' ∧ rest = [] ∧ more = '\n' :: more'
    · obtain ⟨more', rfl, rfl, rfl⟩ := hcut
      exact Or.inr ⟨splitLines more', rfl, rfl⟩
    · have hpair' : ∀ rest', c = '\r' → rest ++ more = '\n' :: rest' → False := by
        intro rest' hc heq
        cases rest with
        | nil => exact hcut ⟨rest', hc, rfl, heq⟩
        | cons d rest => exact hpair rest hc (by rw [(List.cons.inj heq).1])
      rw [List.cons_append, splitLines_cons_of_boundary hboundary hpair',
        splitLines_cons_of_boundary hboundary hpair]
      refine (ih h.of_cons).imp (congrArg _) ?_
      rintro ⟨lines, hmore, hlines⟩
      exact ⟨lines, hmore, congrArg _ hlines⟩
  | case4 c rest hpair hboundary ih =>
    -- A closed text goes on after a character that is no boundary.
    have hrest : rest ≠ [] := by
      rintro rfl
      exact hboundary (h c rfl)
    have hc : isLineBoundary c = false := Bool.eq_false_iff.mpr hboundary
    rw [List.cons_append, splitLines_cons_of_not_boundary hc, splitLines_cons_of_not_boundary hc]
    refine (ih h.of_cons).imp (fun hlines => ?_) ?_
    · rw [hlines, consFirst_append (splitLines_ne_nil hrest)]
    · rintro ⟨lines, hmore, hlines⟩
      exact ⟨lines, hmore, by rw [hlines, consFirst_append (splitLines_ne_nil hrest)]⟩

end Text

namespace Issue

/-! ## Issues in chunks -/

variable {cs : List Char} {chunks lines : List (List Char)} {f : Findings}

lemma ofLines_append (h : (ofLines lines).fault = none) (more : List (List Char)) :
    ofLines (lines ++ more) = (ofLines lines).feedLines more := by
  induction lines with
  | nil => rfl
  | cons line lines ih =>
    rw [ofLines] at h
    rw [List.cons_append, ofLines, ofLines]
    cases hline : ofRawLine line with
    | error e =>
      rw [hline] at h
      cases h
    | ok found =>
      rw [hline] at h
      dsimp only
      rw [ih h]
      simp only [Findings.feedLines, List.append_assoc]

/-- An empty line stands for no issue. -/
lemma ofRawLine_nil : ofRawLine [] = .ok [] :=
  classified_of_paren_not_mem List.not_mem_nil |> ofLine_of_classified

lemma ofLines_nil_cons (lines : List (List Char)) : ofLines ([] :: lines) = ofLines lines := by
  rw [ofLines, ofRawLine_nil]
  rfl

/-- What is found in a closed text that can be read, and then in what follows it, is what is found
in both together. -/
theorem ofText_append (h : Text.Closed cs) (hread : (ofText cs).fault = none) (more : List Char) :
    ofText (cs ++ more) = (ofText cs).feed more := by
  rw [ofText] at hread
  rw [ofText, ofText, Findings.feed]
  rcases Text.splitLines_append h more with heq | ⟨lines, hmore, heq⟩
  · rw [heq, ofLines_append hread]
  · rw [heq, ofLines_append hread, hmore]
    simp only [Findings.feedLines, ofLines_nil_cons]

/-- Reading goes on to the end if each chunk can be read. -/
lemma fault_foldl_feed (hf : f.fault = none) (h : ∀ chunk ∈ chunks, (ofText chunk).fault = none) :
    (chunks.foldl Findings.feed f).fault = none := by
  induction chunks generalizing f with
  | nil => exact hf
  | cons chunk chunks ih =>
    rw [List.forall_mem_cons] at h
    exact ih h.1 h.2

/-- Reading more does not take back any issue. -/
lemma prefix_foldl_feed (chunks : List (List Char)) (f : Findings) :
    f.issues <+: (chunks.foldl Findings.feed f).issues := by
  induction chunks generalizing f with
  | nil => exact List.prefix_refl _
  | cons chunk chunks ih => exact (List.prefix_append _ _).trans (ih (f.feed chunk))

/-- Chunks that are read one after another are read like the text that they are parts of. -/
theorem foldl_feed_eq (hclosed : ∀ chunk ∈ chunks.dropLast, Text.Closed chunk)
    (hread : ∀ chunk ∈ chunks, (ofText chunk).fault = none) :
    chunks.foldl Findings.feed {} = ofText chunks.flatten := by
  -- The induction takes the last chunk off, because only that one need not be closed.
  induction chunks using List.reverseRecOn with
  | nil => rfl
  | append_singleton before last ih =>
    rw [List.dropLast_concat] at hclosed
    rw [List.forall_mem_append] at hread
    have hbefore := ih (fun chunk hchunk => hclosed chunk (List.mem_of_mem_dropLast hchunk)) hread.1
    have hfault := fault_foldl_feed (f := {}) rfl hread.1
    rw [hbefore] at hfault
    rw [List.foldl_concat, hbefore, List.flatten_concat,
      ofText_append (Text.closed_flatten hclosed) hfault]

lemma Findings.eq_of_fault (h : f.fault = none) : f = ⟨f.issues, none⟩ := by
  obtain ⟨issues, fault⟩ := f
  cases h
  rfl

/-- A text can be read if each of its lines can. -/
lemma fault_ofText (h : ∀ line ∈ Text.splitLines cs, ∃ issues, ofLine line = .ok issues) :
    (ofText cs).fault = none := by
  refine fault_ofLines_eq_none_iff.mpr fun line hline => ?_
  rw [ofRawLine_eq (Text.oneLine_of_mem_splitLines hline)]
  exact h line hline

/-- **Output that comes in chunks.**  If every chunk but the last one is empty or ends in a line
boundary, and each line of a chunk can be read, then reading the chunks one after another gives the
issues of the whole output.  No chunk stops the reading, and after each of them the issues so far
are the first ones of all. -/
theorem complete_of_chunks (hclosed : ∀ chunk ∈ chunks.dropLast, Text.Closed chunk)
    (hread : ∀ chunk ∈ chunks, ∀ line ∈ Text.splitLines chunk,
      ∃ issues, ofLine line = .ok issues) :
    ∃ issues, (ofText chunks.flatten).complete = .ok issues ∧
      chunks.foldl Findings.feed {} = ⟨issues, none⟩ ∧
      ∀ before, before <+: chunks →
        ∃ soFar, before.foldl Findings.feed {} = ⟨soFar, none⟩ ∧ soFar <+: issues := by
  have hchunks : ∀ chunk ∈ chunks, (ofText chunk).fault = none :=
    fun chunk hchunk => fault_ofText (hread chunk hchunk)
  have hfed : ∀ before, before <+: chunks →
      before.foldl Findings.feed {} = ⟨(before.foldl Findings.feed {}).issues, none⟩ :=
    fun before hbefore => Findings.eq_of_fault <| fault_foldl_feed rfl fun chunk hchunk =>
      hchunks chunk (hbefore.subset hchunk)
  refine ⟨_, ?_, hfed chunks List.prefix_rfl, fun before hbefore => ⟨_, hfed before hbefore, ?_⟩⟩
  · rw [← foldl_feed_eq hclosed hchunks, hfed chunks List.prefix_rfl]
    rfl
  · obtain ⟨after, rfl⟩ := hbefore
    rw [List.foldl_append]
    exact prefix_foldl_feed after _

/-! A line end that is cut in two, with an empty chunk between, and a last line that has no end. -/

/-- Output with two issues, in three chunks. -/
def sampleChunks : List (List Char) :=
  ["a.d(3): Error: x\r".toList, [], "\nb.d(4,2): Warning: y".toList]

theorem complete_of_sampleChunks :
    let issues : List Issue := [⟨3, 0, "a.d", .error, "x"⟩, ⟨4, 2, "b.d", .warning, "y"⟩]
    (∀ chunk ∈ sampleChunks.dropLast, Text.Closed chunk) ∧
      (∀ chunk ∈ sampleChunks, ∀ line ∈ Text.splitLines chunk,
        ∃ issues, ofLine line = .ok issues) ∧
      (ofText sampleChunks.flatten).complete = .ok issues ∧
      sampleChunks.foldl Findings.feed {} = ⟨issues, none⟩ ∧
      ∀ before, before <+: sampleChunks →
        ∃ soFar, before.foldl Findings.feed {} = ⟨soFar, none⟩ ∧ soFar <+: issues := by
  have hclosed : ∀ chunk ∈ sampleChunks.dropLast, Text.Closed chunk := by
    intro chunk hchunk
    rcases List.mem_cons.mp hchunk with rfl | hchunk
    · rintro c ⟨⟩
      rfl
    · rw [List.mem_singleton.mp hchunk]
      exact Text.closed_nil
  have hread : ∀ chunk ∈ sampleChunks, ∀ line ∈ Text.splitLines chunk,
      ∃ issues, ofLine line = .ok issues := by
    have hlegible : ∀ chunk ∈ sampleChunks, ∀ line ∈ Text.splitLines chunk,
        dottedCapital ∉ line ∧ line.length ≤ 100 := by
      decide
    intro chunk hchunk line hline
    obtain ⟨hdotted, hlength⟩ := hlegible chunk hchunk line hline
    exact exists_ofLine_eq_ok_iff.mpr
      (legible_of_length_le hdotted (hlength.trans (by decide)))
  obtain ⟨issues, hcomplete, hfed, hbefore⟩ := complete_of_chunks hclosed hread
  have hissues : (ofText sampleChunks.flatten).complete =
      .ok [⟨3, 0, "a.d", .error, "x"⟩, ⟨4, 2, "b.d", .warning, "y"⟩] := by
    cbv
  rw [hissues] at hcomplete
  cases hcomplete
  exact ⟨hclosed, hread, hissues, hfed, hbefore⟩

end Issue

end DubCheck
