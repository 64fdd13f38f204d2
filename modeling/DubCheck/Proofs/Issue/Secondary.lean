import DubCheck.Proofs.Issue.Legibility
/-!
# Where the primary rule does not apply

A line in which no header is followed by a severity word can still give an error and a deprecation.
Both are found at the first header of the line: the error because the rule says so, and the
deprecation because whatever stands between the first header and one that is followed by a
deprecation reads like a part of the old name.

* `Header.IsFirst.of_deprecating`: the first header that is followed by a deprecation is the first
  one of all.
* `twins_of_ofLine`: two issues in one line are about the same place and say the same.
* `deprecatesLawfully_iff`: in which lines a deprecation is found exactly where the documented
  sentence stands.  The last character of the sentence need not be a full stop when it is found.
* `not_deprecatesLawfully_of_exclamation`: a sentence that ends in an exclamation mark.
-/

namespace DubCheck.Issue

variable {line : List Char} {issues : List Issue}

/-! ## The first header -/

/-- A header in front of one that is followed by a deprecation is followed by one, too. -/
lemma Header.StandsIn.deprecating {g h : Header} (hg : g.StandsIn line) (hh : h.StandsIn line)
    (hlt : g.seen.length < h.seen.length) (hd : h.Deprecating) : g.Deprecating := by
  obtain ⟨middle, hmiddle, hrest⟩ := hg.exists_rest_eq hh hlt
  obtain ⟨old, new, hreads⟩ := hd
  have hfront : '\n' ∉ middle ++ h.text := by
    rw [List.mem_append, not_or]
    exact ⟨hmiddle, newline_not_mem_text hh.numbered⟩
  refine ⟨middle ++ h.text ++ old, new, ?_⟩
  rw [hrest, ← List.append_assoc]
  exact hreads.append_left hfront

/-- The first header that is followed by a deprecation is the first one of all. -/
theorem Header.IsFirst.of_deprecating {h : Header} (hh : h.IsFirst line Header.Deprecating) :
    h.IsFirst line fun _ => True := by
  refine ⟨hh.stands, trivial, fun g hg _ => ?_⟩
  by_contra hlt
  rw [not_le] at hlt
  exact absurd (hh.first g hg (hg.deprecating hh.stands hlt hh.suits)) (not_le.mpr hlt)

/-! ## Two issues in a line -/

/-- An error and a deprecation are about the same place and say the same, except that the last
character may be another one.  The deprecation ends in a full stop. -/
structure Twins (i j : Issue) : Prop where
  error : i.severity = .error
  deprecation : j.severity = .deprecation
  file : i.file = j.file
  line : i.line = j.line
  column : i.column = j.column
  message : ∃ text last, i.message.toList = text ++ [last] ∧ j.message.toList = text ++ ['.']

/-- The two issues at a header that is followed by a deprecation. -/
lemma twins_of_names {h : Header} {old new : List Char} (hnames : NamesDeprecated h.rest old new)
    (column : Nat) : (h.issue column .error (toNewline h.rest)).Twins
      (h.issue column .deprecation (deprecationText old new)) := by
  obtain ⟨stop, hrow⟩ := hnames.reads.toNewline_eq
  refine ⟨rfl, rfl, rfl, rfl, rfl,
    old ++ deprecationPhrase ++ new ++ deprecationEnding, stop, ?_, ?_⟩
  · rw [Header.issue, String.toList_ofList, hrow]
    simp only [deprecationSentence, List.append_assoc]
  · rw [Header.issue, String.toList_ofList]
    rfl

/-- **Two issues in a line.**  A line gives two issues at most.  If it gives two, then the first is
an error and the second a deprecation, both are about the same place, and their texts are the same
up to the last character, which is a full stop in the second. -/
theorem twins_of_ofLine (h : ofLine line = .ok issues) :
    issues.length ≤ 2 ∧ ∀ i j, issues = [i, j] → i.Twins j := by
  have hclassified := classified_of_ofLine h
  refine ⟨hclassified.length_le, ?_⟩
  rintro i j rfl
  generalize hij : [i, j] = both at hclassified
  cases hclassified with
  | primary first readable names undotted => cases hij
  | secondary unnamed continued deprecated =>
    cases continued with
    | absent absent =>
      cases deprecated with
      | first first readable names => cases hij
      | absent absent => cases hij
    | first occurs first readable =>
      cases deprecated with
      | absent absent => cases hij
      | first first' readable' names =>
        cases hij
        obtain rfl := first.unique first'.of_deprecating
        exact twins_of_names names 1

/-- The second header of this line belongs to the old name. -/
theorem twins_of_ofLine_shout :
    let i : Issue := ⟨1, 1, "a.d", .error, "b.d(2,5): f is deprecated, use g from h instead!"⟩
    let j : Issue := ⟨1, 1, "a.d", .deprecation, "b.d(2,5): f is deprecated, use g from h instead."⟩
    ofLine "a.d(1): b.d(2,5): f is deprecated, use g from h instead!".toList = .ok [i, j] ∧
      i.Twins j := by
  have hread : ofLine "a.d(1): b.d(2,5): f is deprecated, use g from h instead!".toList =
      .ok [⟨1, 1, "a.d", .error, "b.d(2,5): f is deprecated, use g from h instead!"⟩,
        ⟨1, 1, "a.d", .deprecation, "b.d(2,5): f is deprecated, use g from h instead."⟩] := by
    cbv
  exact ⟨hread, (twins_of_ofLine hread).2 _ _ rfl⟩

/-! ## The documented sentence -/

/-- A header is followed by the sentence as it is documented, which ends in a full stop. -/
def Header.Documented (h : Header) : Prop :=
  ∃ old new, h.rest = old ++ " is deprecated, use ".toList ++ new ++ " instead.".toList

/-- A deprecation is found in a line. -/
def FindsDeprecation (line : List Char) (i : Issue) : Prop :=
  ∃ issues, ofLine line = .ok issues ∧ i ∈ issues ∧ i.severity = .deprecation

/-- A deprecation is found in a line exactly if the documented sentence stands there after a header.
It is then about the first place for which this is so, and says all that comes after the header. -/
structure DeprecatesLawfully (line : List Char) : Prop where
  found : (∃ i, FindsDeprecation line i) ↔ ∃ h : Header, h.StandsIn line ∧ h.Documented
  issue : ∀ i, FindsDeprecation line i →
    ∃ h : Header, h.IsFirst line Header.Documented ∧ i = h.issue 1 .deprecation h.rest

lemma deprecationText_eq (old new : List Char) :
    deprecationText old new = deprecationSentence old new '.' := by
  simp only [deprecationText, deprecationSentence, List.append_assoc]

/-- The documented sentence is the one that ends in a full stop. -/
lemma deprecationSentence_fullStop (old new : List Char) :
    deprecationSentence old new '.' =
      old ++ " is deprecated, use ".toList ++ new ++ " instead.".toList := by
  have hending : deprecationEnding ++ ['.'] = " instead.".toList := by cbv
  calc
    deprecationSentence old new '.' =
        old ++ deprecationPhrase ++ new ++ (deprecationEnding ++ ['.']) := by
      simp only [deprecationSentence, List.append_assoc]
    _ = _ := congrArg (old ++ deprecationPhrase ++ new ++ ·) hending

lemma Header.documented_iff_exists_sentence {h : Header} :
    h.Documented ↔ ∃ old new, h.rest = deprecationSentence old new '.' := by
  simp only [Documented, deprecationSentence_fullStop]

/-- In a line without newlines a deprecation reaches to the end. -/
lemma Header.StandsIn.exists_sentence {h : Header} (hh : h.StandsIn line) (hline : '\n' ∉ line)
    {old new : List Char} (hreads : ReadsDeprecated h.rest old new) :
    ∃ stop, h.rest = deprecationSentence old new stop ∧ line.getLast? = some stop := by
  obtain ⟨stop, hrow⟩ := hreads.toNewline_eq
  rw [toNewline_eq_self fun hmem => hline (hh.rest_subset hmem)] at hrow
  refine ⟨stop, hrow, ?_⟩
  rw [hh.split, hrow, deprecationSentence]
  simp

/-- A deprecation is documented if the line ends in a full stop. -/
lemma Header.StandsIn.documented_iff {h : Header} (hh : h.StandsIn line) (hline : '\n' ∉ line) :
    h.Documented ↔ h.Deprecating ∧ line.getLast? = some '.' := by
  rw [documented_iff_exists_sentence]
  constructor
  · rintro ⟨old, new, hrest⟩
    have hreads : ReadsDeprecated h.rest old new :=
      ⟨'.', fun hmem => hline (hh.rest_subset (hrest ▸ hmem)), Or.inl hrest⟩
    refine ⟨⟨old, new, hreads⟩, ?_⟩
    rw [hh.split, hrest, deprecationSentence]
    simp
  · rintro ⟨⟨old, new, hreads⟩, hlast⟩
    obtain ⟨stop, hrest, hstop⟩ := hh.exists_sentence hline hreads
    rw [hlast] at hstop
    cases hstop
    exact ⟨old, new, hrest⟩

/-- If some header is followed by a deprecation, there is a first one. -/
lemma Header.StandsIn.exists_first_deprecating {g : Header} (hg : g.StandsIn line)
    (hd : g.Deprecating) :
    ∃ (h : Header) (old new : List Char), h.IsFirst line Header.Deprecating ∧
      NamesDeprecated h.rest old new := by
  rcases hfound : deprecation? line with _ | ⟨h, old, new⟩
  · exact absurd hd (deprecation?_eq_none_iff.mp hfound g hg)
  · exact ⟨h, old, new, deprecation?_eq_some_iff.mp hfound⟩

/-- Where the primary rule does not apply, a deprecation is found at the first header that is
followed by one, if its numbers can be read. -/
lemma findsDeprecation_iff (hunnamed : Unnamed line) {i : Issue} :
    FindsDeprecation line i ↔ ∃ (h : Header) (old new : List Char),
      h.IsFirst line Header.Deprecating ∧ h.Readable ∧ NamesDeprecated h.rest old new ∧
        i = h.issue 1 .deprecation (deprecationText old new) := by
  constructor
  · rintro ⟨issues, hread, hi, hseverity⟩
    cases classified_of_ofLine hread with
    | primary first => exact absurd first.suits (hunnamed _ first.stands)
    | secondary _ continued deprecated =>
      rcases List.mem_append.mp hi with hi | hi
      · cases continued with
        | first occurs first readable =>
          rw [List.mem_singleton.mp hi] at hseverity
          cases hseverity
        | absent absent => cases hi
      · cases deprecated with
        | first first readable names =>
          exact ⟨_, _, _, first, readable, names, List.mem_singleton.mp hi⟩
        | absent absent => cases hi
  · rintro ⟨h, old, new, hfirst, hread, hnames, rfl⟩
    -- The error, if there is one, is at the same header, so that it can be read, too.
    obtain ⟨errors, hcontinued⟩ : ∃ errors, Continued line errors := by
      by_cases hoccurs : "from".toList <:+: line
      · exact ⟨_, .first hoccurs hfirst.of_deprecating hread⟩
      · exact ⟨_, .absent fun hfrom => hoccurs hfrom.1⟩
    have hclassified := Classified.secondary hunnamed hcontinued (.first hfirst hread hnames)
    exact ⟨_, ofLine_of_classified hclassified, List.mem_append_right _ (List.mem_singleton_self _),
      rfl⟩

/-- **Deprecations.**  In a line to which the primary rule does not apply, deprecations are found
as documented exactly if the first header that is followed by one has numbers that can be read when
the line ends in a full stop, and has not when it ends in any other character. -/
theorem deprecatesLawfully_iff (hline : '\n' ∉ line) (hunnamed : Unnamed line) :
    DeprecatesLawfully line ↔ ∀ h : Header, h.IsFirst line Header.Deprecating →
      (h.Readable ↔ line.getLast? = some '.') := by
  constructor
  · intro hlaw h hh
    constructor
    · intro hread
      obtain ⟨old, new, hreads⟩ := hh.suits
      obtain ⟨old, new, hnames⟩ := hreads.exists_names
      have hfound := (findsDeprecation_iff hunnamed).mpr ⟨h, old, new, hh, hread, hnames, rfl⟩
      obtain ⟨g, hg, hdocumented⟩ := hlaw.found.mp ⟨_, hfound⟩
      exact ((hg.documented_iff hline).mp hdocumented).2
    · intro hlast
      have hdocumented := (hh.stands.documented_iff hline).mpr ⟨hh.suits, hlast⟩
      obtain ⟨i, hi⟩ := hlaw.found.mpr ⟨h, hh.stands, hdocumented⟩
      obtain ⟨g, -, -, hg, hread, -⟩ := (findsDeprecation_iff hunnamed).mp hi
      rwa [hh.unique hg]
  · intro hstop
    refine ⟨⟨?_, ?_⟩, ?_⟩
    · rintro ⟨i, hi⟩
      obtain ⟨h, -, -, hh, hread, -⟩ := (findsDeprecation_iff hunnamed).mp hi
      exact ⟨h, hh.stands, (hh.stands.documented_iff hline).mpr ⟨hh.suits, (hstop h hh).mp hread⟩⟩
    · rintro ⟨g, hg, hdocumented⟩
      obtain ⟨hd, hlast⟩ := (hg.documented_iff hline).mp hdocumented
      obtain ⟨h, old, new, hh, hnames⟩ := hg.exists_first_deprecating hd
      exact ⟨_, (findsDeprecation_iff hunnamed).mpr
        ⟨h, old, new, hh, (hstop h hh).mpr hlast, hnames, rfl⟩⟩
    · intro i hi
      obtain ⟨h, old, new, hh, hread, hnames, rfl⟩ := (findsDeprecation_iff hunnamed).mp hi
      have hlast := (hstop h hh).mp hread
      obtain ⟨stop, hrest, hstop'⟩ := hh.stands.exists_sentence hline hnames.reads
      rw [hlast] at hstop'
      cases hstop'
      refine ⟨h, ⟨hh.stands, Header.documented_iff_exists_sentence.mpr ⟨old, new, hrest⟩, ?_⟩, ?_⟩
      · intro g hg hdocumented
        exact hh.first g hg ((hg.documented_iff hline).mp hdocumented).1
      · rw [deprecationText_eq, hrest]

/-! The example of the documentation, and the same sentence with an exclamation mark. -/

theorem deprecatesLawfully_of_fullStop :
    let line := "a.d(7,5): std.foo is deprecated, use std.bar instead.".toList
    '\n' ∉ line ∧ Unnamed line ∧ DeprecatesLawfully line ∧
      ofLine line =
        .ok [⟨7, 5, "a.d", .deprecation, "std.foo is deprecated, use std.bar instead."⟩] := by
  intro line
  have hline : '\n' ∉ line := by decide +kernel
  have hunnamed : Unnamed line := primary?_eq_none_iff.mp (by decide +kernel)
  refine ⟨hline, hunnamed, (deprecatesLawfully_iff hline hunnamed).mpr fun h hh => ?_,
    by decide +kernel⟩
  have hlength : line.length ≤ Text.maxDigits := by decide +kernel
  have hreadable : h.Readable :=
    hh.stands.readable fun ds _ hinfix => hinfix.length_le.trans hlength
  exact iff_of_true hreadable (by decide +kernel)

/-- The exclamation mark is taken for a full stop. -/
theorem not_deprecatesLawfully_of_exclamation :
    let line := "a.d(7,5): std.foo is deprecated, use std.bar instead!".toList
    '\n' ∉ line ∧ Unnamed line ∧ ¬ DeprecatesLawfully line ∧
      ofLine line =
        .ok [⟨7, 5, "a.d", .deprecation, "std.foo is deprecated, use std.bar instead."⟩] := by
  intro line
  have hline : '\n' ∉ line := by decide +kernel
  have hunnamed : Unnamed line := primary?_eq_none_iff.mp (by decide +kernel)
  have hread : ofLine line =
      .ok [⟨7, 5, "a.d", .deprecation, "std.foo is deprecated, use std.bar instead."⟩] := by
    decide +kernel
  have hlast : line.getLast? ≠ some '.' := by decide +kernel
  refine ⟨hline, hunnamed, fun hlaw => hlast ?_, hread⟩
  obtain ⟨g, hg, hdocumented⟩ := hlaw.found.mp
    ⟨_, _, hread, List.mem_singleton_self _, rfl⟩
  exact ((hg.documented_iff hline).mp hdocumented).2

end DubCheck.Issue
