import DubCheck.Proofs.Failure
import DubCheck.Proofs.Issue.Deprecation
import DubCheck.Proofs.Issue.Header
import DubCheck.Proofs.Issue.Severity
/-!
# What a line of compiler output says

`Classified` says which issues a line stands for, without saying how they are found: it speaks of
the headers that stand in the line, of the first one among them that suits a rule, and of the text
after it.

* `atHeader_eq_ok_iff`: when an issue can be read at a header, and which one.
* `primary?_eq_some_iff`, `continuation?_eq_some_iff`, `deprecation?_eq_some_iff`: at which header
  each of the three rules applies.
* `ofLine_eq_ok_iff`: what is read in a line is what it stands for.
-/

namespace DubCheck.Issue

/-! ## The issue at a header -/

/-- The column that a header names, or the default if it names none. -/
def Header.columnOr (h : Header) (defaultColumn : Nat) : Nat :=
  match h.column with
  | none => defaultColumn
  | some ds => Text.digitsValue ds

/-- The issue at a header. -/
def Header.issue (h : Header) (defaultColumn : Nat) (severity : Severity) (message : List Char) :
    Issue where
  line := Text.digitsValue h.line
  column := h.columnOr defaultColumn
  file := String.ofList h.seen.reverse
  severity := severity
  message := String.ofList message

/-- The numbers of a header can be read. -/
structure Header.Readable (h : Header) : Prop where
  line : h.line.length ≤ Text.maxDigits
  column : ∀ ds, h.column = some ds → ds.length ≤ Text.maxDigits

lemma number_eq_ok_iff {ds : List Char} {n : Nat} :
    number ds = .ok n ↔ ds.length ≤ Text.maxDigits ∧ n = Text.digitsValue ds := by
  unfold number Text.readNumeral
  split
  · rename_i h
    constructor
    · rintro ⟨⟩
      exact ⟨h, rfl⟩
    · rintro ⟨-, rfl⟩
      rfl
  · rename_i h
    refine ⟨?_, fun hn => absurd hn.1 h⟩
    rintro ⟨⟩

/-- Reading the column of a header. -/
def Header.readColumn (h : Header) (defaultColumn : Nat) : Except Unreadable Nat :=
  match h.column with
  | none => .ok defaultColumn
  | some ds => number ds

lemma Header.readColumn_eq_ok_iff {h : Header} {defaultColumn n : Nat} :
    h.readColumn defaultColumn = .ok n ↔
      (∀ ds, h.column = some ds → ds.length ≤ Text.maxDigits) ∧ n = h.columnOr defaultColumn := by
  unfold readColumn columnOr
  cases h.column with
  | none =>
    constructor
    · rintro ⟨⟩
      refine ⟨?_, rfl⟩
      rintro ds ⟨⟩
    · rintro ⟨-, rfl⟩
      rfl
  | some ds =>
    refine number_eq_ok_iff.trans (and_congr_left fun _ => ?_)
    simp only [Option.some.injEq, forall_eq']

/-- An issue is read at a header if its numbers can be read and there is a severity. -/
theorem atHeader_eq_ok_iff {h : Header} {defaultColumn : Nat}
    {severity : Except Unreadable Severity} {message : List Char} {i : Issue} :
    atHeader h defaultColumn severity message = .ok i ↔
      h.Readable ∧ ∃ s, severity = .ok s ∧ i = h.issue defaultColumn s message := by
  have hstep : atHeader h defaultColumn severity message =
      match number h.line, h.readColumn defaultColumn, severity with
      | .error e, _, _ | .ok _, .error e, _ | .ok _, .ok _, .error e => .error e
      | .ok line, .ok column, .ok s => .ok ⟨line, column, h.file, s, String.ofList message⟩ := by
    unfold atHeader Header.readColumn
    cases number h.line with
    | error e => rfl
    | ok line =>
      cases h.column with
      | none => cases severity <;> rfl
      | some ds =>
        dsimp only
        cases number ds with
        | error e => rfl
        | ok column => cases severity <;> rfl
  rw [hstep]
  constructor
  · intro hat
    split at hat
    · cases hat
    · cases hat
    · cases hat
    · rename_i line column s hline hcolumn
      cases hat
      obtain ⟨hshort, rfl⟩ := number_eq_ok_iff.mp hline
      obtain ⟨hshort', rfl⟩ := Header.readColumn_eq_ok_iff.mp hcolumn
      exact ⟨⟨hshort, hshort'⟩, s, rfl, rfl⟩
  · rintro ⟨hread, s, rfl, rfl⟩
    rw [number_eq_ok_iff.mpr ⟨hread.line, rfl⟩, Header.readColumn_eq_ok_iff.mpr ⟨hread.column, rfl⟩]
    rfl

/-! ## The issues that a line stands for -/

/-- A header is followed by the word for a severity. -/
def Header.Named (h : Header) : Prop :=
  ∃ s spelling rest, NamesSeverity h.rest s spelling rest

/-- A header is followed by a deprecation. -/
def Header.Deprecating (h : Header) : Prop :=
  ∃ old new, ReadsDeprecated h.rest old new

/-- No header of a text is followed by the word for a severity. -/
def Unnamed (line : List Char) : Prop :=
  ∀ h : Header, h.StandsIn line → ¬ h.Named

/-- The first header of a line in which `from` occurs gives an error. -/
inductive Continued (line : List Char) : List Issue → Prop where
  | first {h : Header} (occurs : "from".toList <:+: line) (first : h.IsFirst line fun _ => True)
    (readable : h.Readable) : Continued line [h.issue 1 .error (toNewline h.rest)]
  | absent (absent : ¬ ("from".toList <:+: line ∧ ∃ h : Header, h.StandsIn line)) :
    Continued line []

/-- The first header that is followed by a deprecation gives a deprecation. -/
inductive Deprecated (line : List Char) : List Issue → Prop where
  | first {h : Header} {old new : List Char} (first : h.IsFirst line Header.Deprecating)
    (readable : h.Readable) (names : NamesDeprecated h.rest old new) :
    Deprecated line [h.issue 1 .deprecation (deprecationText old new)]
  | absent (absent : ∀ h : Header, h.StandsIn line → ¬ h.Deprecating) : Deprecated line []

/-- The issues that a line stands for.  The first header that is followed by the word for a severity
gives an issue of that severity and nothing else.  Otherwise there may be an error and a
deprecation.  Numbers that cannot be read, and a spelling with the capital `İ`, stand for nothing
at all. -/
inductive Classified (line : List Char) : List Issue → Prop where
  | primary {h : Header} {s : Severity} {spelling rest : List Char}
    (first : h.IsFirst line Header.Named) (readable : h.Readable)
    (names : NamesSeverity h.rest s spelling rest) (undotted : dottedCapital ∉ spelling) :
    Classified line [h.issue 0 s (toNewline rest)]
  | secondary {errors deprecations : List Issue} (unnamed : Unnamed line)
    (continued : Continued line errors) (deprecated : Deprecated line deprecations) :
    Classified line (errors ++ deprecations)

variable {line : List Char} {issues : List Issue}

/-! ## Where the rules apply -/

/-- The primary rule applies at the first header that is followed by the word for a severity. -/
theorem primary?_eq_some_iff {h : Header} {spelling rest : List Char} :
    primary? line = some (h, spelling, rest) ↔
      h.IsFirst line Header.Named ∧ ∃ s, NamesSeverity h.rest s spelling rest := by
  have hnamed : ∀ g : Header,
      (∃ a, (severityWord? g.rest).map (g, ·) = some a) ↔ g.Named := by
    intro g
    constructor
    · rintro ⟨a, ha⟩
      obtain ⟨⟨spelling', rest'⟩, hword, -⟩ := Option.map_eq_some_iff.mp ha
      obtain ⟨s, hs⟩ := severityWord?_eq_some_iff.mp hword
      exact ⟨s, spelling', rest', hs⟩
    · rintro ⟨s, spelling', rest', hs⟩
      rw [severityWord?_eq_some_iff.mpr ⟨s, hs⟩]
      exact ⟨_, rfl⟩
  unfold primary?
  rw [findSome?_headers_eq_some_iff]
  constructor
  · rintro ⟨h', hfirst, hfound⟩
    obtain ⟨⟨spelling', rest'⟩, hword, heq⟩ := Option.map_eq_some_iff.mp hfound
    cases heq
    exact ⟨hfirst.of_iff hnamed, severityWord?_eq_some_iff.mp hword⟩
  · rintro ⟨hfirst, hs⟩
    refine ⟨h, hfirst.of_iff fun g => (hnamed g).symm, ?_⟩
    rw [severityWord?_eq_some_iff.mpr hs]
    rfl

lemma primary?_eq_none_iff : primary? line = none ↔ Unnamed line := by
  unfold primary?
  rw [findSome?_headers_eq_none_iff]
  refine forall_congr' fun h => imp_congr_right fun _ => ?_
  rw [Option.map_eq_none_iff, Option.eq_none_iff_forall_ne_some]
  constructor
  · rintro hnone ⟨s, spelling, rest, hs⟩
    exact hnone _ (severityWord?_eq_some_iff.mpr ⟨s, hs⟩)
  · rintro hnone ⟨spelling, rest⟩ hword
    obtain ⟨s, hs⟩ := severityWord?_eq_some_iff.mp hword
    exact hnone ⟨s, spelling, rest, hs⟩

/-- The continuation rule applies at the first header of a line in which `from` occurs. -/
theorem continuation?_eq_some_iff {h : Header} :
    continuation? line = some h ↔ "from".toList <:+: line ∧ h.IsFirst line fun _ => True := by
  unfold continuation?
  rw [Option.ite_none_right_eq_some, Text.occursIn_iff, head?_headers_eq_some_iff]

lemma continuation?_eq_none_iff :
    continuation? line = none ↔ ¬ ("from".toList <:+: line ∧ ∃ h : Header, h.StandsIn line) := by
  unfold continuation?
  rw [← Text.occursIn_iff]
  split
  · rename_i hoccurs
    rw [head?_headers_eq_none_iff, ← not_exists]
    exact not_congr (and_iff_right hoccurs).symm
  · rename_i hoccurs
    exact iff_of_true rfl fun h => hoccurs h.1

/-- In a line with a header that is followed by a deprecation `is deprecated` occurs. -/
lemma occursIn_of_deprecating {h : Header} (hh : h.StandsIn line) (hd : h.Deprecating) :
    Text.occursIn "is deprecated".toList line = true := by
  obtain ⟨old, new, stop, -, hrest⟩ := hd
  have hsentence : deprecationPhrase <:+: deprecationSentence old new stop :=
    ⟨old, _, List.append_assoc ..⟩
  have hphrase : deprecationPhrase <:+: h.rest := by
    rcases hrest with hrest | hrest
    · rwa [hrest]
    · rw [hrest]
      exact hsentence.trans (List.prefix_append _ _).isInfix
  have hline : h.rest <:+: line := by
    rw [hh.split, ← List.append_assoc]
    exact (List.suffix_append _ _).isInfix
  -- The phrase between the names has the words that the line is searched for.
  have hmarker : "is deprecated".toList <:+: deprecationPhrase := ⟨[' '], ", use ".toList, rfl⟩
  exact Text.occursIn_iff.mpr (hmarker.trans (hphrase.trans hline))

/-- The deprecation rule applies at the first header that is followed by a deprecation. -/
theorem deprecation?_eq_some_iff {h : Header} {old new : List Char} :
    deprecation? line = some (h, old, new) ↔
      h.IsFirst line Header.Deprecating ∧ NamesDeprecated h.rest old new := by
  have hdeprecating : ∀ g : Header,
      (∃ a, (deprecated? g.rest).map (g, ·) = some a) ↔ g.Deprecating := by
    intro g
    constructor
    · rintro ⟨a, ha⟩
      obtain ⟨⟨old', new'⟩, hread, -⟩ := Option.map_eq_some_iff.mp ha
      exact ⟨old', new', (deprecated?_eq_some_iff.mp hread).reads⟩
    · rintro ⟨old', new', hreads⟩
      obtain ⟨old', new', hnames⟩ := hreads.exists_names
      rw [deprecated?_eq_some_iff.mpr hnames]
      exact ⟨_, rfl⟩
  unfold deprecation?
  rw [Option.ite_none_right_eq_some, findSome?_headers_eq_some_iff]
  constructor
  · rintro ⟨-, h', hfirst, hfound⟩
    obtain ⟨⟨old', new'⟩, hread, heq⟩ := Option.map_eq_some_iff.mp hfound
    cases heq
    exact ⟨hfirst.of_iff hdeprecating, deprecated?_eq_some_iff.mp hread⟩
  · rintro ⟨hfirst, hnames⟩
    refine ⟨occursIn_of_deprecating hfirst.stands hfirst.suits, h,
      hfirst.of_iff fun g => (hdeprecating g).symm, ?_⟩
    rw [deprecated?_eq_some_iff.mpr hnames]
    rfl

lemma deprecation?_eq_none_iff :
    deprecation? line = none ↔ ∀ h : Header, h.StandsIn line → ¬ h.Deprecating := by
  unfold deprecation?
  constructor
  · intro hnone h hh hd
    rw [if_pos (occursIn_of_deprecating hh hd), findSome?_headers_eq_none_iff] at hnone
    obtain ⟨old, new, hreads⟩ := hd
    obtain ⟨old', new', hnames⟩ := hreads.exists_names
    have := hnone h hh
    rw [deprecated?_eq_some_iff.mpr hnames] at this
    cases this
  · intro hnone
    split
    · refine findSome?_headers_eq_none_iff.mpr fun h hh => ?_
      rw [Option.map_eq_none_iff, Option.eq_none_iff_forall_ne_some]
      rintro ⟨old, new⟩ hread
      exact hnone h hh ⟨old, new, (deprecated?_eq_some_iff.mp hread).reads⟩
    · rfl

/-! ## The issues in a line -/

/-- The error that the continuation rule reads. -/
def readContinued (line : List Char) : Except Unreadable (List Issue) :=
  match continuation? line with
  | some h => (atHeader h secondaryColumn (.ok .error) (toNewline h.rest)).map fun i => [i]
  | none => .ok []

/-- The deprecation that the deprecation rule reads. -/
def readDeprecated (line : List Char) : Except Unreadable (List Issue) :=
  match deprecation? line with
  | some (h, old, new) =>
    (atHeader h secondaryColumn (.ok .deprecation) (deprecationText old new)).map fun i => [i]
  | none => .ok []

/-- The primary rule comes first, and the other two are independent of each other. -/
lemma ofLine_eq (line : List Char) :
    ofLine line =
      match primary? line with
      | some (h, spelling, rest) =>
        (atHeader h primaryColumn (severityOf (String.ofList spelling)) (toNewline rest)).map
          fun i => [i]
      | none =>
        (readContinued line).bind fun errors => (readDeprecated line).map (errors ++ ·) := by
  unfold ofLine readContinued readDeprecated
  rcases primary? line with _ | ⟨h, spelling, rest⟩
  · dsimp only
    rcases continuation? line with _ | h
    · rcases deprecation? line with _ | ⟨h', old, new⟩
      · rfl
      · dsimp only
        cases atHeader h' secondaryColumn (.ok .deprecation) (deprecationText old new) <;> rfl
    · dsimp only
      cases atHeader h secondaryColumn (.ok .error) (toNewline h.rest) with
      | error e => rfl
      | ok i =>
        rcases deprecation? line with _ | ⟨h', old, new⟩
        · rfl
        · dsimp only
          cases atHeader h' secondaryColumn (.ok .deprecation) (deprecationText old new) <;> rfl
  · dsimp only
    cases atHeader h primaryColumn (severityOf (String.ofList spelling)) (toNewline rest) <;> rfl

lemma map_atHeader_eq_ok_iff {h : Header} {defaultColumn : Nat}
    {severity : Except Unreadable Severity} {message : List Char} :
    (atHeader h defaultColumn severity message).map (fun i => [i]) = .ok issues ↔
      h.Readable ∧ ∃ s, severity = .ok s ∧ issues = [h.issue defaultColumn s message] := by
  rw [map_eq_ok_iff]
  simp only [atHeader_eq_ok_iff]
  constructor
  · rintro ⟨i, ⟨hread, s, hs, rfl⟩, rfl⟩
    exact ⟨hread, s, hs, rfl⟩
  · rintro ⟨hread, s, hs, rfl⟩
    exact ⟨_, ⟨hread, s, hs, rfl⟩, rfl⟩

lemma readContinued_eq_ok_iff : readContinued line = .ok issues ↔ Continued line issues := by
  unfold readContinued
  constructor
  · intro h
    split at h
    · rename_i header hc
      obtain ⟨hoccurs, hfirst⟩ := continuation?_eq_some_iff.mp hc
      obtain ⟨hread, s, ⟨⟩, rfl⟩ := map_atHeader_eq_ok_iff.mp h
      exact .first hoccurs hfirst hread
    · rename_i hc
      cases h
      exact .absent (continuation?_eq_none_iff.mp hc)
  · intro h
    cases h with
    | first occurs first readable =>
      simp only [continuation?_eq_some_iff.mpr ⟨occurs, first⟩]
      exact map_atHeader_eq_ok_iff.mpr ⟨readable, _, rfl, rfl⟩
    | absent absent => simp only [continuation?_eq_none_iff.mpr absent]

lemma readDeprecated_eq_ok_iff : readDeprecated line = .ok issues ↔ Deprecated line issues := by
  unfold readDeprecated
  constructor
  · intro h
    split at h
    · rename_i header old new hd
      obtain ⟨hfirst, hnames⟩ := deprecation?_eq_some_iff.mp hd
      obtain ⟨hread, s, ⟨⟩, rfl⟩ := map_atHeader_eq_ok_iff.mp h
      exact .first hfirst hread hnames
    · rename_i hd
      cases h
      exact .absent (deprecation?_eq_none_iff.mp hd)
  · intro h
    cases h with
    | first first readable names =>
      simp only [deprecation?_eq_some_iff.mpr ⟨first, names⟩]
      exact map_atHeader_eq_ok_iff.mpr ⟨readable, _, rfl, rfl⟩
    | absent absent => simp only [deprecation?_eq_none_iff.mpr absent]

/-- What is read in a line is what it stands for. -/
lemma classified_of_ofLine (h : ofLine line = .ok issues) : Classified line issues := by
  rw [ofLine_eq] at h
  split at h
  · rename_i header spelling rest hp
    obtain ⟨hfirst, s, hnames⟩ := primary?_eq_some_iff.mp hp
    obtain ⟨hread, s', hs', rfl⟩ := map_atHeader_eq_ok_iff.mp h
    rw [severityOf_of_spells hnames.spells] at hs'
    split at hs'
    · cases hs'
    · rename_i hdot
      cases hs'
      exact .primary hfirst hread hnames hdot
  · rename_i hp
    obtain ⟨errors, hcontinued, h⟩ := bind_eq_ok_iff.mp h
    obtain ⟨deprecations, hdeprecated, rfl⟩ := map_eq_ok_iff.mp h
    exact .secondary (primary?_eq_none_iff.mp hp) (readContinued_eq_ok_iff.mp hcontinued)
      (readDeprecated_eq_ok_iff.mp hdeprecated)

/-- What a line stands for is read in it. -/
lemma ofLine_of_classified (h : Classified line issues) : ofLine line = .ok issues := by
  rw [ofLine_eq]
  cases h with
  | primary first readable names undotted =>
    simp only [primary?_eq_some_iff.mpr ⟨first, _, names⟩]
    refine map_atHeader_eq_ok_iff.mpr ⟨readable, _, ?_, rfl⟩
    rw [severityOf_of_spells names.spells, if_neg undotted]
  | secondary unnamed continued deprecated =>
    simp only [primary?_eq_none_iff.mpr unnamed, readContinued_eq_ok_iff.mpr continued,
      readDeprecated_eq_ok_iff.mpr deprecated]
    rfl

/-- A line without a parenthesis that opens stands for no issue. -/
lemma classified_of_paren_not_mem (h : '(' ∉ line) : Classified line [] := by
  have hnone : ∀ g : Header, ¬ g.StandsIn line := by
    intro g hg
    obtain ⟨inner, htext, -⟩ := Header.exists_text_eq hg.numbered
    rw [hg.split, htext] at h
    simp at h
  refine Classified.secondary ?_ (Continued.absent ?_) (Deprecated.absent ?_)
  · exact fun g hg => absurd hg (hnone g)
  · rintro ⟨-, g, hg⟩
    exact hnone g hg
  · exact fun g hg => absurd hg (hnone g)

lemma Continued.length_le (h : Continued line issues) : issues.length ≤ 1 := by
  cases h <;> simp

lemma Deprecated.length_le (h : Deprecated line issues) : issues.length ≤ 1 := by
  cases h <;> simp

/-- A line stands for two issues at most. -/
lemma Classified.length_le (h : Classified line issues) : issues.length ≤ 2 := by
  cases h with
  | primary first readable names undotted => exact Nat.le_succ 1
  | secondary unnamed continued deprecated =>
    rw [List.length_append]
    exact Nat.add_le_add continued.length_le deprecated.length_le

/-- **What a line of compiler output says.**  The issues that are read in a line are those it stands
for, and a line that stands for nothing cannot be read. -/
theorem ofLine_eq_ok_iff : ofLine line = .ok issues ↔ Classified line issues :=
  ⟨classified_of_ofLine, ofLine_of_classified⟩

/-- A header that no severity word follows belongs to the name of the file. -/
example : ofLine "a(1): b(2): Error: x".toList = .ok [⟨2, 0, "a(1): b", .error, "x"⟩] := by
  cbv

end DubCheck.Issue
