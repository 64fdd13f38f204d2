import DubCheck.Issue.Output
import DubCheck.Proofs.Issue.Classification
/-!
# Which lines can be read

Most of what a compiler prints stands for no issue, and that is read as no issue.  Reading fails
only at a header at which a rule applies, if one of its numbers has too many digits, or if the word
for the severity is spelled with the capital `İ` with a dot.  `Legible` says where this does not
happen.

* `exists_ofLine_eq_ok_iff`: a line can be read if and only if it is legible.
* `legible_of_short`: a line without that capital and without long runs of digits is legible.
* `fault_ofLines_eq_none_iff`: reading some lines does not stop early if and only if each of them
  can be read.
* `ofLines_of_forall₂`: the issues in some lines are those of each line, one after another.
-/

namespace DubCheck.Issue

/-! ## One line -/

/-- At the headers at which rules apply, numbers are short enough to be read, and the word for a
severity has capitals. -/
structure Legible (line : List Char) : Prop where
  /-- The header of the primary rule. -/
  primary : ∀ {h : Header} {s : Severity} {spelling rest : List Char},
    h.IsFirst line Header.Named → NamesSeverity h.rest s spelling rest →
      h.Readable ∧ dottedCapital ∉ spelling
  /-- The header of the continuation rule, which applies only if the primary rule does not. -/
  continued : ∀ {h : Header}, Unnamed line → "from".toList <:+: line →
    h.IsFirst line (fun _ => True) → h.Readable
  /-- The header of the deprecation rule, which applies only if the primary rule does not. -/
  deprecated : ∀ {h : Header}, Unnamed line → h.IsFirst line Header.Deprecating → h.Readable

variable {line : List Char}

lemma legible_of_classified {issues : List Issue} (h : Classified line issues) : Legible line := by
  cases h with
  | primary first readable names undotted =>
    constructor
    · intro g s spelling rest hg hnames
      obtain rfl := hg.unique first
      obtain ⟨-, rfl, -⟩ := hnames.unique names
      exact ⟨readable, undotted⟩
    · intro g hunnamed
      exact absurd first.suits (hunnamed _ first.stands)
    · intro g hunnamed
      exact absurd first.suits (hunnamed _ first.stands)
  | secondary unnamed continued deprecated =>
    constructor
    · intro g s spelling rest hg
      exact absurd hg.suits (unnamed _ hg.stands)
    · intro g _ hoccurs hg
      cases continued with
      | first _ first readable =>
        obtain rfl := hg.unique first
        exact readable
      | absent absent => exact absurd ⟨hoccurs, g, hg.stands⟩ absent
    · intro g _ hg
      cases deprecated with
      | first first readable _ =>
        obtain rfl := hg.unique first
        exact readable
      | absent absent => exact absurd hg.suits (absent _ hg.stands)

/-- The continuation rule reads what it applies to. -/
lemma Legible.exists_continued (h : Legible line) (hunnamed : Unnamed line) :
    ∃ errors, Continued line errors := by
  cases hc : continuation? line with
  | none => exact ⟨[], .absent (continuation?_eq_none_iff.mp hc)⟩
  | some g =>
    obtain ⟨hoccurs, hg⟩ := continuation?_eq_some_iff.mp hc
    exact ⟨_, .first hoccurs hg (h.continued hunnamed hoccurs hg)⟩

/-- The deprecation rule reads what it applies to. -/
lemma Legible.exists_deprecated (h : Legible line) (hunnamed : Unnamed line) :
    ∃ deprecations, Deprecated line deprecations := by
  rcases hd : deprecation? line with _ | ⟨g, old, new⟩
  · exact ⟨[], .absent (deprecation?_eq_none_iff.mp hd)⟩
  · obtain ⟨hg, hnames⟩ := deprecation?_eq_some_iff.mp hd
    exact ⟨_, .first hg (h.deprecated hunnamed hg) hnames⟩

lemma Legible.exists_classified (h : Legible line) : ∃ issues, Classified line issues := by
  rcases hp : primary? line with _ | ⟨g, spelling, rest⟩
  · have hunnamed := primary?_eq_none_iff.mp hp
    obtain ⟨errors, herrors⟩ := h.exists_continued hunnamed
    obtain ⟨deprecations, hdeprecations⟩ := h.exists_deprecated hunnamed
    exact ⟨_, .secondary hunnamed herrors hdeprecations⟩
  · obtain ⟨hg, s, hnames⟩ := primary?_eq_some_iff.mp hp
    obtain ⟨hreadable, hundotted⟩ := h.primary hg hnames
    exact ⟨_, .primary hg hreadable hnames hundotted⟩

/-- A line can be read if and only if it is legible. -/
theorem exists_ofLine_eq_ok_iff : (∃ issues, ofLine line = .ok issues) ↔ Legible line := by
  constructor
  · rintro ⟨issues, h⟩
    exact legible_of_classified (classified_of_ofLine h)
  · intro h
    obtain ⟨issues, hissues⟩ := h.exists_classified
    exact ⟨issues, ofLine_of_classified hissues⟩

lemma Header.StandsIn.readable {h : Header} (hh : h.StandsIn line)
    (hdigits : ∀ ds, Digits ds → ds <:+: line → ds.length ≤ Text.maxDigits) : h.Readable := by
  have htext : h.text <:+: line := by
    rw [hh.split]
    exact ⟨h.seen.reverse, h.rest, List.append_assoc ..⟩
  refine ⟨hdigits _ hh.numbered.line ?_, fun ds hds => hdigits _ (hh.numbered.column ds hds) ?_⟩
  · exact List.IsInfix.trans ⟨['('], h.columnText ++ [')', ':', ' '], rfl⟩ htext
  · refine List.IsInfix.trans ⟨'(' :: (h.line ++ [',']), [')', ':', ' '], ?_⟩ htext
    simp [Header.text, Header.columnText, hds]

/-- A line without the capital `İ` in which no run of digits is too long is legible. -/
theorem legible_of_short (hdotted : dottedCapital ∉ line)
    (hdigits : ∀ ds, Digits ds → ds <:+: line → ds.length ≤ Text.maxDigits) : Legible line where
  primary {h s spelling rest} hh hnames := by
    refine ⟨hh.stands.readable hdigits, fun hmem => hdotted (hh.stands.rest_subset ?_)⟩
    rw [hnames.split]
    exact List.mem_append_left _ hmem
  continued _ _ hh := hh.stands.readable hdigits
  deprecated _ hh := hh.stands.readable hdigits

/-- A line without the capital `İ` that is not too long itself is legible. -/
lemma legible_of_length_le (hdotted : dottedCapital ∉ line)
    (hlength : line.length ≤ Text.maxDigits) : Legible line :=
  legible_of_short hdotted fun _ _ hinfix => hinfix.length_le.trans hlength

/-! ## Several lines -/

variable {lines : List (List Char)}

/-- Reading does not stop early if and only if each line can be read. -/
theorem fault_ofLines_eq_none_iff :
    (ofLines lines).fault = none ↔ ∀ line ∈ lines, ∃ issues, ofRawLine line = .ok issues := by
  induction lines with
  | nil => simp [ofLines]
  | cons line lines ih =>
    rw [ofLines, List.forall_mem_cons]
    cases ofRawLine line with
    | error e => simp
    | ok found => simpa using ih

/-- The issues in some lines are those of each line, one after another. -/
theorem ofLines_of_forall₂ {found : List (List Issue)}
    (h : List.Forall₂ (fun line issues => ofRawLine line = .ok issues) lines found) :
    ofLines lines = ⟨found.flatten, none⟩ := by
  induction h with
  | nil => rfl
  | cons hline _ ih =>
    rw [ofLines, hline, ih]
    rfl

end DubCheck.Issue
