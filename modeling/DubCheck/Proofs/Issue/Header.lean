import DubCheck.Issue.Line
import Mathlib
/-!
# The headers of a line

A header *stands in* a line if the line is the file, the text of the header and the rest, one after
another, and there is no newline in the file.  Searching a line for headers goes character by
character; this module says what it finds without going through the line.

* `mem_headers_iff`: `headers` lists what stands in the line, and nothing else.
* `headers_pairwise`: it lists them from left to right, so that no two of them begin at one place.
* `findSome?_headers_eq_some_iff`, `findSome?_headers_eq_none_iff`: a search through the headers
  finds the first one that suits, or there is none in the line.
* `Header.StandsIn.exists_rest_eq`: of two headers the second one stands in the rest of the first.
-/

namespace DubCheck.Issue

/-! ## Runs of digits -/

/-- Decimal digits of any script, at least one. -/
def Digits (ds : List Char) : Prop :=
  ds ≠ [] ∧ ∀ d ∈ ds, Text.isDigit d = true

lemma eq_append_of_leadingDigits? {cs ds rest : List Char}
    (h : leadingDigits? cs = some (ds, rest)) : Digits ds ∧ cs = ds ++ rest := by
  unfold leadingDigits? at h
  have hall : ∀ d ∈ cs.takeWhile Text.isDigit, Text.isDigit d = true :=
    fun d hd => List.mem_takeWhile_imp hd
  have hcs : cs.takeWhile Text.isDigit ++ cs.dropWhile Text.isDigit = cs :=
    List.takeWhile_append_dropWhile
  split at h
  · cases h
  · rename_i hne
    cases h
    exact ⟨⟨hne, hall⟩, hcs.symm⟩

/-- Digits are read up to the first character that is none. -/
lemma leadingDigits?_append {ds : List Char} (hd : Digits ds) {c : Char}
    (hc : Text.isDigit c = false) (rest : List Char) :
    leadingDigits? (ds ++ c :: rest) = some (ds, c :: rest) := by
  have htake : (ds ++ c :: rest).takeWhile Text.isDigit = ds := by
    rw [List.takeWhile_append_of_pos hd.2, List.takeWhile_cons_of_neg (by simp [hc]),
      List.append_nil]
  have hdrop : (ds ++ c :: rest).dropWhile Text.isDigit = c :: rest := by
    rw [List.dropWhile_append_of_pos hd.2, List.dropWhile_cons_of_neg (by simp [hc])]
  unfold leadingDigits?
  rw [htake, hdrop]
  cases ds with
  | nil => exact absurd rfl hd.1
  | cons d ds => rfl

lemma paren_not_mem_of_digits {ds : List Char} (hds : Digits ds) : '(' ∉ ds := by
  intro hmem
  have := hds.2 _ hmem
  revert this
  decide

/-! ## One header -/

namespace Header

/-- How the column of a header is written. -/
def columnText (h : Header) : List Char :=
  match h.column with
  | none => []
  | some ds => ',' :: ds

/-- How a header is written. -/
def text (h : Header) : List Char :=
  '(' :: (h.line ++ (h.columnText ++ [')', ':', ' ']))

/-- The numbers of a header are written in digits. -/
structure Numbered (h : Header) : Prop where
  line : Digits h.line
  column : ∀ ds, h.column = some ds → Digits ds

/-- The line is the file, the header and the rest, and there is no newline in the file. -/
structure StandsIn (h : Header) (line : List Char) : Prop where
  numbered : h.Numbered
  file : '\n' ∉ h.seen
  split : line = h.seen.reverse ++ (h.text ++ h.rest)

end Header

/-- The text of a header has one parenthesis that opens, at its beginning. -/
lemma Header.exists_text_eq {h : Header} (hnum : h.Numbered) :
    ∃ inner, h.text = '(' :: inner ∧ '(' ∉ inner := by
  refine ⟨_, rfl, ?_⟩
  have hcolumn : '(' ∉ h.columnText := by
    unfold columnText
    split
    · exact List.not_mem_nil
    · rename_i ds hds
      rw [List.mem_cons, not_or]
      exact ⟨by decide, paren_not_mem_of_digits (hnum.column ds hds)⟩
  rw [List.mem_append, List.mem_append, not_or, not_or]
  exact ⟨paren_not_mem_of_digits hnum.line, hcolumn, by decide⟩

/-- A header is written in digits and punctuation. -/
lemma Header.mem_text {h : Header} (hnum : h.Numbered) {c : Char} (hc : c ∈ h.text) :
    Text.isDigit c = true ∨ c ∈ ['(', ',', ')', ':', ' '] := by
  have hcolumn : c ∈ h.columnText → Text.isDigit c = true ∨ c = ',' := by
    intro hmem
    unfold columnText at hmem
    split at hmem
    · cases hmem
    · rename_i ds hds
      rcases List.mem_cons.mp hmem with rfl | hmem
      · exact Or.inr rfl
      · exact Or.inl ((hnum.column ds hds).2 c hmem)
  simp only [text, List.mem_cons, List.mem_append, List.not_mem_nil, or_false] at hc ⊢
  rcases hc with rfl | hc | hc | rfl | rfl | rfl
  · exact Or.inr (Or.inl rfl)
  · exact Or.inl (hnum.line.2 c hc)
  · exact (hcolumn hc).imp_right fun hcomma => Or.inr (Or.inl hcomma)
  · simp
  · simp
  · simp

lemma Header.newline_not_mem_text {h : Header} (hnum : h.Numbered) : '\n' ∉ h.text := by
  intro hmem
  rcases mem_text hnum hmem with hdigit | hmark
  · revert hdigit
    decide
  · revert hmark
    decide

/-- What comes in front of a character and does not have it in it ends before it. -/
lemma prefix_of_append_eq {c : Char} {u X A Y : List Char} (h : u ++ X = A ++ c :: Y)
    (hu : c ∉ u) : u <+: A := by
  have hleft : u <+: A ++ c :: Y := ⟨X, h⟩
  rcases Nat.lt_or_ge A.length u.length with hlt | hle
  · have hright : A ++ [c] <+: A ++ c :: Y :=
      ⟨Y, by rw [List.append_assoc, List.singleton_append]⟩
    have hlen : (A ++ [c]).length ≤ u.length := by
      rw [List.length_append, List.length_singleton]
      exact hlt
    have hstart := List.prefix_of_prefix_length_le hright hleft hlen
    exact absurd (hstart.subset (List.mem_append_right A List.mem_cons_self)) hu
  · exact List.prefix_of_prefix_length_le hleft (List.prefix_append A (c :: Y)) hle

/-- What stands in the beginning of a line stands in the line. -/
lemma Header.StandsIn.append {h : Header} {cs : List Char} (hh : h.StandsIn cs)
    (tail : List Char) : Header.StandsIn { h with rest := h.rest ++ tail } (cs ++ tail) := by
  refine ⟨⟨hh.numbered.line, hh.numbered.column⟩, hh.file, ?_⟩
  have hsplit : cs ++ tail = h.seen.reverse ++ (h.text ++ (h.rest ++ tail)) := by
    rw [← List.append_assoc, ← List.append_assoc, List.append_assoc h.seen.reverse, ← hh.split]
  exact hsplit

lemma Header.StandsIn.length_lt {h : Header} {cs : List Char} (hh : h.StandsIn cs) :
    h.seen.length < cs.length := by
  rw [hh.split, Header.text]
  simp only [List.length_append, List.length_reverse, List.length_cons]
  omega

lemma Header.StandsIn.rest_subset {h : Header} {line : List Char} (hh : h.StandsIn line) :
    h.rest ⊆ line := by
  rw [hh.split, ← List.append_assoc]
  exact List.subset_append_right _ _

/-- Two headers do not overlap, so that the second one stands in what comes after the first. -/
lemma Header.StandsIn.exists_rest_eq {line : List Char} {g h : Header} (hg : g.StandsIn line)
    (hh : h.StandsIn line) (hlt : g.seen.length < h.seen.length) :
    ∃ middle, '\n' ∉ middle ∧ g.rest = middle ++ (h.text ++ h.rest) := by
  obtain ⟨inner, htext, hinner⟩ := exists_text_eq hg.numbered
  obtain ⟨inner', htext', -⟩ := exists_text_eq hh.numbered
  have hline : g.seen.reverse ++ '(' :: (inner ++ g.rest) =
      h.seen.reverse ++ (h.text ++ h.rest) := by
    rw [← hh.split, hg.split, htext, List.cons_append]
  -- The parenthesis that opens the first header comes before the second one.
  obtain ⟨between, hbetween⟩ : g.seen.reverse ++ ['('] <+: h.seen.reverse := by
    have hleft : g.seen.reverse ++ ['('] <+: h.seen.reverse ++ (h.text ++ h.rest) := by
      rw [← hline]
      exact ⟨inner ++ g.rest, by rw [List.append_assoc, List.singleton_append]⟩
    refine List.prefix_of_prefix_length_le hleft (List.prefix_append _ _) ?_
    simp only [List.length_append, List.length_reverse, List.length_singleton]
    omega
  have hrest : inner ++ g.rest = between ++ (h.text ++ h.rest) := by
    rw [← hbetween, List.append_assoc, List.append_assoc, List.singleton_append] at hline
    exact (List.cons.inj (List.append_cancel_left hline)).2
  -- What follows it in the first header has no other one, and so comes before the second header.
  obtain ⟨middle, rfl⟩ : inner <+: between := by
    refine prefix_of_append_eq (c := '(') (X := g.rest) (Y := inner' ++ h.rest) ?_ hinner
    rw [hrest, htext', List.cons_append]
  refine ⟨middle, fun hmem => hh.file ?_, ?_⟩
  · rw [← List.mem_reverse, ← hbetween]
    exact List.mem_append_right _ (List.mem_append_right _ hmem)
  · rw [List.append_assoc] at hrest
    exact List.append_cancel_left hrest

/-! ## Reading one header -/

lemma afterHeader?_eq_some_iff {cs rest : List Char} :
    afterHeader? cs = some rest ↔ cs = ')' :: ':' :: ' ' :: rest := by
  constructor
  · intro h
    unfold afterHeader? at h
    split at h
    · cases h
      rfl
    · cases h
  · rintro rfl
    rfl

lemma eq_append_of_headerAt? {seen cs : List Char} {h : Header}
    (hat : headerAt? seen cs = some h) : h.seen = seen ∧ h.Numbered ∧ cs = h.text ++ h.rest := by
  unfold headerAt? at hat
  split at hat
  · rename_i cs
    cases hline : leadingDigits? cs with
    | none =>
      rw [hline] at hat
      cases hat
    | some found =>
      obtain ⟨line, cs'⟩ := found
      obtain ⟨hdigits, rfl⟩ := eq_append_of_leadingDigits? hline
      simp only [hline, Option.bind_eq_bind, Option.bind_some] at hat
      split at hat
      · -- A comma comes after the line, and the digits of a column after the comma.
        rename_i cs'
        cases hcolumn : leadingDigits? cs' with
        | none =>
          rw [hcolumn] at hat
          cases hat
        | some found =>
          obtain ⟨column, cs''⟩ := found
          obtain ⟨hdigits', rfl⟩ := eq_append_of_leadingDigits? hcolumn
          simp only [hcolumn, Option.bind_some] at hat
          obtain ⟨rest, hrest, hat⟩ := Option.bind_eq_some_iff.mp hat
          rw [afterHeader?_eq_some_iff] at hrest
          cases hat
          subst hrest
          refine ⟨rfl, ⟨hdigits, ?_⟩, ?_⟩
          · rintro ds ⟨⟩
            exact hdigits'
          · simp [Header.text, Header.columnText]
      · -- There is no column.
        obtain ⟨rest, hrest, hat⟩ := Option.bind_eq_some_iff.mp hat
        rw [afterHeader?_eq_some_iff] at hrest
        cases hat
        subst hrest
        refine ⟨rfl, ⟨hdigits, ?_⟩, ?_⟩
        · rintro ds ⟨⟩
        · simp [Header.text, Header.columnText]
  · cases hat

/-- A header is found where it is written. -/
lemma headerAt?_text_append {h : Header} (hnum : h.Numbered) :
    headerAt? h.seen (h.text ++ h.rest) = some h := by
  have hparen : Text.isDigit ')' = false := by decide
  have hcomma : Text.isDigit ',' = false := by decide
  obtain ⟨hline, hcolumn⟩ := hnum
  obtain ⟨seen, line, column, rest⟩ := h
  cases column with
  | none =>
    have htext : Header.text ⟨seen, line, none, rest⟩ ++ rest =
        '(' :: (line ++ ')' :: ':' :: ' ' :: rest) := by
      simp [Header.text, Header.columnText]
    simp only [htext, headerAt?, leadingDigits?_append hline hparen]
    rfl
  | some ds =>
    have htext : Header.text ⟨seen, line, some ds, rest⟩ ++ rest =
        '(' :: (line ++ ',' :: (ds ++ ')' :: ':' :: ' ' :: rest)) := by
      simp [Header.text, Header.columnText]
    simp only [htext, headerAt?, leadingDigits?_append hline hcomma, Option.bind_eq_bind,
      Option.bind_some, leadingDigits?_append (hcolumn ds rfl) hparen]
    rfl

lemma headerAt?_eq_some_iff {seen cs : List Char} {h : Header} :
    headerAt? seen cs = some h ↔ h.seen = seen ∧ h.Numbered ∧ cs = h.text ++ h.rest := by
  refine ⟨eq_append_of_headerAt?, ?_⟩
  rintro ⟨rfl, hnum, rfl⟩
  exact headerAt?_text_append hnum

/-! ## All headers -/

lemma mem_headersFrom_iff {seen cs : List Char} {h : Header} :
    h ∈ headersFrom seen cs ↔ h.Numbered ∧ ∃ before, '\n' ∉ before ∧
      h.seen = before.reverse ++ seen ∧ cs = before ++ (h.text ++ h.rest) := by
  -- The induction is on the text that is left, while `seen` grows by what has been passed.
  induction cs generalizing seen with
  | nil =>
    refine ⟨fun hmem => absurd hmem List.not_mem_nil, ?_⟩
    rintro ⟨-, before, -, -, hcs⟩
    simp [Header.text] at hcs
  | cons c cs ih =>
    rw [headersFrom, List.mem_append, Option.mem_toList, headerAt?_eq_some_iff]
    constructor
    · rintro (⟨hseen, hnum, hcs⟩ | hmem)
      · exact ⟨hnum, [], List.not_mem_nil, hseen, hcs⟩
      · split at hmem
        · exact absurd hmem List.not_mem_nil
        · rename_i hc
          obtain ⟨hnum, before, hbefore, hseen, hcs⟩ := ih.mp hmem
          refine ⟨hnum, c :: before, ?_, ?_, ?_⟩
          · rw [List.mem_cons, not_or]
            exact ⟨Ne.symm hc, hbefore⟩
          · rw [hseen, List.reverse_cons, List.append_assoc, List.singleton_append]
          · rw [hcs, List.cons_append]
    · rintro ⟨hnum, before, hbefore, hseen, hcs⟩
      cases before with
      | nil => exact Or.inl ⟨hseen, hnum, hcs⟩
      | cons d before =>
        right
        rw [List.mem_cons, not_or] at hbefore
        rw [List.cons_append] at hcs
        obtain ⟨rfl, htail⟩ := List.cons.inj hcs
        rw [if_neg (Ne.symm hbefore.1)]
        refine ih.mpr ⟨hnum, before, hbefore.2, ?_, htail⟩
        rw [hseen, List.reverse_cons, List.append_assoc, List.singleton_append]

/-- The headers of a line are those that stand in it. -/
theorem mem_headers_iff {line : List Char} {h : Header} : h ∈ headers line ↔ h.StandsIn line := by
  unfold headers
  rw [mem_headersFrom_iff]
  constructor
  · rintro ⟨hnum, before, hbefore, hseen, hline⟩
    rw [List.append_nil] at hseen
    refine ⟨hnum, ?_, ?_⟩
    · rwa [hseen, List.mem_reverse]
    · rw [hseen, List.reverse_reverse, hline]
  · rintro ⟨hnum, hfile, hline⟩
    refine ⟨hnum, h.seen.reverse, ?_, ?_, hline⟩
    · rwa [List.mem_reverse]
    · rw [List.reverse_reverse, List.append_nil]

lemma headersFrom_pairwise (seen cs : List Char) :
    (headersFrom seen cs).Pairwise fun g h => g.seen.length < h.seen.length := by
  induction cs generalizing seen with
  | nil => exact List.Pairwise.nil
  | cons c cs ih =>
    rw [headersFrom, List.pairwise_append]
    refine ⟨?_, ?_, ?_⟩
    · cases headerAt? seen (c :: cs) with
      | none => exact List.Pairwise.nil
      | some h => exact List.pairwise_singleton _ h
    · split
      · exact List.Pairwise.nil
      · exact ih (c :: seen)
    · intro g hg h hh
      rw [Option.mem_toList, headerAt?_eq_some_iff] at hg
      split at hh
      · exact absurd hh List.not_mem_nil
      · obtain ⟨-, before, -, hseen, -⟩ := mem_headersFrom_iff.mp hh
        rw [hg.1, hseen, List.length_append, List.length_cons]
        omega

/-- The headers of a line come from left to right. -/
theorem headers_pairwise (line : List Char) :
    (headers line).Pairwise fun g h => g.seen.length < h.seen.length :=
  headersFrom_pairwise [] line

/-- At one place there is one header at most. -/
lemma Header.StandsIn.eq_of_length_eq {line : List Char} {g h : Header} (hg : g.StandsIn line)
    (hh : h.StandsIn line) (hlen : g.seen.length = h.seen.length) : g = h := by
  -- Two different headers of the list would begin at different places.
  by_contra hne
  have hpair : (headers line).Pairwise fun g h => g.seen.length ≠ h.seen.length :=
    (headers_pairwise line).imp fun hlt => hlt.ne
  have : Std.Symm fun g h : Header => g.seen.length ≠ h.seen.length := ⟨fun _ _ => Ne.symm⟩
  exact hpair.forall (mem_headers_iff.mpr hg) (mem_headers_iff.mpr hh) hne hlen

/-! ## The first header that suits -/

/-- A header is the first one in a line that has some property. -/
structure Header.IsFirst (h : Header) (line : List Char) (P : Header → Prop) : Prop where
  stands : h.StandsIn line
  suits : P h
  first : ∀ g : Header, g.StandsIn line → P g → h.seen.length ≤ g.seen.length

lemma Header.IsFirst.unique {line : List Char} {P : Header → Prop} {g h : Header}
    (hg : g.IsFirst line P) (hh : h.IsFirst line P) : g = h := by
  refine hg.stands.eq_of_length_eq hh.stands (le_antisymm ?_ ?_)
  · exact hg.first h hh.stands hh.suits
  · exact hh.first g hg.stands hg.suits

lemma Header.IsFirst.of_iff {line : List Char} {P Q : Header → Prop} {h : Header}
    (hh : h.IsFirst line P) (hiff : ∀ g, P g ↔ Q g) : h.IsFirst line Q := by
  refine ⟨hh.stands, (hiff h).mp hh.suits, fun g hg hq => ?_⟩
  exact hh.first g hg ((hiff g).mpr hq)

variable {α : Type} {f : Header → Option α} {line : List Char}

lemma findSome?_headers_eq_none_iff :
    (headers line).findSome? f = none ↔ ∀ h : Header, h.StandsIn line → f h = none := by
  simp only [List.findSome?_eq_none_iff, mem_headers_iff]

/-- What a search through the headers of a line finds, it finds at the first one that suits. -/
theorem findSome?_headers_eq_some_iff {b : α} :
    (headers line).findSome? f = some b ↔
      ∃ h : Header, h.IsFirst line (fun g => ∃ a, f g = some a) ∧ f h = some b := by
  have sound : ∀ {b}, (headers line).findSome? f = some b →
      ∃ h : Header, h.IsFirst line (fun g => ∃ a, f g = some a) ∧ f h = some b := by
    intro b hf
    obtain ⟨before, h, after, hsplit, hh, hbefore⟩ := List.findSome?_eq_some_iff.mp hf
    refine ⟨h, ⟨?_, ⟨b, hh⟩, ?_⟩, hh⟩
    · rw [← mem_headers_iff, hsplit]
      exact List.mem_append_right before List.mem_cons_self
    · rintro g hg ⟨a, ha⟩
      have hpair := headers_pairwise line
      rw [hsplit, List.pairwise_append, List.pairwise_cons] at hpair
      rw [← mem_headers_iff, hsplit, List.mem_append, List.mem_cons] at hg
      rcases hg with hg | rfl | hg
      · rw [hbefore g hg] at ha
        cases ha
      · exact le_rfl
      · exact (hpair.2.1.1 g hg).le
  refine ⟨sound, ?_⟩
  rintro ⟨h, hfirst, hh⟩
  cases hfound : (headers line).findSome? f with
  | none =>
    rw [findSome?_headers_eq_none_iff.mp hfound h hfirst.stands] at hh
    cases hh
  | some b' =>
    obtain ⟨h', hfirst', hh'⟩ := sound hfound
    rw [hfirst.unique hfirst', hh'] at hh
    exact hh

lemma head?_headers_eq_none_iff :
    (headers line).head? = none ↔ ∀ h : Header, ¬ h.StandsIn line := by
  rw [List.head?_eq_none_iff, List.eq_nil_iff_forall_not_mem]
  simp only [mem_headers_iff]

/-- The first header of a line. -/
lemma head?_headers_eq_some_iff {h : Header} :
    (headers line).head? = some h ↔ h.IsFirst line fun _ => True := by
  have hsearch : (headers line).head? = (headers line).findSome? some := by
    cases headers line <;> rfl
  rw [hsearch, findSome?_headers_eq_some_iff]
  constructor
  · rintro ⟨h', hfirst, ⟨⟩⟩
    exact hfirst.of_iff fun g => iff_of_true ⟨g, rfl⟩ trivial
  · intro hfirst
    exact ⟨h, hfirst.of_iff fun g => iff_of_true trivial ⟨g, rfl⟩, rfl⟩

end DubCheck.Issue
