import DubCheck.Proofs.Text.Blank
import DubCheck.Text.Line
import Mathlib
/-!
# Cutting a text into lines

The lines of a text have no line boundary in them, and a text that is written line by line, each
with a newline after it, is cut into these lines again.  Cutting at newlines only leaves no newline
in a line, and gives the same lines if the text has no other boundary.  `HasLines` says what these
lines are without cutting the text.
-/

namespace DubCheck.Text

/-- A text without line boundaries. -/
def OneLine (cs : List Char) : Prop :=
  ∀ c ∈ cs, isLineBoundary c = false

instance : DecidablePred OneLine :=
  fun cs => List.decidableBAll (isLineBoundary · = false) cs

variable {cs l : List Char}

lemma OneLine.newline_not_mem (h : OneLine cs) : '\n' ∉ cs := by
  intro hmem
  cases h '\n' hmem

lemma OneLine.return_not_mem (h : OneLine cs) : '\r' ∉ cs := by
  intro hmem
  cases h '\r' hmem

lemma OneLine.cons {c : Char} (hc : isLineBoundary c = false) (h : OneLine cs) :
    OneLine (c :: cs) :=
  List.forall_mem_cons.mpr ⟨hc, h⟩

lemma OneLine.append {cs' : List Char} (h : OneLine cs) (h' : OneLine cs') :
    OneLine (cs ++ cs') := by
  intro c hc
  rcases List.mem_append.mp hc with hc | hc
  · exact h c hc
  · exact h' c hc

lemma OneLine.subset {cs' : List Char} (h : OneLine cs) (hsub : cs' ⊆ cs) : OneLine cs' :=
  fun c hc => h c (hsub hc)

lemma mem_consFirst {c : Char} {ls : List (List Char)} (h : l ∈ consFirst c ls) :
    l ∈ ls ∨ ∃ l', l = c :: l' ∧ (l' = [] ∨ l' ∈ ls) := by
  cases ls with
  | nil => exact Or.inr ⟨[], List.mem_singleton.mp h, Or.inl rfl⟩
  | cons first ls =>
    rcases List.mem_cons.mp h with rfl | h
    · exact Or.inr ⟨first, rfl, Or.inr List.mem_cons_self⟩
    · exact Or.inl (List.mem_cons_of_mem first h)

/-- The lines of a text have no line boundary in them. -/
theorem oneLine_of_mem_splitLines (h : l ∈ splitLines cs) : OneLine l := by
  -- One case for each way to cut: the end, a return and a newline, a boundary, any other character.
  induction cs using splitLines.induct generalizing l with
  | case1 => cases h
  | case2 rest ih =>
    rw [splitLines] at h
    rcases List.mem_cons.mp h with rfl | h
    · exact fun c hc => absurd hc List.not_mem_nil
    · exact ih h
  | case3 c rest hpair hboundary ih =>
    rw [splitLines, if_pos hboundary] at h
    · rcases List.mem_cons.mp h with rfl | h
      · exact fun c hc => absurd hc List.not_mem_nil
      · exact ih h
    · exact hpair
  | case4 c rest hpair hboundary ih =>
    rw [splitLines, if_neg hboundary] at h
    · rcases mem_consFirst h with h | ⟨l', rfl, hl'⟩
      · exact ih h
      · intro d hd
        rcases List.mem_cons.mp hd with rfl | hd
        · exact Bool.eq_false_iff.mpr hboundary
        · rcases hl' with rfl | hl'
          · exact absurd hd List.not_mem_nil
          · exact ih hl' d hd
    · exact hpair

/-- A text without boundaries and the boundary after it are the first line.  A carriage return is
left out because a newline may belong to it. -/
lemma splitLines_append_boundary (h : OneLine l) {c : Char} (hc : isLineBoundary c = true)
    (hreturn : c ≠ '\r') (rest : List Char) :
    splitLines (l ++ c :: rest) = l :: splitLines rest := by
  induction l with
  | nil =>
    rw [List.nil_append, splitLines, if_pos hc]
    rintro _ rfl
    exact absurd rfl hreturn
  | cons d l ih =>
    have hd : isLineBoundary d = false := h d List.mem_cons_self
    have hl : OneLine l := fun e he => h e (List.mem_cons_of_mem d he)
    rw [List.cons_append, splitLines, if_neg (by rw [hd]; decide), ih hl]
    · rfl
    · rintro _ rfl
      cases hd

/-- A text that is written line by line is cut into these lines again. -/
theorem splitLines_flatMap {ls : List (List Char)} (h : ∀ l ∈ ls, OneLine l) :
    splitLines (ls.flatMap fun l => l ++ ['\n']) = ls := by
  induction ls with
  | nil => rfl
  | cons l ls ih =>
    rw [List.forall_mem_cons] at h
    rw [List.flatMap_cons, List.append_assoc, List.singleton_append,
      splitLines_append_boundary h.1 (by decide) (by decide), ih h.2]

lemma translateNewlines_eq_self (h : '\r' ∉ cs) : translateNewlines cs = cs := by
  induction cs with
  | nil => rfl
  | cons c cs ih =>
    rw [List.mem_cons, not_or] at h
    rw [translateNewlines, ih h.2, if_neg (Ne.symm h.1)]
    exact fun _ hc _ => h.1 hc.symm

/-- There is no line end to remove from a line that has none in it. -/
lemma dropLineEnd_eq_self (hreturn : '\r' ∉ cs) (hnewline : '\n' ∉ cs) : dropLineEnd cs = cs := by
  have hdrop : cs.reverse.dropWhile isReturnOrNewline = cs.reverse := by
    refine dropWhile_eq_self fun c hc => ?_
    have hmem : c ∈ cs := List.mem_reverse.mp (List.mem_of_mem_head? hc)
    rw [isReturnOrNewline, Bool.or_eq_false_iff, beq_eq_false_iff_ne, beq_eq_false_iff_ne]
    exact ⟨ne_of_mem_of_not_mem hmem hreturn, ne_of_mem_of_not_mem hmem hnewline⟩
  rw [dropLineEnd, dropEndWhile, hdrop, List.reverse_reverse]

/-! ## Cutting at newlines -/

lemma newline_not_mem_of_mem_linesOf (h : l ∈ linesOf cs) : '\n' ∉ l := by
  induction cs generalizing l with
  | nil => cases h
  | cons c cs ih =>
    rw [linesOf] at h
    split at h
    · rcases List.mem_cons.mp h with rfl | h
      · exact List.not_mem_nil
      · exact ih h
    · rename_i hc
      rcases mem_consFirst h with h | ⟨l', rfl, hl'⟩
      · exact ih h
      · rw [List.mem_cons, not_or]
        refine ⟨Ne.symm hc, ?_⟩
        rcases hl' with rfl | hl'
        · exact List.not_mem_nil
        · exact ih hl'

/-- Every character of a line comes from the text. -/
lemma subset_of_mem_linesOf (h : l ∈ linesOf cs) : l ⊆ cs := by
  induction cs generalizing l with
  | nil => cases h
  | cons c cs ih =>
    rw [linesOf] at h
    split at h
    · rcases List.mem_cons.mp h with rfl | h
      · exact List.nil_subset _
      · exact List.Subset.trans (ih h) (List.subset_cons_self c cs)
    · rcases mem_consFirst h with h | ⟨l', rfl, hl'⟩
      · exact List.Subset.trans (ih h) (List.subset_cons_self c cs)
      · refine List.cons_subset_cons c ?_
        rcases hl' with rfl | hl'
        · exact List.nil_subset cs
        · exact ih hl'

/-- A text without newlines and the newline after it are the first line. -/
lemma linesOf_append_newline (h : '\n' ∉ l) (rest : List Char) :
    linesOf (l ++ '\n' :: rest) = l :: linesOf rest := by
  induction l with
  | nil => rw [List.nil_append, linesOf, if_pos rfl]
  | cons c l ih =>
    rw [List.mem_cons, not_or] at h
    rw [List.cons_append, linesOf, if_neg (Ne.symm h.1), ih h.2]
    rfl

/-- A text that is written line by line is cut into these lines again. -/
lemma linesOf_flatMap {ls : List (List Char)} (h : ∀ l ∈ ls, '\n' ∉ l) :
    linesOf (ls.flatMap fun l => l ++ ['\n']) = ls := by
  induction ls with
  | nil => rfl
  | cons l ls ih =>
    rw [List.forall_mem_cons] at h
    rw [List.flatMap_cons, List.append_assoc, List.singleton_append, linesOf_append_newline h.1,
      ih h.2]

/-- A text has some lines: a newline stands after each of them, but may be missing after a last line
that is not empty. -/
inductive HasLines : List Char → List (List Char) → Prop where
  | nothing : HasLines [] []
  | unended {l : List Char} (hne : l ≠ []) (h : '\n' ∉ l) : HasLines l [l]
  | ended {l rest : List Char} {ls : List (List Char)} (h : '\n' ∉ l) (hrest : HasLines rest ls) :
    HasLines (l ++ '\n' :: rest) (l :: ls)

lemma HasLines.consFirst {c : Char} {ls : List (List Char)} (hc : '\n' ≠ c) (h : HasLines cs ls) :
    HasLines (c :: cs) (consFirst c ls) := by
  have hmem : ∀ {l : List Char}, '\n' ∉ l → '\n' ∉ c :: l := fun hl =>
    List.not_mem_cons_of_ne_of_not_mem hc hl
  cases h with
  | nothing => exact .unended (List.cons_ne_nil c []) (hmem List.not_mem_nil)
  | unended hne h => exact .unended (List.cons_ne_nil c _) (hmem h)
  | ended h hrest => exact .ended (hmem h) hrest

/-- A text without newlines is a single line, unless it is empty. -/
lemma linesOf_eq_singleton (hne : l ≠ []) (h : '\n' ∉ l) : linesOf l = [l] := by
  induction l with
  | nil => exact absurd rfl hne
  | cons c l ih =>
    rw [List.mem_cons, not_or] at h
    rw [linesOf, if_neg (Ne.symm h.1)]
    cases l with
    | nil => rfl
    | cons d l => rw [ih (List.cons_ne_nil d l) h.2, Text.consFirst]

/-- The lines that a text is cut into are the lines that it has. -/
theorem hasLines_iff {ls : List (List Char)} : HasLines cs ls ↔ ls = linesOf cs := by
  constructor
  · intro h
    induction h with
    | nothing => rfl
    | unended hne h => rw [linesOf_eq_singleton hne h]
    | ended h _ ih => rw [linesOf_append_newline h, ih]
  · rintro rfl
    induction cs with
    | nil => exact .nothing
    | cons c cs ih =>
      rw [linesOf]
      split
      · rename_i hc
        rw [hc]
        exact .ended List.not_mem_nil ih
      · rename_i hc
        exact ih.consFirst (Ne.symm hc)

/-- No carriage return is left when line ends have become newlines. -/
lemma return_not_mem_translateNewlines (cs : List Char) : '\r' ∉ translateNewlines cs := by
  induction cs using translateNewlines.induct with
  | case1 => exact List.not_mem_nil
  | case2 rest ih =>
    rw [translateNewlines, List.mem_cons, not_or]
    exact ⟨by decide, ih⟩
  | case3 c rest hpair ih =>
    rw [translateNewlines, List.mem_cons, not_or]
    · refine ⟨?_, ih⟩
      split
      · decide
      · rename_i hc
        exact Ne.symm hc
    · exact hpair

/-- A text whose only boundaries are newlines is cut in the same way either way. -/
theorem splitLines_eq_linesOf (h : ∀ c ∈ cs, isLineBoundary c = true → c = '\n') :
    splitLines cs = linesOf cs := by
  induction cs with
  | nil => rfl
  | cons c cs ih =>
    rw [List.forall_mem_cons] at h
    have hpair : ∀ rest, c = '\r' → cs = '\n' :: rest → False := by
      rintro rest rfl -
      exact absurd (h.1 rfl) (by decide)
    rw [splitLines, linesOf, ih h.2]
    · refine if_congr ⟨h.1, ?_⟩ rfl rfl
      rintro rfl
      rfl
    · exact hpair

end DubCheck.Text
