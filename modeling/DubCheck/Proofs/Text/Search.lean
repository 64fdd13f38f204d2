import DubCheck.Text.Search
import Mathlib
/-!
# What is found in a text

Searching decides whether a text is part of another one, and splitting takes a text apart at its
separators.
-/

namespace DubCheck.Text

variable {separator : Char} {cs : List Char}

/-- Searching finds a text exactly where it is a part. -/
lemma occursIn_iff {needle : List Char} : occursIn needle cs = true ↔ needle <:+: cs := by
  induction cs with
  | nil =>
    rw [occursIn, List.isEmpty_iff, List.infix_nil]
  | cons c cs ih =>
    rw [occursIn, Bool.or_eq_true, List.isPrefixOf_iff_prefix, ih, List.infix_cons_iff]

/-- What is found is the first place where the mark stands. -/
lemma eq_append_of_splitAtFirst? {mark before after : List Char}
    (h : splitAtFirst? mark cs = some (before, after)) :
    cs = before ++ (mark ++ after) ∧
      ∀ before' after', cs = before' ++ (mark ++ after') → before.length ≤ before'.length := by
  induction cs generalizing before with
  | nil =>
    rw [splitAtFirst?] at h
    split at h
    · rename_i hmark
      rw [List.isEmpty_iff] at hmark
      cases h
      exact ⟨by rw [hmark]; rfl, fun _ _ _ => Nat.zero_le _⟩
    · cases h
  | cons c cs ih =>
    rw [splitAtFirst?] at h
    split at h
    · rename_i hmark
      cases h
      obtain ⟨rest, hrest⟩ := List.isPrefixOf_iff_prefix.mp hmark
      refine ⟨?_, fun _ _ _ => Nat.zero_le _⟩
      rw [← hrest, List.drop_left, List.nil_append]
    · rename_i hmark
      obtain ⟨⟨before', after'⟩, hfound, heq⟩ := Option.map_eq_some_iff.mp h
      cases heq
      obtain ⟨hcs, hfirst⟩ := ih hfound
      refine ⟨by rw [hcs]; rfl, fun other rest hother => ?_⟩
      cases other with
      | nil =>
        refine absurd (List.isPrefixOf_iff_prefix.mpr ?_) hmark
        exact ⟨rest, hother.symm⟩
      | cons d other =>
        rw [List.cons_append] at hother
        exact Nat.succ_le_succ (hfirst other rest (List.cons.inj hother).2)

lemma splitAtFirst?_ne_none {mark before after : List Char} (h : cs = before ++ (mark ++ after)) :
    splitAtFirst? mark cs ≠ none := by
  induction cs generalizing before with
  | nil =>
    have hmark : mark = [] := by
      rw [eq_comm, List.append_eq_nil_iff, List.append_eq_nil_iff] at h
      exact h.2.1
    rw [splitAtFirst?, hmark]
    exact Option.some_ne_none _
  | cons c cs ih =>
    rw [splitAtFirst?]
    split
    · exact Option.some_ne_none _
    · rename_i hmark
      cases before with
      | nil =>
        refine absurd (List.isPrefixOf_iff_prefix.mpr ?_) hmark
        exact ⟨after, h.symm⟩
      | cons d before =>
        rw [List.cons_append] at h
        rw [Ne, Option.map_eq_none_iff]
        exact ih (List.cons.inj h).2

/-- A text without the separator is its only part. -/
lemma splitOn_of_not_mem (h : separator ∉ cs) : splitOn separator cs = [cs] := by
  induction cs with
  | nil => rfl
  | cons c cs ih =>
    rw [List.mem_cons, not_or] at h
    unfold splitOn
    rw [if_neg (Ne.symm h.1), ih h.2]

/-- The first part reaches to the first separator. -/
lemma splitOn_append_cons (h : separator ∉ cs) (rest : List Char) :
    splitOn separator (cs ++ separator :: rest) = cs :: splitOn separator rest := by
  induction cs with
  | nil => rw [List.nil_append, splitOn, if_pos rfl]
  | cons c cs ih =>
    rw [List.mem_cons, not_or] at h
    rw [List.cons_append, splitOn, if_neg (Ne.symm h.1), ih h.2]

/-- Splitting is that of the library. -/
lemma splitOn_eq (separator : Char) (cs : List Char) :
    splitOn separator cs = cs.splitOn separator := by
  rw [List.splitOn]
  induction cs with
  | nil => rfl
  | cons c cs ih =>
    rw [splitOn, ih, List.splitOnP_cons_eq_if_modifyHead]
    by_cases hc : c = separator
    · rw [if_pos hc, if_pos (beq_iff_eq.mpr hc)]
    · rw [if_neg hc, if_neg (mt beq_iff_eq.mp hc)]
      cases hparts : cs.splitOnP (· == separator) with
      | nil => exact absurd hparts (List.splitOnP_ne_nil _ _)
      | cons part parts => rfl

/-- No part has a separator in it. -/
lemma not_mem_of_mem_splitOn {part : List Char} (h : part ∈ splitOn separator cs) :
    separator ∉ part := by
  induction cs generalizing part with
  | nil =>
    rw [splitOn, List.mem_singleton] at h
    rw [h]
    exact List.not_mem_nil
  | cons c cs ih =>
    rw [splitOn] at h
    split at h
    · rcases List.mem_cons.mp h with rfl | h
      · exact List.not_mem_nil
      · exact ih h
    · rename_i hc
      have hcons : ∀ first : List Char, separator ∉ first → separator ∉ c :: first := by
        intro first hfirst hmem
        rcases List.mem_cons.mp hmem with rfl | hmem
        · exact hc rfl
        · exact hfirst hmem
      split at h
      · rw [List.mem_singleton.mp h]
        exact hcons [] List.not_mem_nil
      · rename_i first rest hparts
        rcases List.mem_cons.mp h with rfl | h
        · exact hcons first (ih (by rw [hparts]; exact List.mem_cons_self))
        · exact ih (by rw [hparts]; exact List.mem_cons_of_mem first h)

/-- The parts of a text are those texts without a separator that separators join to it. -/
lemma eq_splitOn_iff {parts : List (List Char)} :
    parts = splitOn separator cs ↔
      parts ≠ [] ∧ (∀ part ∈ parts, separator ∉ part) ∧ [separator].intercalate parts = cs := by
  constructor
  · rintro rfl
    refine ⟨?_, fun part => not_mem_of_mem_splitOn, ?_⟩
    · rw [splitOn_eq]
      exact List.splitOnP_ne_nil _ _
    · rw [splitOn_eq, List.intercalate_splitOn]
  · rintro ⟨hne, hparts, rfl⟩
    rw [splitOn_eq, List.splitOn_intercalate separator hparts hne]

end DubCheck.Text
