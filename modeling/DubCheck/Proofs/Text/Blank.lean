import DubCheck.Text.Blank
import Mathlib
/-!
# Trimming

A text that neither begins nor ends with a blank is trimmed already, and a trimmed text does not
begin with one.  Whatever stands in a text and has no blank at its own ends is still there when the
text is trimmed.
-/

namespace DubCheck.Text

variable {cs : List Char}

lemma dropWhile_eq_self {p : Char → Bool} (h : ∀ c ∈ cs.head?, p c = false) :
    cs.dropWhile p = cs := by
  cases cs with
  | nil => rfl
  | cons c cs => rw [List.dropWhile_cons_of_neg (by simp [h c rfl])]

lemma trim_eq_self (hhead : ∀ c ∈ cs.head?, isBlank c = false)
    (hlast : ∀ c ∈ cs.getLast?, isBlank c = false) : trim cs = cs := by
  have hreverse : ∀ c ∈ cs.reverse.head?, isBlank c = false := by
    rwa [List.head?_reverse]
  rw [trim, dropWhile_eq_self hhead, dropEndWhile, dropWhile_eq_self hreverse,
    List.reverse_reverse]

lemma dropEndWhile_prefix (p : Char → Bool) (cs : List Char) : dropEndWhile p cs <+: cs := by
  have h : cs.reverse.dropWhile p <:+ cs.reverse := List.dropWhile_suffix p
  rw [dropEndWhile]
  rwa [← List.reverse_prefix, List.reverse_reverse] at h

/-- An ending of characters that are dropped is dropped, and nothing more if the rest ends with
another one. -/
lemma dropEndWhile_append {p : Char → Bool} {ending : List Char}
    (hending : ∀ c ∈ ending, p c = true)
    (hlast : ∀ c ∈ cs.getLast?, p c = false) : dropEndWhile p (cs ++ ending) = cs := by
  have hhead : ∀ c ∈ cs.reverse.head?, p c = false := by
    rwa [List.head?_reverse]
  rw [dropEndWhile, List.reverse_append,
    List.dropWhile_append_of_pos fun c hc => hending c (List.mem_reverse.mp hc),
    dropWhile_eq_self hhead, List.reverse_reverse]

lemma isBlank_of_mem_head?_trim : ∀ c ∈ (trim cs).head?, isBlank c = false := by
  intro c hc
  obtain ⟨rest, hrest⟩ := dropEndWhile_prefix isBlank (cs.dropWhile isBlank)
  rw [trim] at hc
  have hhead : c ∈ (cs.dropWhile isBlank).head? := by
    rw [← hrest]
    exact List.mem_head?_append_of_mem_head? hc
  have hdrop := List.head?_dropWhile_not isBlank cs
  rw [Option.mem_def.mp hhead] at hdrop
  simpa using hdrop

/-- A text with something in it that is no blank is not empty when it is trimmed. -/
lemma trim_ne_nil {c : Char} (hmem : c ∈ cs) (hc : isBlank c = false) : trim cs ≠ [] := by
  intro h
  rw [trim, dropEndWhile, List.reverse_eq_nil_iff, List.dropWhile_eq_nil_iff] at h
  rw [← List.takeWhile_append_dropWhile (p := isBlank) (l := cs), List.mem_append] at hmem
  have hblank : isBlank c = true := by
    rcases hmem with hmem | hmem
    · exact List.mem_takeWhile_imp hmem
    · exact h c (List.mem_reverse.mpr hmem)
  rw [hc] at hblank
  cases hblank

lemma trim_infix (cs : List Char) : trim cs <:+: cs := by
  have htrim : trim cs <+: cs.dropWhile isBlank := dropEndWhile_prefix isBlank _
  exact htrim.isInfix.trans (List.dropWhile_suffix isBlank).isInfix

/-- Dropping characters from the front stops at the latest where a part begins that does not begin
with such a character. -/
lemma infix_dropWhile {p : Char → Bool} {part : List Char} (h : part <:+: cs)
    (hhead : ∀ c ∈ part.head?, p c = false) : part <:+: cs.dropWhile p := by
  induction cs with
  | nil => exact h
  | cons c cs ih =>
    rw [List.dropWhile_cons]
    split
    · rename_i hc
      rcases List.infix_cons_iff.mp h with hprefix | hinfix
      · cases part with
        | nil => exact List.nil_infix
        | cons d part =>
          obtain ⟨rfl, -⟩ := List.cons_prefix_cons.mp hprefix
          rw [hhead d rfl] at hc
          cases hc
      · exact ih hinfix
    · exact h

lemma infix_trim {part : List Char} (h : part <:+: cs)
    (hhead : ∀ c ∈ part.head?, isBlank c = false)
    (hlast : ∀ c ∈ part.getLast?, isBlank c = false) : part <:+: trim cs := by
  have hfront : part <:+: cs.dropWhile isBlank := infix_dropWhile h hhead
  -- The other end is the front of the text backwards.
  have hback : part.reverse <:+: (cs.dropWhile isBlank).reverse.dropWhile isBlank := by
    refine infix_dropWhile (List.reverse_infix.mpr hfront) ?_
    rwa [List.head?_reverse]
  rw [trim, dropEndWhile]
  rwa [← List.reverse_infix, List.reverse_reverse]

/-- What neither begins nor ends with a blank, after a trimmed text and a space. -/
lemma trimmed_append_space {s q : String} (hne : q ≠ "")
    (hhead : ∀ c ∈ q.toList.head?, isBlank c = false)
    (hlast : ∀ c ∈ q.toList.getLast?, isBlank c = false) :
    trimmed (trimmed s ++ " " ++ q) =
      if (trimmed s).isEmpty then q else trimmed s ++ " " ++ q := by
  have hlist : (trimmed s ++ " " ++ q).toList = trim s.toList ++ ' ' :: q.toList := by
    simp [trimmed]
  have hcons : q.toList ≠ [] := fun h => hne (String.toList_eq_nil_iff.mp h)
  rw [trimmed, hlist]
  cases ht : trim s.toList with
  | nil =>
    have hempty : trimmed s = "" := by rw [trimmed, ht]
    have hspace : trim (' ' :: q.toList) = trim q.toList := rfl
    rw [List.nil_append, hspace, trim_eq_self hhead hlast, hempty, String.ofList_toList]
    rfl
  | cons c t =>
    have hc : ∀ d ∈ (c :: t ++ ' ' :: q.toList).head?, isBlank d = false := by
      rintro d ⟨⟩
      exact isBlank_of_mem_head?_trim c (by rw [ht]; rfl)
    have hd : ∀ d ∈ (c :: t ++ ' ' :: q.toList).getLast?, isBlank d = false := by
      intro d hd
      refine hlast d ?_
      rw [List.getLast?_append, List.getLast?_cons] at hd
      cases hq : q.toList with
      | nil => exact absurd hq hcons
      | cons e es => simpa [hq, List.getLast?_cons] using hd
    have hnonempty : (trimmed s).isEmpty = false := by
      simp [trimmed, ht]
    rw [trim_eq_self hc hd, hnonempty, if_neg (by simp)]
    rw [← ht, ← hlist, String.ofList_toList]

end DubCheck.Text
