import DubCheck.Issue.Line
import Mathlib
/-!
# Words for severities

A text *spells* a word if it has a form of each of its letters, in their order.  The three words for
severities begin with different letters, so that no text spells two of them.

* `severityWord?_eq_some_iff`: which texts begin with the word for a severity.
* `severityOf_of_spells`: every spelling of a word is read as its severity, except that the capital
  `İ` with a dot is the form of a letter but not of its capital.
-/

namespace DubCheck

/-- The word for a severity in small letters. -/
def Severity.word (s : Severity) : List Char :=
  s.label.toList.map Char.toLower

namespace Issue

/-! ## Spellings -/

/-- A text has a form of each letter of a word, in their order. -/
def Spells (word spelling : List Char) : Prop :=
  List.Forall₂ (fun letter c => isFormOf letter c = true) word spelling

lemma spelled?_eq_some_iff {word cs spelling rest : List Char} :
    spelled? word cs = some (spelling, rest) ↔ Spells word spelling ∧ cs = spelling ++ rest := by
  induction word generalizing cs spelling with
  | nil =>
    unfold Spells
    rw [List.forall₂_nil_left_iff]
    constructor
    · rintro ⟨⟩
      exact ⟨rfl, rfl⟩
    · rintro ⟨rfl, rfl⟩
      rfl
  | cons letter word ih =>
    constructor
    · intro h
      cases cs with
      | nil => cases h
      | cons c cs =>
        unfold spelled? at h
        split at h
        · rename_i hc
          obtain ⟨⟨spelling', rest'⟩, hfound, heq⟩ := Option.map_eq_some_iff.mp h
          cases heq
          obtain ⟨hspells, rfl⟩ := ih.mp hfound
          exact ⟨List.Forall₂.cons hc hspells, rfl⟩
        · cases h
    · rintro ⟨hspells, rfl⟩
      cases hspells with
      | cons hc hspells =>
        rw [List.cons_append, spelled?, if_pos hc, ih.mpr ⟨hspells, rfl⟩]
        rfl

lemma toLower_of_isFormOf {letter c : Char} (hi : letter ≠ 'i') (h : isFormOf letter c = true) :
    c.toLower = letter := by
  unfold isFormOf at h
  simp only [Bool.or_eq_true, Bool.and_eq_true, beq_iff_eq] at h
  exact h.resolve_right fun hturkish => hi hturkish.1

lemma paren_not_mem_of_spells {s : Severity} {spelling : List Char} (h : Spells s.word spelling) :
    '(' ∉ spelling := by
  have hform : ∀ {word sp : List Char}, Spells word sp → '(' ∈ sp → '(' ∈ word := by
    intro word sp hsp hmem
    induction hsp with
    | nil => exact hmem
    | @cons letter c _ _ hc _ ih =>
      rcases List.mem_cons.mp hmem with rfl | hmem
      · unfold isFormOf at hc
        simp only [Bool.or_eq_true, Bool.and_eq_true, beq_iff_eq] at hc
        rcases hc with hc | ⟨-, hc | hc⟩
        · rw [← hc]
          exact List.mem_cons_self
        · exact absurd hc (by decide)
        · exact absurd hc (by decide)
      · exact List.mem_cons_of_mem _ (ih hmem)
  intro hmem
  have := hform h hmem
  revert this
  cases s <;> decide

/-! ## The word at the beginning of a text -/

/-- A text begins with the word for a severity, in some spelling, and a colon and a blank. -/
structure NamesSeverity (cs : List Char) (s : Severity) (spelling rest : List Char) : Prop where
  spells : Spells s.word spelling
  split : cs = spelling ++ ':' :: ' ' :: rest

lemma mem_severityWords_iff {word : List Char} :
    word ∈ severityWords ↔ ∃ s : Severity, s.word = word := by
  constructor
  · intro h
    simp only [severityWords, List.mem_cons, List.not_mem_nil, or_false] at h
    rcases h with rfl | rfl | rfl
    · exact ⟨.deprecation, by decide⟩
    · exact ⟨.warning, by decide⟩
    · exact ⟨.error, by decide⟩
  · rintro ⟨s, rfl⟩
    cases s <;> decide

/-- A text that begins with the words for two severities would have a form of two letters at its
beginning. -/
lemma NamesSeverity.unique {cs spelling rest spelling' rest' : List Char} {s s' : Severity}
    (h : NamesSeverity cs s spelling rest) (h' : NamesSeverity cs s' spelling' rest') :
    s = s' ∧ spelling = spelling' ∧ rest = rest' := by
  obtain ⟨hspells, rfl⟩ := h
  obtain ⟨hspells', hsplit⟩ := h'
  have hs : s = s' := by
    -- None of the three words begins with an `i`, so that its first letter has two forms only.
    have hletters : ∀ (t : Severity) {sp : List Char}, Spells t.word sp →
        ∃ c, sp.head? = some c ∧ t.word.head? = some c.toLower := by
      intro t sp hsp
      obtain ⟨letter, word, hword, hi⟩ : ∃ letter word, t.word = letter :: word ∧ letter ≠ 'i' := by
        cases t <;> exact ⟨_, _, rfl, by decide⟩
      rw [hword] at hsp ⊢
      obtain ⟨c, tail, hc, -, rfl⟩ := List.forall₂_cons_left_iff.mp hsp
      exact ⟨c, rfl, congrArg some (toLower_of_isFormOf hi hc).symm⟩
    obtain ⟨c, hhead, hc⟩ := hletters s hspells
    obtain ⟨c', hhead', hc'⟩ := hletters s' hspells'
    have hcc : c = c' := by
      have := congrArg List.head? hsplit
      rw [List.head?_append, List.head?_append, hhead, hhead'] at this
      exact Option.some.inj this
    subst hcc
    rw [← hc'] at hc
    revert hc
    cases s <;> cases s' <;> decide
  subst hs
  have hlen : spelling.length = spelling'.length :=
    hspells.length_eq.symm.trans hspells'.length_eq
  obtain ⟨rfl, htail⟩ := List.append_inj hsplit hlen
  cases htail
  exact ⟨rfl, rfl, rfl⟩

/-- What the search for a severity word finds is the word for a severity, however it is spelled. -/
theorem severityWord?_eq_some_iff {cs spelling rest : List Char} :
    severityWord? cs = some (spelling, rest) ↔ ∃ s, NamesSeverity cs s spelling rest := by
  have sound : ∀ {spelling rest}, severityWord? cs = some (spelling, rest) →
      ∃ s, NamesSeverity cs s spelling rest := by
    intro spelling rest h
    obtain ⟨word, hword, h⟩ := List.exists_of_findSome?_eq_some h
    obtain ⟨s, rfl⟩ := mem_severityWords_iff.mp hword
    split at h
    · rename_i sp tail hspelled
      cases h
      obtain ⟨hspells, hcs⟩ := spelled?_eq_some_iff.mp hspelled
      exact ⟨s, hspells, hcs⟩
    · cases h
  refine ⟨sound, ?_⟩
  rintro ⟨s, h⟩
  cases hfound : severityWord? cs with
  | some found =>
    obtain ⟨s', h'⟩ := sound hfound
    obtain ⟨-, hspelling, hrest⟩ := h.unique h'
    rw [hspelling, hrest]
  | none =>
    have hnone := List.findSome?_eq_none_iff.mp hfound s.word (mem_severityWords_iff.mpr ⟨s, rfl⟩)
    rw [spelled?_eq_some_iff.mpr ⟨h.spells, h.split⟩] at hnone
    cases hnone

/-! ## Reading a word -/

/-- The capital letter `İ` with a dot. -/
def dottedCapital : Char := Char.ofNat 0x130

lemma toUpper_of_toLower {letter c : Char} (hsmall : letter.toNat < 0x80)
    (h : c.toLower = letter) : c.toNat < 0x80 ∧ c.toUpper = letter.toUpper := by
  have hascii : ∀ n < 0x80, (Char.ofNat n).toUpper = (Char.ofNat n).toLower.toUpper := by decide
  have hlt : c.toNat < 0x80 := by
    unfold Char.toLower at h
    split at h
    · rename_i hrange
      have hle := hrange.2
      rw [UInt32.le_iff_toNat_le, Char.toNat_val] at hle
      exact Nat.lt_of_le_of_lt hle (by decide)
    · rwa [h]
  have hc := hascii c.toNat hlt
  rw [Char.ofNat_toNat, h] at hc
  exact ⟨hlt, hc⟩

/-- The capital form of a form of a letter is the capital letter. -/
lemma upperChar_of_isFormOf {letter c : Char} (hsmall : letter.toNat < 0x80)
    (hc : isFormOf letter c = true) (hdot : c ≠ dottedCapital) :
    Text.upperChar c = [letter.toUpper] := by
  unfold isFormOf at hc
  simp only [Bool.or_eq_true, Bool.and_eq_true, beq_iff_eq] at hc
  rcases hc with hc | ⟨rfl, hc | hc⟩
  · obtain ⟨hlt, hupper⟩ := toUpper_of_toLower hsmall hc
    rw [Text.upperChar, if_pos hlt, hupper]
  · rw [← Char.ofNat_toNat c, hc]
    decide
  · rw [← Char.ofNat_toNat c, hc] at hdot
    exact absurd rfl hdot

lemma flatMap_upperChar_of_spells {word spelling : List Char} (h : Spells word spelling)
    (hsmall : ∀ letter ∈ word, letter.toNat < 0x80) (hdot : dottedCapital ∉ spelling) :
    spelling.flatMap Text.upperChar = word.map Char.toUpper := by
  induction h with
  | nil => rfl
  | cons hc _ ih =>
    rw [List.mem_cons, not_or] at hdot
    rw [List.forall_mem_cons] at hsmall
    rw [List.flatMap_cons, upperChar_of_isFormOf hsmall.1 hc (Ne.symm hdot.1), ih hsmall.2 hdot.2]
    rfl

/-- How a spelling of the word for a severity is read: as that severity, unless it has the capital
`İ` with a dot, which is its own capital. -/
theorem severityOf_of_spells {s : Severity} {spelling : List Char} (h : Spells s.word spelling) :
    severityOf (String.ofList spelling) =
      if dottedCapital ∈ spelling then .error (.severity (Text.upper (String.ofList spelling)))
      else .ok s := by
  unfold severityOf
  split
  · rename_i hdot
    -- The dotted capital stays in the word, and no word in capitals has it.
    have hmem : dottedCapital ∈ (Text.upper (String.ofList spelling)).toList := by
      rw [Text.upper, String.toList_ofList, String.toList_ofList, List.mem_flatMap]
      exact ⟨dottedCapital, hdot, by decide⟩
    have hnone : Severity.ofCapitals? (Text.upper (String.ofList spelling)) = none := by
      refine List.find?_eq_none.mpr fun t _ ht => ?_
      rw [← beq_iff_eq.mp ht] at hmem
      revert hmem
      cases t <;> decide
    simp only [hnone]
  · rename_i hdot
    have hsmall : ∀ letter ∈ s.word, letter.toNat < 0x80 := by
      rw [← List.all_iff_forall_prop]
      cases s <;> decide
    have hupper : Text.upper (String.ofList spelling) = s.capitals := by
      rw [Text.upper, String.toList_ofList, flatMap_upperChar_of_spells h hsmall hdot]
      cases s <;> decide
    have hfound : Severity.ofCapitals? s.capitals = some s := by
      cases s <;> decide
    simp only [hupper, hfound]

end Issue

end DubCheck
