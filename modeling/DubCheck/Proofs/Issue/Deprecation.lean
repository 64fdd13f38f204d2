import DubCheck.Issue.Line
import DubCheck.Proofs.Text.Search
import Mathlib
/-!
# What reads like a deprecation

A text *reads like a deprecation* of an old name in favour of a new one if it is the sentence
`old is deprecated, use new instead` with one more character, which need not be a full stop, and
perhaps a newline.  There can be several ways to read a text, and the shortest old name counts.

* `deprecated?_eq_some_iff`: which names are read.
* `ReadsDeprecated.append_left`: what is put in front of a deprecation reads like one, too.
-/

namespace DubCheck.Issue

/-! ## Up to the first newline -/

lemma newline_not_mem_toNewline (cs : List Char) : '\n' ∉ toNewline cs := by
  intro h
  have := List.mem_takeWhile_imp h
  simp at this

lemma toNewline_of_not_mem {cs : List Char} (h : '\n' ∉ cs) (rest : List Char) :
    toNewline (cs ++ '\n' :: rest) = cs := by
  have hall : ∀ c ∈ cs, (c != '\n') = true := by
    intro c hc
    rw [bne_iff_ne]
    rintro rfl
    exact h hc
  unfold toNewline
  rw [List.takeWhile_append_of_pos hall, List.takeWhile_cons_of_neg (by decide), List.append_nil]

lemma toNewline_eq_self {cs : List Char} (h : '\n' ∉ cs) : toNewline cs = cs := by
  refine List.takeWhile_eq_self_iff.mpr fun c hc => ?_
  rw [bne_iff_ne]
  rintro rfl
  exact h hc

/-- Up to the first newline there is everything, or a newline follows. -/
lemma toNewline_cases (cs : List Char) :
    cs = toNewline cs ∨ ∃ rest, cs = toNewline cs ++ '\n' :: rest := by
  have hcs : toNewline cs ++ cs.dropWhile (· != '\n') = cs := List.takeWhile_append_dropWhile
  cases hdrop : cs.dropWhile (· != '\n') with
  | nil =>
    rw [hdrop, List.append_nil] at hcs
    exact Or.inl hcs.symm
  | cons c rest =>
    have hc : c = '\n' := by
      have hne : cs.dropWhile (· != '\n') ≠ [] := by
        rw [hdrop]
        exact List.cons_ne_nil c rest
      have hhead := List.head_dropWhile_not (· != '\n') hne
      simpa [hdrop] using hhead
    rw [hdrop, hc] at hcs
    exact Or.inr ⟨rest, hcs.symm⟩

/-! ## Sentences -/

/-- The sentence about an old name and a new one, which ends in some character. -/
def deprecationSentence (old new : List Char) (stop : Char) : List Char :=
  old ++ (deprecationPhrase ++ (new ++ deprecationEnding ++ [stop]))

/-- A text is a sentence about an old name and a new one, perhaps with a newline after it. -/
def ReadsDeprecated (cs old new : List Char) : Prop :=
  ∃ stop, '\n' ∉ deprecationSentence old new stop ∧
    (cs = deprecationSentence old new stop ∨ cs = deprecationSentence old new stop ++ ['\n'])

/-- The names in a text that reads like a deprecation.  The old name is as short as can be. -/
structure NamesDeprecated (cs old new : List Char) : Prop where
  reads : ReadsDeprecated cs old new
  shortest : ∀ old' new', ReadsDeprecated cs old' new' → old.length ≤ old'.length

/-- The sentence is the first row of the text. -/
lemma ReadsDeprecated.toNewline_eq {cs old new : List Char} (h : ReadsDeprecated cs old new) :
    ∃ stop, toNewline cs = deprecationSentence old new stop := by
  obtain ⟨stop, hnewline, rfl | rfl⟩ := h
  · exact ⟨stop, toNewline_eq_self hnewline⟩
  · exact ⟨stop, toNewline_of_not_mem hnewline []⟩

lemma ReadsDeprecated.length_le {cs old new : List Char} (h : ReadsDeprecated cs old new) :
    cs.length ≤ (toNewline cs).length + 1 := by
  obtain ⟨stop, hnewline, rfl | rfl⟩ := h
  · rw [toNewline_eq_self hnewline]
    exact Nat.le_succ _
  · rw [toNewline_of_not_mem hnewline [], List.length_append, List.length_singleton]

/-- More text in front of a sentence belongs to the old name. -/
lemma ReadsDeprecated.append_left {cs old new front : List Char} (h : ReadsDeprecated cs old new)
    (hfront : '\n' ∉ front) : ReadsDeprecated (front ++ cs) (front ++ old) new := by
  obtain ⟨stop, hnewline, hcs⟩ := h
  have hsentence : deprecationSentence (front ++ old) new stop =
      front ++ deprecationSentence old new stop := List.append_assoc ..
  rw [ReadsDeprecated]
  refine ⟨stop, ?_, ?_⟩
  · rw [hsentence, List.mem_append, not_or]
    exact ⟨hfront, hnewline⟩
  · rw [hsentence, List.append_assoc]
    exact hcs.imp (congrArg (front ++ ·)) (congrArg (front ++ ·))

lemma readsDeprecated_of_toNewline {cs old new : List Char} {stop : Char}
    (hlen : cs.length ≤ (toNewline cs).length + 1)
    (h : toNewline cs = deprecationSentence old new stop) : ReadsDeprecated cs old new := by
  have hnewline := newline_not_mem_toNewline cs
  rw [h] at hnewline hlen
  refine ⟨stop, hnewline, ?_⟩
  rcases toNewline_cases cs with hcs | ⟨rest, hcs⟩
  · exact Or.inl (hcs.trans h)
  · right
    rw [h] at hcs
    rw [hcs, List.length_append, List.length_cons] at hlen
    have hrest : rest = [] := List.eq_nil_of_length_eq_zero (by omega)
    rw [hcs, hrest]

/-! ## The names that are read -/

lemma deprecated?_eq (cs : List Char) :
    deprecated? cs =
      if cs.length ≤ (toNewline cs).length + 1 then
        (Text.splitAtFirst? deprecationPhrase (toNewline cs)).bind fun (old, more) =>
          if !more.isEmpty && deprecationEnding.isSuffixOf more.dropLast then
            some (old, more.dropLast.take (more.dropLast.length - deprecationEnding.length))
          else none
      else none := by
  unfold deprecated?
  by_cases hlen : cs.length ≤ (toNewline cs).length + 1
  · rw [if_pos hlen, if_neg (by omega)]
    rfl
  · rw [if_neg hlen, if_pos (by omega)]
    rfl

lemma namesDeprecated_of_deprecated? {cs old new : List Char}
    (h : deprecated? cs = some (old, new)) : NamesDeprecated cs old new := by
  rw [deprecated?_eq] at h
  split at h
  · rename_i hlen
    obtain ⟨⟨old', more⟩, hfound, h⟩ := Option.bind_eq_some_iff.mp h
    obtain ⟨hbody, hfirst⟩ := Text.eq_append_of_splitAtFirst? hfound
    dsimp only at h
    split at h
    · rename_i hmore
      cases h
      rw [Bool.and_eq_true, Bool.not_eq_true', List.isSuffixOf_iff_suffix] at hmore
      obtain ⟨hne, new, hnew⟩ := hmore
      have hne : more ≠ [] := by
        rintro rfl
        cases hne
      have hmore : more = new ++ deprecationEnding ++ [more.getLast hne] := by
        rw [hnew, List.dropLast_concat_getLast hne]
      have htake : more.dropLast.take (more.dropLast.length - deprecationEnding.length) = new := by
        rw [← hnew, List.length_append, Nat.add_sub_cancel, List.take_left]
      rw [htake]
      have hsentence : toNewline cs = deprecationSentence old new (more.getLast hne) := by
        rw [hbody, deprecationSentence, ← hmore]
      refine ⟨readsDeprecated_of_toNewline hlen hsentence, fun other new' hreads => ?_⟩
      obtain ⟨stop, hstop⟩ := hreads.toNewline_eq
      exact hfirst other _ hstop
    · cases h
  · cases h

/-- The names are read where the text is cut at the phrase between them. -/
lemma deprecated?_of_splitAtFirst? {cs old new : List Char} {stop : Char}
    (hlen : cs.length ≤ (toNewline cs).length + 1)
    (hfound : Text.splitAtFirst? deprecationPhrase (toNewline cs) =
      some (old, new ++ deprecationEnding ++ [stop])) :
    deprecated? cs = some (old, new) := by
  have hdrop : (new ++ deprecationEnding ++ [stop]).dropLast = new ++ deprecationEnding :=
    List.dropLast_concat
  have hsuffix : deprecationEnding.isSuffixOf (new ++ deprecationEnding) = true :=
    List.isSuffixOf_iff_suffix.mpr (List.suffix_append _ _)
  have htake : (new ++ deprecationEnding).take
      ((new ++ deprecationEnding).length - deprecationEnding.length) = new := by
    rw [List.length_append, Nat.add_sub_cancel, List.take_left]
  have hne : (new ++ deprecationEnding ++ [stop]).isEmpty = false :=
    List.isEmpty_eq_false_iff.mpr (List.append_ne_nil_of_right_ne_nil _ (List.cons_ne_nil stop []))
  rw [deprecated?_eq, if_pos hlen, hfound, Option.bind_some]
  simp only [hdrop, hsuffix, htake, hne, Bool.not_false, Bool.and_self, if_true]

/-- What comes after an earlier phrase ends like what comes after a later one. -/
lemma deprecationSentence_suffix {first more old new : List Char} {stop : Char}
    (h : first ++ (deprecationPhrase ++ more) = deprecationSentence old new stop)
    (hle : first.length ≤ old.length) : new ++ deprecationEnding ++ [stop] <:+ more := by
  have hnew : new ++ deprecationEnding ++ [stop] <:+ deprecationSentence old new stop := by
    rw [deprecationSentence, ← List.append_assoc]
    exact List.suffix_append _ _
  have hmore : more <:+ deprecationSentence old new stop := by
    rw [← h, ← List.append_assoc]
    exact List.suffix_append _ _
  have hlen := congrArg List.length h
  refine List.suffix_of_suffix_length_le hnew hmore ?_
  simp only [deprecationSentence, List.length_append] at hlen ⊢
  omega

lemma deprecated?_of_namesDeprecated {cs old new : List Char} (h : NamesDeprecated cs old new) :
    deprecated? cs = some (old, new) := by
  obtain ⟨stop, hbody⟩ := h.reads.toNewline_eq
  obtain ⟨⟨first, more⟩, hfound⟩ :=
    Option.ne_none_iff_exists'.mp (Text.splitAtFirst?_ne_none hbody)
  obtain ⟨hsplit, hfirst⟩ := Text.eq_append_of_splitAtFirst? hfound
  have hle := hfirst old _ hbody
  obtain ⟨extra, rfl⟩ := deprecationSentence_suffix (hsplit.symm.trans hbody) hle
  -- From the first phrase on the text reads like a deprecation too, so that the shortest old name
  -- ends there.
  have hsentence : toNewline cs = deprecationSentence first (extra ++ new) stop := by
    rw [hsplit, deprecationSentence]
    simp only [List.append_assoc]
  have hreads : ReadsDeprecated cs first (extra ++ new) :=
    readsDeprecated_of_toNewline h.reads.length_le hsentence
  have hlen : first.length = old.length := Nat.le_antisymm hle (h.shortest first _ hreads)
  obtain ⟨rfl, hrest⟩ := List.append_inj (hsplit.symm.trans hbody) hlen
  rw [List.append_cancel_left hrest] at hfound
  exact deprecated?_of_splitAtFirst? h.reads.length_le hfound

/-- Which names are read in a text. -/
theorem deprecated?_eq_some_iff {cs old new : List Char} :
    deprecated? cs = some (old, new) ↔ NamesDeprecated cs old new :=
  ⟨namesDeprecated_of_deprecated?, deprecated?_of_namesDeprecated⟩

lemma NamesDeprecated.unique {cs old new old' new' : List Char} (h : NamesDeprecated cs old new)
    (h' : NamesDeprecated cs old' new') : old = old' ∧ new = new' := by
  have heq := (deprecated?_eq_some_iff.mpr h).symm.trans (deprecated?_eq_some_iff.mpr h')
  cases heq
  exact ⟨rfl, rfl⟩

/-- A text that reads like a deprecation in some way has names. -/
lemma ReadsDeprecated.exists_names {cs old new : List Char} (h : ReadsDeprecated cs old new) :
    ∃ old new, NamesDeprecated cs old new := by
  classical
  have hex : ∃ n old new, ReadsDeprecated cs old new ∧ old.length = n := ⟨_, old, new, h, rfl⟩
  obtain ⟨old, new, hreads, hlen⟩ := Nat.find_spec hex
  refine ⟨old, new, hreads, fun old' new' hreads' => ?_⟩
  rw [hlen]
  exact Nat.find_min' hex ⟨old', new', hreads', rfl⟩

end DubCheck.Issue
