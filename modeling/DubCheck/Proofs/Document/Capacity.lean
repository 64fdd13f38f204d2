import DubCheck.Proofs.Failure
/-!
# What the reader of documents copes with

A text that holds no document is malformed.  Besides this there are two things that the reader does
not cope with, whatever follows them: integers with too many digits, and containers that are nested
too deep.

* `not_overtaxes_of_manageable`: a text whose runs of digits are short enough and in which few
  containers are opened does not overtax the reader.
* `overtaxes_of_brackets`, `overtaxes_of_digits`: neither bound can be raised.
-/

namespace DubCheck.Document

open Text (maxDigits)

/-- The reader does not cope with a text. -/
def Overtaxes (text : List Char) : Prop :=
  (∃ e, read text = .error (.numeral e)) ∨ ∃ container, read text = .error (.tooDeep container)

/-- Reading fails as it should, as long as the reader copes with the text. -/
lemma lawful_read_iff {ε : Type} (wrap : ε → Failure) (good : Document → Prop)
    (hnumeral : ∀ e n, Failure.numeral n ≠ wrap e) (hdeep : ∀ e c, Failure.tooDeep c ≠ wrap e)
    (text : List Char) (cause : Malformed → ε) :
    Lawful wrap good ((read text).mapError (Failure.ofReading text fun m => wrap (cause m))) ↔
      ¬ Overtaxes text ∧ ∀ d, read text = .ok d → good d := by
  rw [Overtaxes]
  rcases read text with (⟨what, left⟩ | n | container) | d
  · refine iff_of_true (lawful_error_iff.mpr ⟨_, rfl⟩) ⟨?_, by rintro d ⟨⟩⟩
    rintro (⟨n, hn⟩ | ⟨container, hcontainer⟩)
    · cases hn
    · cases hcontainer
  · refine iff_of_false ?_ fun h => h.1 (Or.inl ⟨n, rfl⟩)
    intro h
    obtain ⟨e, he⟩ := lawful_error_iff.mp h
    exact hnumeral e n he
  · refine iff_of_false ?_ fun h => h.1 (Or.inr ⟨container, rfl⟩)
    intro h
    obtain ⟨e, he⟩ := lawful_error_iff.mp h
    exact hdeep e container he
  · refine lawful_ok_iff.trans ⟨fun hd => ⟨?_, ?_⟩, fun h => h.2 d rfl⟩
    · rintro (⟨n, hn⟩ | ⟨container, hcontainer⟩)
      · cases hn
      · cases hcontainer
    · rintro d ⟨⟩
      exact hd

/-- A bracket or a brace that opens a container. -/
def opens (c : Char) : Bool :=
  c == '[' || c == '{'

/-- The runs of digits are short enough to be read, and at most `n` containers are opened. -/
structure Manageable (n : Nat) (text : List Char) : Prop where
  numerals : ∀ ds, ds <:+: text → (∀ d ∈ ds, d.isDigit = true) → ds.length ≤ maxDigits
  nesting : text.countP opens ≤ n

section

variable {α β : Type} {n : Nat} {cs rest : List Char}

lemma Manageable.suffix (h : Manageable n cs) (hrest : rest <:+ cs) : Manageable n rest where
  numerals ds hds := h.numerals ds (hds.trans hrest.isInfix)
  nesting := (hrest.sublist.countP_le).trans h.nesting

/-- A reader copes with a text: it leaves an end of the text, or the text is malformed. -/
def Copes (cs : List Char) (r : Except Fault (α × List Char)) : Prop :=
  (∃ a rest, r = .ok (a, rest) ∧ rest <:+ cs) ∨ ∃ what left, r = .error (.malformed what left)

namespace Copes

lemma ok {a : α} (h : rest <:+ cs) : Copes cs (.ok (a, rest)) :=
  Or.inl ⟨a, rest, rfl, h⟩

lemma malformed (what : Expectation) (left : Nat) :
    Copes cs (.error (.malformed what left) : Except Fault (α × List Char)) :=
  Or.inr ⟨what, left, rfl⟩

lemma mono {r : Except Fault (α × List Char)} (h : Copes rest r) (hrest : rest <:+ cs) :
    Copes cs r := by
  rcases h with ⟨a, left, rfl, hleft⟩ | ⟨what, left, rfl⟩
  · exact ok (hleft.trans hrest)
  · exact malformed what left

lemma bind {r : Except Fault (α × List Char)} {f : α × List Char → Except Fault (β × List Char)}
    (hr : Copes cs r) (hf : ∀ a rest, rest <:+ cs → Copes cs (f (a, rest))) :
    Copes cs (r >>= f) := by
  rcases hr with ⟨a, rest, rfl, hrest⟩ | ⟨what, left, rfl⟩
  · exact hf a rest hrest
  · exact malformed what left

end Copes

/-! ## Texts -/

lemma readUnit_cases (cs : List Char) :
    (∃ c used, readUnit cs = .ok (c, used)) ∨
      ∃ what left, readUnit cs = .error (.malformed what left) := by
  rw [readUnit]
  split
  · dsimp only
    split_ifs
    · exact Or.inr ⟨_, _, rfl⟩
    · split
      · split_ifs
        · exact Or.inl ⟨_, _, rfl⟩
        · exact Or.inl ⟨_, _, rfl⟩
      · exact Or.inr ⟨_, _, rfl⟩
    · exact Or.inl ⟨_, _, rfl⟩
  · exact Or.inr ⟨_, _, rfl⟩

/-- A quoted text is read or malformed, whatever it holds. -/
lemma copes_readText (start : List Char) (skip : Nat) (cs : List Char) :
    Copes cs (readText start skip cs) := by
  -- By the cases of the reader; only escapes by a code unit are read ahead.
  induction skip, cs using readText.induct with
  | case1 skip =>
    rw [readText]
    exact Copes.malformed _ _
  | case2 skip c cs ih =>
    rw [readText]
    exact ih.mono (List.suffix_cons c cs)
  | case3 cs =>
    rw [readText]
    exact Copes.ok (List.suffix_cons _ cs)
  | case4 cs ih =>
    rw [readText]
    rcases readUnit_cases cs with ⟨c, used, h⟩ | ⟨what, left, h⟩
    · rw [h]
      exact (ih used).mono (List.suffix_cons _ _) |>.bind fun _ _ hrest => Copes.ok hrest
    · rw [h]
      exact Copes.malformed what left
  | case5 e cs hne c hescape ih =>
    rw [readText.eq_5 _ _ _ hne]
    simp only [hescape]
    exact ih.mono (List.suffix_cons _ _) |>.bind fun _ _ hrest => Copes.ok hrest
  | case6 e cs hne hescape =>
    rw [readText.eq_5 _ _ _ hne]
    simp only [hescape]
    exact Copes.malformed _ _
  | case7 =>
    rw [readText]
    exact Copes.malformed _ _
  | case8 c cs hquote hunit hescape hend hcontrol =>
    rw [readText.eq_7 _ _ _ hquote hunit hescape hend, if_pos hcontrol]
    exact Copes.malformed _ _
  | case9 c cs hquote hunit hescape hend hcontrol ih =>
    rw [readText.eq_7 _ _ _ hquote hunit hescape hend, if_neg hcontrol]
    exact ih.mono (List.suffix_cons _ _) |>.bind fun _ _ hrest => Copes.ok hrest

lemma copes_readQuoted (cs : List Char) : Copes cs (readQuoted cs) :=
  (copes_readText cs 0 cs).bind fun _ _ hrest => Copes.ok hrest

/-! ## Numbers -/

lemma suffix_of_spanDigits {ds : List Char} (h : spanDigits cs = (ds, rest)) : rest <:+ cs := by
  rw [spanDigits, Prod.mk.injEq] at h
  rw [← h.2]
  exact List.dropWhile_suffix _

lemma readFraction_suffix {places : List Char} (h : readFraction cs = some (places, rest)) :
    rest <:+ cs := by
  unfold readFraction at h
  split at h
  · split_ifs at h
    cases h
    exact (List.dropWhile_suffix _).trans (List.suffix_cons _ _)
  · cases h

lemma readExponent_suffix {power : Int} (h : readExponent cs = some (power, rest)) :
    rest <:+ cs := by
  unfold readExponent at h
  dsimp only at h
  split at h
  · split_ifs at h
    split at h
    -- The digits come after a sign, which may be left out.
    all_goals
      obtain ⟨⟨n, left⟩, hn, heq⟩ := Option.map_eq_some_iff.mp h
      cases heq
      split at hn
      · cases hn
      rename_i hspan
      cases hn
    · exact (suffix_of_spanDigits hspan).trans ((List.suffix_cons _ _).trans (List.suffix_cons _ _))
    · exact (suffix_of_spanDigits hspan).trans ((List.suffix_cons _ _).trans (List.suffix_cons _ _))
    · exact (suffix_of_spanDigits hspan).trans (List.suffix_cons _ _)
  · cases h

/-- The whole part of a number is a run of digits. -/
lemma readWhole_eq_some {whole : List Char} (h : readWhole cs = some (whole, rest)) :
    cs = whole ++ rest ∧ ∀ d ∈ whole, d.isDigit = true := by
  unfold readWhole at h
  split at h
  · cases h
    exact ⟨rfl, by simp⟩
  · split_ifs at h
    cases h
    exact ⟨List.takeWhile_append_dropWhile.symm, fun d hd => List.mem_takeWhile_imp hd⟩
  · cases h

lemma copes_readMagnitude (start : List Char) (negative : Bool) (h : Manageable n cs) :
    Copes cs (readMagnitude start negative cs) := by
  rw [readMagnitude]
  cases hwhole : readWhole cs with
  | none => exact Copes.malformed _ _
  | some found =>
    obtain ⟨whole, rest⟩ := found
    obtain ⟨rfl, hdigits⟩ := readWhole_eq_some hwhole
    have hlength : whole.length ≤ maxDigits :=
      h.numerals whole (List.infix_append' [] whole rest) hdigits
    have hsuffix : rest <:+ whole ++ rest := List.suffix_append whole rest
    have hplaces : ((readFraction rest).getD ([], rest)).2 <:+ rest := by
      cases h : readFraction rest with
      | none => exact List.suffix_rfl
      | some found => exact readFraction_suffix h
    dsimp only
    generalize (readFraction rest).getD ([], rest) = fraction at hplaces ⊢
    obtain ⟨places, rest'⟩ := fraction
    have hpower : ((readExponent rest').getD (0, rest')).2 <:+ rest' := by
      cases h : readExponent rest' with
      | none => exact List.suffix_rfl
      | some found => exact readExponent_suffix h
    dsimp only
    rw [Text.readNumeral, if_pos hlength]
    split_ifs
    · exact Copes.ok (hplaces.trans hsuffix)
    · exact Copes.ok (hplaces.trans hsuffix)
    · exact Copes.ok (hpower.trans (hplaces.trans hsuffix))

/-! ## Values -/

lemma copes_readScalar (h : Manageable n cs) : Copes cs (readScalar cs) := by
  unfold readScalar
  split
  · rename_i found hfound
    obtain ⟨⟨word, d⟩, -, hword⟩ := List.exists_of_findSome?_eq_some hfound
    obtain ⟨left, hleft, rfl⟩ := Option.map_eq_some_iff.mp hword
    rw [afterWord] at hleft
    split_ifs at hleft
    cases hleft
    exact Copes.ok (List.drop_suffix _ _)
  · split
    · exact (copes_readMagnitude _ true (h.suffix (List.suffix_cons _ _))).mono
        (List.suffix_cons _ _)
    · exact copes_readMagnitude cs false h

lemma skipBlanks_suffix (cs : List Char) : skipBlanks cs <:+ cs :=
  List.dropWhile_suffix _

lemma suffix_of_skipBlanks {c : Char} (h : skipBlanks cs = c :: rest) : rest <:+ cs := by
  have hsuffix := skipBlanks_suffix cs
  rw [h] at hsuffix
  exact (List.suffix_cons c rest).trans hsuffix

lemma copes_readItems {item : List Char → Except Fault (Document × List Char)} (fuel : Nat)
    (hitem : ∀ rest, rest <:+ cs → Copes rest (item rest)) :
    Copes cs (readItems item fuel cs) := by
  induction fuel, cs using readItems.induct with
  | case1 cs =>
    rw [readItems]
    exact Copes.malformed _ _
  | case2 fuel cs ih =>
    rw [readItems]
    refine (hitem cs List.suffix_rfl).bind fun d rest hrest => ?_
    dsimp only
    split
    · rename_i more heq
      exact Copes.ok ((suffix_of_skipBlanks heq).trans hrest)
    · rename_i more heq
      have hmore := (skipBlanks_suffix more).trans ((suffix_of_skipBlanks heq).trans hrest)
      refine ((ih more fun rest hrest => hitem rest (hrest.trans hmore)).mono hmore).bind ?_
      exact fun _ _ hleft => Copes.ok hleft
    · exact Copes.malformed _ _

lemma copes_readMembers {item : List Char → Except Fault (Document × List Char)} (fuel : Nat)
    (found : List (String × Document)) (hitem : ∀ rest, rest <:+ cs → Copes rest (item rest)) :
    Copes cs (readMembers item fuel found cs) := by
  induction fuel generalizing found cs with
  | zero =>
    rw [readMembers]
    exact Copes.malformed _ _
  | succ fuel ih =>
    unfold readMembers
    dsimp only
    split
    · refine ((copes_readQuoted _).mono (List.suffix_cons _ _)).bind fun key rest hrest => ?_
      dsimp only
      split
      · rename_i more heq
        have hmore := (skipBlanks_suffix more).trans ((suffix_of_skipBlanks heq).trans hrest)
        refine ((hitem _ hmore).mono hmore).bind fun d rest hrest => ?_
        dsimp only
        split
        · rename_i more heq
          exact Copes.ok ((suffix_of_skipBlanks heq).trans hrest)
        · rename_i more heq
          have hmore := (skipBlanks_suffix more).trans ((suffix_of_skipBlanks heq).trans hrest)
          exact (ih _ fun rest hrest => hitem rest (hrest.trans hmore)).mono hmore
        · exact Copes.malformed _ _
      · exact Copes.malformed _ _
    · exact Copes.malformed _ _

/-- Each container takes one of the brackets, and what is in it has the others. -/
lemma Manageable.of_cons {c : Char} (hc : opens c = true) (h : Manageable (n + 1) (c :: rest)) :
    Manageable n rest where
  numerals := (h.suffix (List.suffix_cons c rest)).numerals
  nesting := by
    have hnesting := h.nesting
    rw [List.countP_cons, if_pos hc] at hnesting
    omega

lemma Manageable.not_opens {c : Char} (h : Manageable 0 (c :: rest)) : opens c = false := by
  have hnesting := h.nesting
  rw [List.countP_cons] at hnesting
  split_ifs at hnesting with hc
  · omega
  · simpa using hc

/-- The induction is on how many containers may be opened. -/
lemma copes_readValue (size : Nat) (h : Manageable n cs) : Copes cs (readValue size n cs) := by
  induction n generalizing cs with
  | zero =>
    unfold readValue
    split
    · exact ((copes_readQuoted _).mono (List.suffix_cons _ _)).bind fun _ _ hrest => Copes.ok hrest
    · cases h.not_opens
    · cases h.not_opens
    · contradiction
    · contradiction
    · exact copes_readScalar h
  | succ n ih =>
    unfold readValue
    split
    · exact ((copes_readQuoted _).mono (List.suffix_cons _ _)).bind fun _ _ hrest => Copes.ok hrest
    · contradiction
    · contradiction
    · rename_i depth rest heq
      cases heq
      have hinner : Manageable n rest := h.of_cons rfl
      split
      · rename_i more heq
        exact Copes.ok ((suffix_of_skipBlanks heq).trans (List.suffix_cons _ _))
      · have hitems := copes_readItems size fun left hleft =>
          ih (hinner.suffix (hleft.trans (skipBlanks_suffix rest)))
        exact (hitems.mono ((skipBlanks_suffix rest).trans (List.suffix_cons _ _))).bind
          fun _ _ hrest => Copes.ok hrest
    · rename_i depth rest heq
      cases heq
      have hinner : Manageable n rest := h.of_cons rfl
      split
      · rename_i more heq
        exact Copes.ok ((suffix_of_skipBlanks heq).trans (List.suffix_cons _ _))
      · have hmembers := copes_readMembers size [] fun left hleft =>
          ih (hinner.suffix (hleft.trans (skipBlanks_suffix rest)))
        exact (hmembers.mono ((skipBlanks_suffix rest).trans (List.suffix_cons _ _))).bind
          fun _ _ hrest => Copes.ok hrest
    · exact copes_readScalar h

lemma read_of_manageable (h : Manageable maxNesting cs) :
    (∃ d, read cs = .ok d) ∨ ∃ what left, read cs = .error (.malformed what left) := by
  rw [read]
  split_ifs
  · exact Or.inr ⟨_, _, rfl⟩
  · rcases copes_readValue cs.length (h.suffix (skipBlanks_suffix cs)) with
      ⟨d, rest, hread, -⟩ | ⟨what, left, hread⟩
    · simp only [hread]
      dsimp only [bind, Except.bind]
      split
      · exact Or.inl ⟨d, rfl⟩
      · exact Or.inr ⟨_, _, rfl⟩
    · simp only [hread]
      exact Or.inr ⟨what, left, rfl⟩

/-- A text with short runs of digits and few brackets is read, or it is malformed. -/
theorem not_overtaxes_of_manageable (h : Manageable maxNesting cs) : ¬ Overtaxes cs := by
  rw [Overtaxes]
  rcases read_of_manageable h with ⟨d, hd⟩ | ⟨what, left, hd⟩
  all_goals
    rw [hd]
    rintro (⟨e, he⟩ | ⟨container, he⟩) <;> cases he

/-! ## The bounds -/

lemma readValue_brackets (size n : Nat) (hsize : size ≠ 0) (rest : List Char) :
    readValue size n (List.replicate (n + 1) '[' ++ rest) = .error (.tooDeep "array") := by
  obtain ⟨fuel, rfl⟩ := Nat.exists_eq_succ_of_ne_zero hsize
  induction n with
  | zero => rfl
  | succ n ih =>
    rw [List.replicate_succ, List.cons_append, readValue]
    have hblanks : skipBlanks (List.replicate (n + 1) '[' ++ rest) =
        List.replicate (n + 1) '[' ++ rest := rfl
    rw [hblanks]
    split
    · rename_i heq
      cases heq
    · rw [readItems, ih]
      rfl

/-- The fault of a value at the beginning of a text is that of the text. -/
lemma read_of_readValue {c : Char} {fault : Fault} (hblank : isBlank c = false)
    (hmark : c ≠ Char.ofNat 0xFEFF)
    (h : readValue (c :: cs).length maxNesting (c :: cs) = .error fault) :
    read (c :: cs) = .error fault := by
  have hhead : (c :: cs).head? ≠ some (Char.ofNat 0xFEFF) := by simpa using hmark
  have hblanks : skipBlanks (c :: cs) = c :: cs := by simp [skipBlanks, hblank]
  rw [read, if_neg hhead, hblanks, h]
  rfl

/-- Whatever follows too many brackets, the reader does not cope with it. -/
theorem overtaxes_of_brackets (rest : List Char) :
    Overtaxes (List.replicate (maxNesting + 1) '[' ++ rest) := by
  refine Or.inr ⟨"array", ?_⟩
  rw [List.replicate_succ, List.cons_append]
  exact read_of_readValue (by decide) (by decide)
    (readValue_brackets _ maxNesting (by simp) rest)

lemma ne_of_isDigit {c d : Char} (hd : d.isDigit = true) (hc : c.isDigit = false) : d ≠ c := by
  rintro rfl
  rw [hd] at hc
  cases hc

lemma readScalar_of_digit {d : Char} (hd : d.isDigit = true) (cs : List Char) :
    readScalar (d :: cs) = readMagnitude (d :: cs) false (d :: cs) := by
  have hne : ∀ c : Char, c.isDigit = false → c ≠ d := fun c hc => (ne_of_isDigit hd hc).symm
  unfold readScalar
  split
  · rename_i hfound
    simp [namedValues, afterWord, hne] at hfound
  · split
    · rename_i heq
      exact absurd (List.cons.inj heq).1 (ne_of_isDigit hd (by decide))
    · rfl

lemma readValue_of_digit {d : Char} (hd : d.isDigit = true) (size n : Nat) (cs : List Char) :
    readValue size n (d :: cs) = readMagnitude (d :: cs) false (d :: cs) := by
  have hquote : d ≠ '"' := ne_of_isDigit hd (by decide)
  have hbracket : d ≠ '[' := ne_of_isDigit hd (by decide)
  have hbrace : d ≠ '{' := ne_of_isDigit hd (by decide)
  rw [readValue, readScalar_of_digit hd]
  all_goals simp [hquote, hbracket, hbrace]

/-- The reader does not cope with an integer of too many digits. -/
theorem overtaxes_of_digits {ds : List Char} (hdigits : ∀ d ∈ ds, d.isDigit = true)
    (hlength : maxDigits < ds.length) (hhead : ds.head? ≠ some '0')
    (hrest : ∀ c ∈ rest.head?, c.isDigit = false ∧ c ∉ ['.', 'e', 'E']) :
    Overtaxes (ds ++ rest) := by
  have hspan : spanDigits (ds ++ rest) = (ds, rest) := by
    rw [spanDigits, List.takeWhile_append_of_pos hdigits, List.dropWhile_append_of_pos hdigits]
    cases rest with
    | nil => simp
    | cons c rest => simp [(hrest c rfl).1]
  -- With a fraction or an exponent it would not be an integer.
  have hfraction : readFraction rest = none := by
    unfold readFraction
    split
    · simp at hrest
    · rfl
  have hexponent : readExponent rest = none := by
    cases rest with
    | nil => rfl
    | cons c rest =>
      have hc := (hrest c rfl).2
      simp only [List.mem_cons, List.not_mem_nil, or_false, not_or] at hc
      simp [readExponent, hc.2.1, hc.2.2]
  cases ds with
  | nil => cases hlength
  | cons d ds =>
    have hd : d.isDigit = true := hdigits d List.mem_cons_self
    have hwhole : readWhole (d :: ds ++ rest) = some (d :: ds, rest) := by
      have hzero : d ≠ '0' := by simpa using hhead
      rw [List.cons_append] at hspan ⊢
      rw [readWhole.eq_2 _ _ (by simpa using hzero), if_pos hd, hspan]
    have hmagnitude : ∀ start, readMagnitude start false (d :: ds ++ rest) =
        .error (.numeral ⟨(d :: ds).length⟩) := by
      intro start
      simp only [readMagnitude, hwhole, hfraction, hexponent, Option.getD_none, Option.isNone_none,
        Bool.and_self, if_true, Text.readNumeral, if_neg (Nat.not_le_of_lt hlength)]
    refine Or.inl ⟨⟨(d :: ds).length⟩, read_of_readValue ?_ (ne_of_isDigit hd (by decide)) ?_⟩
    · simp [isBlank, ne_of_isDigit hd]
    · rw [readValue_of_digit hd]
      exact hmagnitude _

end

end DubCheck.Document
