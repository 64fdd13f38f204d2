import DubCheck.Proofs.Failure
import DubCheck.Sdl.Tag
/-!
# Reading on in a tag document

`resume` reads what is left of a tag document, given the blocks that are open and the part of the
current statement that has been read.  Each lemma here says what one lexeme at the head of the text
does: the end of a statement gives a tag, a brace opens or closes a block, and everything else
becomes a part of the statement.
-/

namespace DubCheck.Sdl

/-- The tags in what is left of a text.  `opened` are the names of the blocks that are open, the
innermost first, and `statement` is what has been read of the current statement, backwards. -/
def resume (opened : List String) (statement : List Lexeme) (line : Nat) (text : List Char) :
    Except Fault (List Tag) :=
  tagsFrom (lexemes line text).2 opened statement (lexemes line text).1

lemma readTags_eq_resume (text : List Char) : readTags text = resume [] [] 1 text := rfl

variable {opened : List String} {statement : List Lexeme} {line : Nat} {c : Char}
  {cs rest : List Char}

/-! ## The head of a text -/

lemma lexemes_of_gap {more : Nat} (h : scan c cs = .gap more) :
    lexemes line (c :: cs) =
      lexemes (line + (c :: cs.take more).count '\n') (cs.drop more) := by
  rw [lexemes, h]

lemma lexemes_of_lexeme {kind : Kind} {more : Nat} (h : scan c cs = .lexeme kind more) :
    lexemes line (c :: cs) =
      (⟨kind, c :: cs.take more, line⟩ ::
          (lexemes (line + (c :: cs.take more).count '\n') (cs.drop more)).1,
        (lexemes (line + (c :: cs.take more).count '\n') (cs.drop more)).2) := by
  rw [lexemes, h]

lemma scan_space (hc : isSpace c = true) (cs : List Char) :
    scan c cs = .gap (cs.takeWhile isSpace).length := by
  unfold isSpace at hc
  simp only [Bool.or_eq_true, beq_iff_eq] at hc
  rcases hc with ((rfl | rfl) | rfl) | rfl <;> rfl

/-- A run of blanks is dropped, however much of it is looked at. -/
lemma lexemes_space (hc : isSpace c = true) : lexemes line (c :: cs) = lexemes line cs := by
  have hline : ∀ {d : Char} (ds : List Char), isSpace d = true →
      (d :: ds.take (ds.takeWhile isSpace).length).count '\n' = 0 := by
    intro d ds hd
    rw [← List.prefix_iff_eq_take.mp (List.takeWhile_prefix isSpace), List.count_eq_zero]
    intro hmem
    rcases List.mem_cons.mp hmem with rfl | hmem
    · cases hd
    · cases List.mem_takeWhile_imp hmem
  rw [lexemes_of_gap (scan_space hc cs), hline cs hc, Nat.add_zero]
  cases cs with
  | nil => rfl
  | cons d ds =>
    cases hd : isSpace d with
    | false =>
      rw [List.takeWhile_cons_of_neg (by simp [hd])]
      rfl
    | true =>
      rw [List.takeWhile_cons_of_pos hd, lexemes_of_gap (scan_space hd ds), hline ds hd,
        Nat.add_zero]
      rfl

/-- What is taken from a list ends where something else begins. -/
lemma takeWhile_append_of_head {α : Type} {p : α → Bool} {xs ys : List α}
    (hxs : ∀ x ∈ xs, p x = true) (hys : ∀ y ∈ ys.head?, p y = false) :
    (xs ++ ys).takeWhile p = xs := by
  have hnone : ys.takeWhile p = [] := by
    cases ys with
    | nil => rfl
    | cons y ys => exact List.takeWhile_cons_of_neg (by simp [hys y rfl])
  rw [List.takeWhile_append_of_pos hxs, hnone, List.append_nil]

lemma isSpace_of_isWordChar (hc : isWordChar c = true) : isSpace c = false := by
  cases hs : isSpace c with
  | false => rfl
  | true =>
    unfold isSpace at hs
    simp only [Bool.or_eq_true, beq_iff_eq] at hs
    rcases hs with ((rfl | rfl) | rfl) | rfl <;> cases hc

/-- A character of a word that follows within the text is one of the word itself. -/
lemma exists_word_eq_cons (hrest : ∀ d ∈ rest.head?, isWordChar d = false) {d : Char}
    {ds : List Char} (heq : cs ++ rest = d :: ds) (hd : isWordChar d = true) :
    ∃ es, cs = d :: es := by
  cases cs with
  | nil =>
    rw [List.nil_append] at heq
    rw [hrest d (by rw [heq]; rfl)] at hd
    cases hd
  | cons e es =>
    cases heq
    exact ⟨es, rfl⟩

/-- What a comment begins with, and the backslash at the end of a line. -/
def gapStarts : List String :=
  ["//", "--", "#", "/*", "\\\n", "\\\r\n"]

/-- A word goes on until a character that cannot belong to it. -/
lemma scan_of_word (hc : isWordChar c = true) (hcs : ∀ d ∈ cs, isWordChar d = true)
    (hgap : ∀ start ∈ gapStarts, ¬ start.toList <+: c :: (cs ++ rest))
    (hrest : ∀ d ∈ rest.head?, isWordChar d = false) :
    scan c (cs ++ rest) = .lexeme .word cs.length := by
  have hmark : ∀ start ∈ gapStarts, ∀ ds, c :: (cs ++ rest) = start.toList ++ ds → False := by
    intro start hmem ds heq
    exact hgap start hmem ⟨ds, heq.symm⟩
  have hne : ∀ d : Char, isWordChar d = false → c ≠ d := by
    rintro d hd rfl
    rw [hc] at hd
    cases hd
  have hword : scanMark c (cs ++ rest) = .lexeme .word cs.length := by
    unfold scanMark
    simp [hne '\n' (by decide), hne ';' (by decide), hne '{' (by decide), hne '}' (by decide),
      hne '=' (by decide), hc, takeWhile_append_of_head hcs hrest]
  generalize cs ++ rest = ds at hmark hword ⊢
  unfold scan
  split
  · exact (hmark "\\\n" (by decide) _ rfl).elim
  · exact (hmark "\\\r\n" (by decide) _ rfl).elim
  · exact (hmark "//" (by decide) _ rfl).elim
  · exact (hmark "--" (by decide) _ rfl).elim
  · exact (hmark "#" (by decide) _ rfl).elim
  · exact (hmark "/*" (by decide) _ rfl).elim
  · cases hc
  · cases hc
  · rw [isSpace_of_isWordChar hc, hword]
    rfl

/-- A word that neither begins like a comment nor with a backslash is a word before all that may
follow it. -/
lemma scan_word (hc : isWordChar c = true) (hcs : ∀ d ∈ cs, isWordChar d = true)
    (hcomment : ∀ start ∈ ["//", "--", "#", "/*", "\\"], ¬ start.toList <+: c :: cs)
    (hrest : ∀ d ∈ rest.head?, isWordChar d = false) :
    scan c (cs ++ rest) = .lexeme .word cs.length := by
  have hmark : ∀ start ∈ ["//", "--", "#", "/*", "\\"], ∀ ds, c :: cs = start.toList ++ ds →
      False := by
    intro start hmem ds heq
    exact hcomment start hmem ⟨ds, heq.symm⟩
  refine scan_of_word hc hcs ?_ hrest
  -- The second character of a comment mark would belong to the word.
  rintro start hstart ⟨ds, heq⟩
  simp only [gapStarts, List.mem_cons, List.not_mem_nil, or_false] at hstart
  rcases hstart with rfl | rfl | rfl | rfl | rfl | rfl <;> injection heq with hfirst heq <;>
    subst hfirst
  · obtain ⟨es, rfl⟩ := exists_word_eq_cons hrest heq.symm (by decide)
    exact hmark "//" (by decide) _ rfl
  · obtain ⟨es, rfl⟩ := exists_word_eq_cons hrest heq.symm (by decide)
    exact hmark "--" (by decide) _ rfl
  · exact hmark "#" (by decide) _ rfl
  · obtain ⟨es, rfl⟩ := exists_word_eq_cons hrest heq.symm (by decide)
    exact hmark "/*" (by decide) _ rfl
  · exact hmark "\\" (by decide) _ rfl
  · exact hmark "\\" (by decide) _ rfl

/-! ## One lexeme after another -/

lemma map_append_map (a b : List Tag) (r : Except Fault (List Tag)) :
    (r.map (b ++ ·)).map (a ++ ·) = r.map (a ++ b ++ ·) := by
  cases r <;> simp [Except.map]

section Steps

variable (fault : Option Fault) (opened : List String) (statement ls : List Lexeme) {l : Lexeme}

lemma tagsFrom_ending (hl : l.kind = .ending) :
    tagsFrom fault opened statement (l :: ls) =
      (tagsFrom fault opened [] ls).map
        ((Tag.ofStatement? opened statement.reverse).toList ++ ·) := by
  rw [tagsFrom, hl]
  rfl

lemma tagsFrom_opening (hl : l.kind = .opening) :
    tagsFrom fault opened statement (l :: ls) =
      (tagsFrom fault
          (((Tag.ofStatement? opened statement.reverse).map (·.name)).getD "" :: opened) [] ls).map
        ((Tag.ofStatement? opened statement.reverse).toList ++ ·) := by
  rw [tagsFrom, hl]
  rfl

lemma tagsFrom_closing (hl : l.kind = .closing) {name : String} :
    tagsFrom fault (name :: opened) statement (l :: ls) =
      (tagsFrom fault opened [] ls).map
        ((Tag.ofStatement? (name :: opened) statement.reverse).toList ++ ·) := by
  rw [tagsFrom, hl]
  rfl

lemma tagsFrom_unopened (hl : l.kind = .closing) :
    tagsFrom fault [] statement (l :: ls) = .error (.unopened l.line) := by
  rw [tagsFrom, hl]
  rfl

lemma tagsFrom_part (hl : l.kind ≠ .ending ∧ l.kind ≠ .opening ∧ l.kind ≠ .closing) :
    tagsFrom fault opened statement (l :: ls) = tagsFrom fault opened (l :: statement) ls := by
  obtain ⟨hending, hopening, hclosing⟩ := hl
  rw [tagsFrom]
  cases hkind : l.kind <;> first | rfl | contradiction

end Steps

/-! ## One lexeme at the head of the text -/

section Resume

variable (opened statement line)

lemma resume_nil : resume [] [] line [] = .ok [] := by
  unfold resume
  rw [lexemes]
  rfl

lemma resume_space (hc : isSpace c = true) :
    resume opened statement line (c :: cs) = resume opened statement line cs := by
  unfold resume
  rw [lexemes_space hc]

/-- A newline or a semicolon ends the statement. -/
lemma resume_ending (hc : c = '\n' ∨ c = ';') (cs : List Char) :
    ∃ line', resume opened statement line (c :: cs) =
      (resume opened [] line' cs).map
        ((Tag.ofStatement? opened statement.reverse).toList ++ ·) := by
  have hscan : scan c cs = .lexeme .ending 0 := by
    rcases hc with rfl | rfl <;> rfl
  refine ⟨line + (c :: cs.take 0).count '\n', ?_⟩
  unfold resume
  rw [lexemes_of_lexeme hscan, tagsFrom_ending _ _ _ _ rfl, List.drop_zero]

/-- An opening brace ends the statement too, and what follows stands in its block. -/
lemma resume_opening :
    resume opened statement line ('{' :: cs) =
      (resume (((Tag.ofStatement? opened statement.reverse).map (·.name)).getD "" :: opened) []
          line cs).map ((Tag.ofStatement? opened statement.reverse).toList ++ ·) := by
  have hscan : scan '{' cs = .lexeme .opening 0 := rfl
  unfold resume
  rw [lexemes_of_lexeme hscan, tagsFrom_opening _ _ _ _ rfl, List.drop_zero]
  rfl

/-- An ending adds nothing where no statement has begun. -/
lemma resume_gap (hc : c = '\n' ∨ c = ';') (cs : List Char) :
    ∃ line', resume opened [] line (c :: cs) = resume opened [] line' cs := by
  obtain ⟨line', h⟩ := resume_ending opened [] line hc cs
  refine ⟨line', h.trans ?_⟩
  cases resume opened [] line' cs <;> rfl

/-- A closing brace ends the innermost block that is open. -/
lemma resume_closing {name : String} :
    resume (name :: opened) [] line ('}' :: cs) = resume opened [] line cs := by
  have hscan : scan '}' cs = .lexeme .closing 0 := rfl
  have h : resume (name :: opened) [] line ('}' :: cs) =
      (resume opened [] line cs).map ([] ++ ·) := by
    unfold resume
    rw [lexemes_of_lexeme hscan, tagsFrom_closing _ _ _ _ rfl, List.drop_zero]
    rfl
  rw [h]
  cases resume opened [] line cs <;> rfl

/-- Any other lexeme becomes a part of the statement. -/
lemma resume_part {kind : Kind} (hscan : scan c (cs ++ rest) = .lexeme kind cs.length)
    (hkind : kind ≠ .ending ∧ kind ≠ .opening ∧ kind ≠ .closing) :
    ∃ line', resume opened statement line (c :: cs ++ rest) =
      resume opened (⟨kind, c :: cs, line⟩ :: statement) line' rest := by
  refine ⟨line + (c :: cs).count '\n', ?_⟩
  unfold resume
  rw [List.cons_append, lexemes_of_lexeme hscan, List.take_left, List.drop_left,
    tagsFrom_part _ _ _ _ hkind]

end Resume

end DubCheck.Sdl
