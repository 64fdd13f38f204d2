import DubCheck.Proofs.Sdl.Acceptance
/-!
# Comments between chunks

Wherever a text is cut, a comment between two blanks can be put in, and the text is read as before.
The blank in front of the comment ends the chunk before it, unless that chunk goes on with it:
blanks go on with blanks, and a comment to the end of the line goes on with everything.  Either way
nothing is left of what has been put in, and all other chunks stand where they stood.

* `CutsAt`: the places at which a text is cut.
* `Stands.of_ne_nil`: a chunk that is followed by another one does not depend on what comes after
  that.
* `lexemes_insert`: the lexemes stay the same, and they stay in their lines.
* `readTags_insert_comment`: so do the tags, or what is found wrong.
-/

namespace DubCheck.Sdl

/-- A comment with its marks. -/
def blockComment (body : List Char) : List Char :=
  '/' :: '*' :: (body ++ ['*', '/'])

/-- A comment between two blanks. -/
def spacedComment (body : List Char) : List Char :=
  ' ' :: (blockComment body ++ [' '])

/-- A text is cut where `before` ends and `after` begins: some of its chunks, perhaps none, are the
text before. -/
def CutsAt (before after : List Char) : Prop :=
  ∃ front back left, Cut (before ++ after) (front ++ back) left ∧ textOf front = before

/-- A comment to the end of its line. -/
def IsLineComment (text : List Char) : Prop :=
  ∃ mark ∈ ["//", "--", "#"], ∃ body, '\n' ∉ body ∧ text = mark.toList ++ body

variable {kind? : Option Kind} {text rest tail body bs : List Char} {line : Nat}

/-! ## One chunk after another -/

lemma Cut.uncons {c : Chunk} {chunks : List Chunk} {left : List Char}
    (h : Cut (c.text ++ rest) (c :: chunks) left) :
    Stands c.kind? c.text rest ∧ Cut rest chunks left := by
  generalize htext : c.text ++ rest = whole at h
  cases h with
  | step hstands hrest =>
    obtain rfl := List.append_cancel_left htext
    exact ⟨hstands, hrest⟩

lemma textOf_cons_append (c : Chunk) (cs : List Chunk) (xs : List Char) :
    textOf (c :: cs) ++ xs = c.text ++ (textOf cs ++ xs) := by
  simp [textOf]

/-- A chunk at the head of a text is kept if it is a lexeme, and reading goes on after it. -/
lemma lexemes_of_stands (h : Stands kind? text rest) (line : Nat) :
    lexemes line (text ++ rest) =
      (kept line [⟨kind?, text⟩] ++ (lexemes (line + text.count '\n') rest).1,
        (lexemes (line + text.count '\n') rest).2) := by
  obtain ⟨c, cs, rfl, hscan⟩ := scan_of_stands h
  cases kind? with
  | none =>
    rw [List.cons_append, lexemes_of_gap hscan, List.take_left, List.drop_left]
    rfl
  | some kind =>
    rw [List.cons_append, lexemes_of_lexeme hscan, List.take_left, List.drop_left]
    rfl

/-- What comes after a chunk matters only for what is read after it. -/
lemma lexemes_congr_of_stands (h : Stands kind? text rest) (h' : Stands kind? text tail)
    (heq : ∀ line, lexemes line tail = lexemes line rest) (line : Nat) :
    lexemes line (text ++ tail) = lexemes line (text ++ rest) := by
  rw [lexemes_of_stands h, lexemes_of_stands h', heq]

lemma lexemes_spaces (hbs : ∀ c ∈ bs, isSpace c = true) (rest : List Char) :
    lexemes line (bs ++ rest) = lexemes line rest := by
  induction bs with
  | nil => rfl
  | cons c cs ih =>
    rw [List.forall_mem_cons] at hbs
    rw [List.cons_append, lexemes_space hbs.1, ih hbs.2]

/-- Nothing is left of a comment between two blanks if it stays in its line. -/
lemma lexemes_spacedComment (hnewline : '\n' ∉ body) (hend : ¬ ['*', '/'] <:+: body)
    (line : Nat) (rest : List Char) :
    lexemes line (spacedComment body ++ rest) = lexemes line rest := by
  have hcount : (blockComment body).count '\n' = 0 := by
    simp [blockComment, List.count_eq_zero, hnewline]
  have hcomment : Stands none (blockComment body) (' ' :: rest) := .blockComment hend
  calc lexemes line (spacedComment body ++ rest)
      = lexemes line (' ' :: (blockComment body ++ ' ' :: rest)) := by
        simp [spacedComment]
    _ = lexemes line (blockComment body ++ ' ' :: rest) := lexemes_space rfl
    _ = lexemes line (' ' :: rest) := by
        rw [lexemes_of_stands hcomment, hcount]
        rfl
    _ = lexemes line rest := lexemes_space rfl

/-! ## A chunk in front of something else -/

/-- What is in front of two texts in a row is in front of the first one, if the second one begins
with something that is not in it so far on. -/
lemma prefix_of_append {α : Type} {start xs ys : List α} {n : Nat} (hn : n ≤ xs.length)
    (hys : ∀ y ∈ ys.head?, y ∉ start.drop n) (h : start <+: xs ++ ys) : start <+: xs := by
  rcases prefix_append_cases h with hxs | ⟨ws, rfl, hws⟩
  · exact hxs
  · cases ws with
    | nil => simp
    | cons w ws =>
      obtain ⟨zs, rfl⟩ := hws
      have hw : w ∉ (xs ++ w :: ws).drop n := hys w rfl
      rw [List.drop_append_of_le_length hn] at hw
      simp at hw

/-- Only a newline is the third character of a mark with which no word begins. -/
lemma not_mem_drop_two {start : String} (hstart : start ∈ gapStarts) {c : Char} (hc : c ≠ '\n') :
    c ∉ start.toList.drop 2 := by
  simp only [gapStarts, List.mem_cons, List.not_mem_nil, or_false] at hstart
  rcases hstart with rfl | rfl | rfl | rfl | rfl | rfl <;> simp [hc]

/-- A mark with which no word begins goes on with neither a blank nor a backslash. -/
lemma not_mem_drop_one {start : String} (hstart : start ∈ gapStarts) :
    ' ' ∉ start.toList.drop 1 ∧ '\\' ∉ start.toList.drop 1 := by
  simp only [gapStarts, List.mem_cons, List.not_mem_nil, or_false] at hstart
  rcases hstart with rfl | rfl | rfl | rfl | rfl | rfl <;> decide

lemma head_ne_newline {c : Char} (hc : c ≠ '\n') (cs : List Char) :
    ∀ d ∈ (c :: cs).head?, d ≠ '\n' := by
  rintro d ⟨⟩
  exact hc

/-- A chunk that is followed by another one stands there whatever comes after that, as long as this
does not begin a new line. -/
lemma Stands.of_ne_nil {mid : List Char} (h : Stands kind? text (mid ++ rest)) (hmid : mid ≠ [])
    (htail : ∀ c ∈ tail.head?, c ≠ '\n') : Stands kind? text (mid ++ tail) := by
  have hhead : (mid ++ tail).head? = (mid ++ rest).head? := by
    obtain ⟨c, cs, rfl⟩ := List.exists_cons_of_ne_nil hmid
    rfl
  cases h with
  | space hne hbs hrest => exact .space hne hbs (hhead ▸ hrest)
  | continuation hmark => exact .continuation hmark
  | lineComment hmark hbody hrest => exact .lineComment hmark hbody (hhead ▸ hrest)
  | blockComment hbody => exact .blockComment hbody
  | quoted hbody => exact .quoted hbody
  | raw hbody => exact .raw hbody
  | ending hc => exact .ending hc
  | opening => exact .opening
  | closing => exact .closing
  | equals => exact .equals
  | word hne hw hgap hrest =>
    refine .word hne hw ?_ (hhead ▸ hrest)
    intro start hstart hbegins
    have hlength : 2 ≤ (text ++ mid).length := by
      have htext := List.length_pos_iff.mpr hne
      have hmid' := List.length_pos_iff.mpr hmid
      rw [List.length_append]
      omega
    rw [← List.append_assoc] at hbegins
    have hshort := prefix_of_append hlength
      (fun c hc => not_mem_drop_two hstart (htail c hc)) hbegins
    refine hgap start hstart ?_
    rw [← List.append_assoc]
    exact hshort.trans (List.prefix_append _ _)

/-- A word stands in front of a blank. -/
lemma stands_word_space (hne : text ≠ []) (hw : ∀ c ∈ text, isWordChar c = true)
    (hstart : ∀ start ∈ gapStarts, ¬ start.toList <+: text) (tail : List Char) :
    Stands (some .word) text (' ' :: tail) := by
  refine .word hne hw ?_ ?_
  · intro start hmem hbegins
    refine hstart start hmem (prefix_of_append (List.length_pos_iff.mpr hne) ?_ hbegins)
    rintro c ⟨⟩
    exact (not_mem_drop_one hmem).1
  · rintro c ⟨⟩
    rfl

lemma Stands.word_space (h : Stands (some .word) text rest) (tail : List Char) :
    Stands (some .word) text (' ' :: tail) := by
  cases h with
  | word hne hw hgap hrest =>
    refine stands_word_space hne hw ?_ tail
    intro start hstart hbegins
    exact hgap start hstart (hbegins.trans (List.prefix_append _ _))

/-- A chunk ends by itself, unless it is a run of blanks, a comment to the end of the line or a
word. -/
lemma Stands.ends (h : Stands kind? text rest) :
    (∀ tail, Stands kind? text tail) ∨
    (∀ c ∈ text, isSpace c = true) ∨
    (kind? = none ∧ IsLineComment text ∧ ∀ c ∈ rest.head?, c = '\n') ∨
    (kind? = some .word ∧ ∀ tail, Stands kind? text (' ' :: tail)) := by
  cases h with
  | space hne hbs hrest => exact .inr (.inl hbs)
  | lineComment hmark hbody hrest =>
    exact .inr (.inr (.inl ⟨rfl, ⟨_, hmark, _, hbody, rfl⟩, hrest⟩))
  | word hne hw hgap hrest =>
    exact .inr (.inr (.inr ⟨rfl, (Stands.word hne hw hgap hrest).word_space⟩))
  | continuation hmark => exact .inl fun _ => .continuation hmark
  | blockComment hbody => exact .inl fun _ => .blockComment hbody
  | quoted hbody => exact .inl fun _ => .quoted hbody
  | raw hbody => exact .inl fun _ => .raw hbody
  | ending hc => exact .inl fun _ => .ending hc
  | opening => exact .inl fun _ => .opening
  | closing => exact .inl fun _ => .closing
  | equals => exact .inl fun _ => .equals

/-- A comment to the end of the line is no lexeme. -/
lemma Stands.not_isLineComment {kind : Kind} (h : Stands (some kind) text rest) :
    ¬ IsLineComment text := by
  rintro ⟨mark, hmark, body, -, rfl⟩
  obtain ⟨c, cs, heq, hscan⟩ := scan_of_stands h
  simp only [List.mem_cons, List.not_mem_nil, or_false] at hmark
  rcases hmark with rfl | rfl | rfl <;> cases heq <;> cases hscan

/-! ## Putting a comment in -/

/-- A comment to the end of the line takes in what is put in after it. -/
lemma IsLineComment.append (h : IsLineComment text) (hbody : '\n' ∉ body) :
    IsLineComment (text ++ body) := by
  obtain ⟨mark, hmark, own, hown, rfl⟩ := h
  exact ⟨mark, hmark, own ++ body, by simp [hown, hbody], by simp⟩

lemma IsLineComment.stands (h : IsLineComment text) (hrest : ∀ c ∈ rest.head?, c = '\n') :
    Stands none text rest := by
  obtain ⟨mark, hmark, own, hown, rfl⟩ := h
  exact .lineComment hmark hown hrest

/-- A comment between two blanks leaves no trace behind a chunk. -/
lemma lexemes_insert_last (h : Stands kind? text rest) (hnewline : '\n' ∉ body)
    (hend : ¬ ['*', '/'] <:+: body) (line : Nat) :
    lexemes line (text ++ (spacedComment body ++ rest)) = lexemes line (text ++ rest) := by
  have hgap := fun line => lexemes_spacedComment hnewline hend line rest
  rcases h.ends with halone | hspaces | ⟨rfl, hcomment, hrest⟩ | ⟨-, hword⟩
  · exact lexemes_congr_of_stands h (halone _) hgap line
  · rw [lexemes_spaces hspaces, lexemes_spaces hspaces, hgap]
  · have hline : '\n' ∉ spacedComment body := by simp [spacedComment, blockComment, hnewline]
    have hcount : (text ++ spacedComment body).count '\n' = text.count '\n' := by
      rw [List.count_append, List.count_eq_zero.mpr hline, Nat.add_zero]
    rw [← List.append_assoc, lexemes_of_stands ((hcomment.append hline).stands hrest),
      lexemes_of_stands h, hcount]
    rfl
  · exact lexemes_congr_of_stands h (hword _) hgap line

/-- A comment between two blanks leaves no trace where a text is cut. -/
theorem lexemes_insert {before after : List Char} (h : CutsAt before after)
    (hnewline : '\n' ∉ body) (hend : ¬ ['*', '/'] <:+: body) (line : Nat) :
    lexemes line (before ++ (spacedComment body ++ after)) = lexemes line (before ++ after) := by
  obtain ⟨front, back, left, hcut, rfl⟩ := h
  induction front generalizing line with
  | nil => exact lexemes_spacedComment hnewline hend line after
  | cons c cs ih =>
    rw [textOf_cons_append] at hcut
    obtain ⟨hstands, hrest⟩ := hcut.uncons
    rw [textOf_cons_append, textOf_cons_append]
    by_cases hcs : textOf cs = []
    · rw [hcs] at hstands ⊢
      exact lexemes_insert_last hstands hnewline hend line
    · have hblank : ∀ d ∈ (spacedComment body ++ after).head?, d ≠ '\n' :=
        head_ne_newline (by decide) _
      exact lexemes_congr_of_stands hstands (hstands.of_ne_nil hcs hblank)
        (fun line => ih line hrest) line

/-- Comments are transparent.  Wherever a text is cut into chunks, a comment that stays in its line
can be put in between two blanks: the text has the same tags as before, or the same thing is found
wrong with it in the same line. -/
theorem readTags_insert_comment {before after : List Char} (h : CutsAt before after)
    (hnewline : '\n' ∉ body) (hend : ¬ ['*', '/'] <:+: body) :
    readTags (before ++ (spacedComment body ++ after)) = readTags (before ++ after) := by
  rw [readTags, readTags, lexemes_insert h hnewline hend]

/-- A line with a note, and then one with a text that does not end. -/
def notedText : List Char × List Char :=
  (['a', ' ', '#', ' ', 'b'], ['\n', 'c', ' ', '"'])

lemma cutsAt_notedText : CutsAt notedText.1 notedText.2 := by
  have hword : ∀ c ∈ ['a', 'c'], ∀ rest, Stands (some .word) [c] (' ' :: rest) := by
    intro c hc rest
    simp only [List.mem_cons, List.not_mem_nil, or_false] at hc
    refine stands_word_space (List.cons_ne_nil _ _) ?_ ?_ rest
    · rcases hc with rfl | rfl <;> simp [isWordChar, Text.isBlank]
    · rcases hc with rfl | rfl <;> simp [gapStarts]
  have hblank : ∀ c ∈ ['#', '"'], ∀ rest, Stands none [' '] (c :: rest) := by
    intro c hc rest
    refine .space (List.cons_ne_nil _ _) (by simp [isSpace]) ?_
    simp only [List.mem_cons, List.not_mem_nil, or_false] at hc
    rcases hc with rfl | rfl <;> simp [isSpace]
  have hnote : Stands none ['#', ' ', 'b'] notedText.2 :=
    IsLineComment.stands ⟨"#", by simp, [' ', 'b'], by decide, rfl⟩ (by simp [notedText])
  have hquote : Cut ['"'] [] ['"'] :=
    .stop (Or.inr ⟨_, .quoted fun body rest _ h => by cases body <;> cases h⟩)
  refine ⟨[⟨some .word, ['a']⟩, ⟨none, [' ']⟩, ⟨none, ['#', ' ', 'b']⟩],
    [⟨some .ending, ['\n']⟩, ⟨some .word, ['c']⟩, ⟨none, [' ']⟩], ['"'], ?_, rfl⟩
  refine .step (hword 'a' (by simp) _) (.step (hblank '#' (by simp) _) (.step hnote ?_))
  exact .step (.ending (Or.inl rfl))
    (.step (hword 'c' (by simp) _) (.step (hblank '"' (by simp) _) hquote))

theorem readTags_insert_comment_noted :
    CutsAt notedText.1 notedText.2 ∧ '\n' ∉ ['"', '{', '*'] ∧ ¬ ['*', '/'] <:+: ['"', '{', '*'] ∧
      readTags (notedText.1 ++ (spacedComment ['"', '{', '*'] ++ notedText.2)) =
        readTags (notedText.1 ++ notedText.2) :=
  ⟨cutsAt_notedText, by decide, by decide,
    readTags_insert_comment cutsAt_notedText (by decide) (by decide)⟩

end DubCheck.Sdl
