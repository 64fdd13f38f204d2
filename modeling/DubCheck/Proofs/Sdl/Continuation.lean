import DubCheck.Proofs.Document.Members
import DubCheck.Proofs.Sdl.Gaps
import DubCheck.Proofs.Sdl.Layout
/-!
# Statements that go on in the next line

A backslash at the end of a line is dropped together with the newline, as a blank is, where a chunk
can begin.  Behind a word none can: the backslash belongs to the word, and the newline ends the
statement.

* `Alike`: texts with the same lexemes, the lines of these apart, have the same tags.
* `alike_of_last`: what follows a text matters only together with the last chunk of the text.
* `tagsFrom_ne_of_word`: a statement that ends in another word, and before the next lexeme, is not
  read as before.
* `continues_iff`: a continued line is read like a blank except after a word.
-/

namespace DubCheck.Sdl

/-- A text that can be cut to its end, and does not end in a comment to the end of the line. -/
structure Complete (text : List Char) (chunks : List Chunk) : Prop where
  cut : Cut text chunks []
  uncommented : ∀ c ∈ chunks.getLast?, ¬ IsLineComment c.text

/-- Two texts have the same tags with a continued line between them as with a blank. -/
def Continues (a b : List Char) : Prop :=
  ∀ tags, readTags (a ++ ' ' :: b) = .ok tags → readTags (a ++ '\\' :: '\n' :: b) = .ok tags

/-- The last chunk is a word. -/
def EndsInWord (chunks : List Chunk) : Prop :=
  ∃ c ∈ chunks.getLast?, c.kind? = some .word

variable {fault : Option Fault} {opened opened' : List String} {tags tags' : List Tag}
  {statement statement' ls ls' items : List Lexeme} {x y l : Lexeme}

/-! ## Lexemes in other lines -/

/-- The same lexeme in the first line. -/
def Lexeme.moved (l : Lexeme) : Lexeme :=
  { l with line := 1 }

lemma map_moved_eq (h : ls.map Lexeme.token = ls'.map Lexeme.token) :
    ls.map Lexeme.moved = ls'.map Lexeme.moved := by
  have hmoved : Lexeme.moved = (fun t => ⟨t.1, t.2, 1⟩) ∘ Lexeme.token := rfl
  rw [hmoved, ← List.map_map, h, List.map_map]

lemma partsOf_map_moved (ls : List Lexeme) : partsOf (ls.map Lexeme.moved) = partsOf ls := by
  induction ls using partsOf.induct with
  | case1 l m n rest hm ih =>
    have hm' : m.moved.kind = .equals := hm
    simp only [List.map_cons, partsOf, if_pos hm, if_pos hm', ih]
    rfl
  | case2 l m n rest hm ih =>
    have hm' : ¬ m.moved.kind = .equals := hm
    rw [List.map_cons, List.map_cons] at ih
    simp only [List.map_cons, partsOf, if_neg hm, if_neg hm']
    exact congrArg _ ih
  | case3 l rest hshort ih =>
    match rest, hshort with
    | [], _ => rfl
    | [_], _ => rfl
    | m :: n :: more, hshort => exact (hshort m n more rfl).elim
  | case4 => rfl

/-- The tag of a statement does not depend on the lines of its lexemes. -/
lemma ofStatement?_congr (h : ls.map Lexeme.token = ls'.map Lexeme.token) :
    Tag.ofStatement? opened ls = Tag.ofStatement? opened ls' := by
  have hmap : ∀ ls, Tag.ofStatement? opened (ls.map Lexeme.moved) = Tag.ofStatement? opened ls := by
    intro ls
    cases ls with
    | nil => rfl
    | cons l ls =>
      have hall := partsOf_map_moved (l :: ls)
      rw [List.map_cons] at hall
      by_cases hl : l.kind = .word
      · simp [Tag.ofStatement?, Lexeme.moved, hl, ← partsOf_map_moved ls]
      · rw [Lexeme.moved] at hall
        simp [Tag.ofStatement?, Lexeme.moved, hl, hall]
  rw [← hmap, map_moved_eq h, hmap]

/-- Tags do not depend on the lines of the lexemes that they are read from. -/
lemma tagsFrom_congr (hls : ls.map Lexeme.token = ls'.map Lexeme.token)
    (hstatement : statement.map Lexeme.token = statement'.map Lexeme.token)
    (h : tagsFrom none opened statement ls = .ok tags) :
    tagsFrom none opened statement' ls' = .ok tags := by
  induction ls generalizing ls' statement statement' opened tags with
  | nil =>
    obtain rfl : ls' = [] := by simpa using hls.symm
    cases opened with
    | nil =>
      have htag : Tag.ofStatement? [] statement.reverse = Tag.ofStatement? [] statement'.reverse :=
        ofStatement?_congr (by rw [List.map_reverse, hstatement, List.map_reverse])
      rw [← h]
      exact congrArg (fun tag : Option Tag => Except.ok tag.toList) htag.symm
    | cons name names => cases h
  | cons l ls ih =>
    obtain ⟨l', ls', rfl, hl, hls⟩ := List.map_eq_cons_iff.mp hls.symm
    have hkind : l'.kind = l.kind := congrArg Prod.fst hl
    -- Every lexeme does to both readings what it does to one of them.
    rcases tagsFrom_cons_eq_ok_iff.mp h with ⟨hpart, h⟩ | ⟨hends, more, hmore, rfl⟩
    · have hmoved : (l :: statement).map Lexeme.token = (l' :: statement').map Lexeme.token := by
        rw [List.map_cons, List.map_cons, hl, hstatement]
      exact tagsFrom_cons_eq_ok_iff.mpr
        (Or.inl ⟨(Lexeme.inStatement_congr hkind).mpr hpart, ih hls.symm hmoved h⟩)
    · have htag :
          Tag.ofStatement? opened statement.reverse = Tag.ofStatement? opened statement'.reverse :=
        ofStatement?_congr (by rw [List.map_reverse, hstatement, List.map_reverse])
      have hopened : openedAfter opened statement l = openedAfter opened statement' l' := by
        rw [openedAfter, openedAfter, hkind, htag]
      rw [hopened] at hmore
      exact tagsFrom_cons_eq_ok_iff.mpr (Or.inr
        ⟨(Lexeme.endsStatement_congr hkind).mpr hends, more, ih hls.symm rfl hmore, by rw [htag]⟩)

/-! ## Texts that are read alike -/

/-- Two texts have the same lexemes, the lines apart, and neither of them has a fault if the other
one has none. -/
def Alike (text text' : List Char) : Prop :=
  ∀ line line', (lexemes line text).1.map Lexeme.token = (lexemes line' text').1.map Lexeme.token ∧
    ((lexemes line text).2 = none ↔ (lexemes line' text').2 = none)

lemma tokens_kept (line : Nat) (chunks : List Chunk) :
    (kept line chunks).map Lexeme.token = chunks.filterMap Chunk.token? := by
  induction chunks generalizing line with
  | nil => rfl
  | cons c cs ih =>
    rw [kept, List.map_append, ih, List.filterMap_cons, Chunk.token?]
    cases c.kind? <;> rfl

namespace Alike

variable {kind? : Option Kind} {text text' text'' rest rest' : List Char}

lemma refl (text : List Char) : Alike text text := by
  obtain ⟨chunks, left, hcut⟩ := exists_cut text
  have hline : ∀ line, (lexemes line text).1.map Lexeme.token = chunks.filterMap Chunk.token? ∧
      ((lexemes line text).2 = none ↔ left = []) := by
    intro line
    obtain ⟨hkept, hfault⟩ := lexemes_of_cut hcut line
    refine ⟨by rw [hkept, tokens_kept], ?_⟩
    rcases hfault with ⟨hleft, hnone⟩ | ⟨because, hoffends, hsome⟩
    · simp [hleft, hnone]
    · simp [hsome, hoffends.ne_nil]
  intro line line'
  exact ⟨(hline line).1.trans (hline line').1.symm, (hline line).2.trans (hline line').2.symm⟩

lemma symm (h : Alike text text') : Alike text' text := by
  intro line line'
  obtain ⟨htokens, hfault⟩ := h line' line
  exact ⟨htokens.symm, hfault.symm⟩

lemma trans (h : Alike text text') (h' : Alike text' text'') : Alike text text'' := by
  intro line line'
  obtain ⟨htokens, hfault⟩ := h line line
  obtain ⟨htokens', hfault'⟩ := h' line line'
  exact ⟨htokens.trans htokens', hfault.trans hfault'⟩

/-- Texts are read alike if a chunk at the head of both is followed by texts that are. -/
lemma append (h : Stands kind? text rest) (h' : Stands kind? text rest')
    (hrest : Alike rest rest') : Alike (text ++ rest) (text ++ rest') := by
  intro line line'
  obtain ⟨htokens, hfault⟩ :=
    hrest (line + text.count '\n') (line' + text.count '\n')
  rw [lexemes_of_stands h, lexemes_of_stands h', List.map_append, List.map_append, tokens_kept,
    tokens_kept, htokens]
  exact ⟨rfl, hfault⟩

/-- What is dropped at the head of a text makes no difference. -/
lemma dropped (h : Stands none text rest) : Alike (text ++ rest) rest := by
  intro line line'
  obtain ⟨htokens, hfault⟩ := Alike.refl rest (line + text.count '\n') line'
  rw [lexemes_of_stands h]
  exact ⟨htokens, hfault⟩

lemma spaces (h : ∀ c ∈ text, isSpace c = true) : Alike (text ++ rest) rest := by
  intro line line'
  rw [lexemes_spaces h]
  exact Alike.refl rest line line'

/-- A blank and a continued line are dropped. -/
lemma blank_continuation (b : List Char) : Alike (' ' :: b) ('\\' :: '\n' :: b) := by
  have hspace : Alike ([' '] ++ b) b := Alike.spaces (by simp [isSpace])
  have hline : Alike ("\\\n".toList ++ b) b := Alike.dropped (.continuation (by simp))
  exact hspace.trans hline.symm

/-- Texts that are read alike have the same tags. -/
lemma readTags_eq_ok (h : Alike text text') (hok : readTags text = .ok tags) :
    readTags text' = .ok tags := by
  obtain ⟨htokens, hfault⟩ := h 1 1
  change tagsFrom (lexemes 1 text).2 [] [] (lexemes 1 text).1 = _ at hok
  have hnone := (exists_lays_of_tagsFrom hok).1
  change tagsFrom (lexemes 1 text').2 [] [] (lexemes 1 text').1 = _
  rw [hfault.mp hnone]
  rw [hnone] at hok
  exact tagsFrom_congr htokens rfl hok

end Alike

/-! ## After the last chunk of a text -/

variable {a b w text : List Char} {c : Chunk} {chunks front : List Chunk}

/-- The last chunk of a text stands at its end. -/
lemma Cut.last (h : Cut a (front ++ [c]) []) :
    a = textOf front ++ c.text ∧ Stands c.kind? c.text [] := by
  have htext : a = textOf front ++ c.text := by simpa [textOf] using h.text_eq
  refine ⟨htext, ?_⟩
  subst htext
  induction front with
  | nil =>
    rw [textOf, List.flatMap_nil, List.nil_append, ← List.append_nil c.text] at h
    exact h.uncons.1
  | cons d ds ih =>
    rw [textOf_cons_append] at h
    exact ih h.uncons.2

/-- The chunks before the last one stand where they stood, whatever follows the last one in its
line. -/
lemma lexemes_append {tail : List Char} (h : Cut a (front ++ [c]) [])
    (htail : ∀ d ∈ tail.head?, d ≠ '\n') (line : Nat) :
    lexemes line (a ++ tail) =
      (kept line front ++ (lexemes (line + (textOf front).count '\n') (c.text ++ tail)).1,
        (lexemes (line + (textOf front).count '\n') (c.text ++ tail)).2) := by
  obtain ⟨rfl, hlast⟩ := h.last
  induction front generalizing line with
  | nil => simp [textOf, kept]
  | cons d ds ih =>
    rw [textOf_cons_append] at h
    obtain ⟨hstands, hrest⟩ := h.uncons
    rw [← List.append_nil (textOf ds ++ c.text)] at hstands
    have hne : textOf ds ++ c.text ≠ [] := List.append_ne_nil_of_right_ne_nil _ hlast.ne_nil
    have hcount : (textOf (d :: ds)).count '\n' = d.text.count '\n' + (textOf ds).count '\n' := by
      simp [textOf]
    rw [textOf_cons_append, List.append_assoc, lexemes_of_stands (hstands.of_ne_nil hne htail),
      ih _ hrest, hcount, ← Nat.add_assoc]
    simp [kept]

/-- Two texts are read alike after another one if they are after its last chunk. -/
lemma alike_of_last {tail tail' : List Char} (h : Cut a (front ++ [c]) [])
    (htail : ∀ d ∈ tail.head?, d ≠ '\n') (htail' : ∀ d ∈ tail'.head?, d ≠ '\n')
    (hlast : Alike (c.text ++ tail) (c.text ++ tail')) : Alike (a ++ tail) (a ++ tail') := by
  intro line line'
  obtain ⟨htokens, hfault⟩ :=
    hlast (line + (textOf front).count '\n') (line' + (textOf front).count '\n')
  rw [lexemes_append h htail, lexemes_append h htail', List.map_append, List.map_append,
    tokens_kept, tokens_kept, htokens]
  exact ⟨rfl, hfault⟩

/-- A continued line is read like a blank after every chunk but a word and a comment to the end of
the line. -/
lemma alike_continuation (h : Complete a chunks) (hword : ¬ EndsInWord chunks) (b : List Char) :
    Alike (a ++ ' ' :: b) (a ++ '\\' :: '\n' :: b) := by
  rcases List.eq_nil_or_concat chunks with rfl | ⟨front, c, rfl⟩
  · obtain rfl : a = [] := by simpa [textOf] using h.cut.text_eq
    exact Alike.blank_continuation b
  · rw [List.concat_eq_append] at h hword
    refine alike_of_last h.cut (head_ne_newline (by decide) _) (head_ne_newline (by decide) _) ?_
    rcases h.cut.last.2.ends with halone | hspaces | ⟨-, hcomment, -⟩ | ⟨hkind, -⟩
    · exact .append (halone _) (halone _) (Alike.blank_continuation b)
    · exact (Alike.spaces hspaces).trans
        ((Alike.blank_continuation b).trans (Alike.spaces hspaces).symm)
    · exact (h.uncommented c (by simp) hcomment).elim
    · exact (hword ⟨c, by simp, hkind⟩).elim

/-! ## Another word at the end of a statement -/

/-- The last word of a statement is a part of it, with a key or without one, and the parts before do
not depend on it. -/
lemma partsOf_concat_word (items : List Lexeme) :
    ∃ parts part, (part = Part.value ∨ ∃ key, part = Part.attribute key) ∧
      ∀ x : Lexeme, x.kind = .word → partsOf (items ++ [x]) = parts ++ [part x.value] := by
  have hone : ∀ {x : Lexeme}, x.kind = .word → partsOf [x] = [.value x.value] := by
    intro x hx
    simp [partsOf, Lexeme.part?, hx]
  induction items using partsOf.induct with
  | case1 l m n rest hm ih =>
    obtain ⟨parts, part, hpart, hparts⟩ := ih
    refine ⟨.attribute (String.ofList l.text) n.value :: parts, part, hpart, fun x hx => ?_⟩
    simp only [List.cons_append, partsOf, if_pos hm, hparts x hx]
  | case2 l m n rest hm ih =>
    obtain ⟨parts, part, hpart, hparts⟩ := ih
    refine ⟨l.part?.toList ++ parts, part, hpart, fun x hx => ?_⟩
    have hmore := hparts x hx
    rw [List.cons_append, List.cons_append] at hmore
    simp only [List.cons_append, partsOf, if_neg hm, hmore, List.append_assoc]
  | case3 l rest hshort ih =>
    match rest, hshort with
    | [], _ =>
      refine ⟨l.part?.toList, .value, Or.inl rfl, fun x hx => ?_⟩
      rw [← hone hx]
      rfl
    | [m], _ =>
      by_cases hm : m.kind = .equals
      · refine ⟨[], .attribute (String.ofList l.text), Or.inr ⟨_, rfl⟩, fun x hx => ?_⟩
        simp [partsOf, hm]
      · refine ⟨l.part?.toList ++ m.part?.toList, .value, Or.inl rfl, fun x hx => ?_⟩
        have hm' : x.kind ≠ .equals := by simp [hx]
        simp [partsOf, hm, Lexeme.part?, hx]
    | m :: n :: more, hshort => exact (hshort m n more rfl).elim
  | case4 => exact ⟨[], .value, Or.inl rfl, fun x hx => hone hx⟩

/-- A statement with another word at its end gives another tag. -/
lemma ofStatement?_concat_ne (hx : x.kind = .word) (hy : y.kind = .word) (hne : x.text ≠ y.text)
    (items : List Lexeme) :
    Tag.ofStatement? opened (items ++ [x]) ≠ Tag.ofStatement? opened (items ++ [y]) := by
  have hname : String.ofList x.text ≠ String.ofList y.text := by
    intro heq
    exact hne (by simpa using congrArg String.toList heq)
  have hvalue : x.value ≠ y.value := by simpa [Lexeme.value, hx, hy] using hname
  -- The word counts as a value or as what is under a key.
  have hparts : ∀ items, (partsOf (items ++ [x])).filterMap (·.value?) =
      (partsOf (items ++ [y])).filterMap (·.value?) →
      collect ((partsOf (items ++ [x])).filterMap (·.attribute?)) ≠
        collect ((partsOf (items ++ [y])).filterMap (·.attribute?)) := by
    intro items hvalues hattributes
    obtain ⟨parts, part, rfl | ⟨key, rfl⟩, hword⟩ := partsOf_concat_word items
    · rw [hword x hx, hword y hy] at hvalues
      simp [Part.value?] at hvalues
      exact hvalue hvalues
    · rw [hword x hx, hword y hy] at hattributes
      have hlookup := congrArg (List.lookup key) hattributes
      simp [Part.attribute?, collect, lookup_insertPair] at hlookup
      exact hvalue hlookup
  intro heq
  cases items with
  | nil =>
    simp [Tag.ofStatement?, hx, hy] at heq
    exact hname heq
  | cons first items =>
    by_cases hfirst : first.kind = .word
    · simp [Tag.ofStatement?, hfirst] at heq
      exact hparts items heq.1 heq.2
    · simp [Tag.ofStatement?, hfirst] at heq
      exact hparts (first :: items) heq.1 heq.2

/-- What some lexemes do to what has been read does not depend on what follows them: either a block
ends that has not begun, or there are tags, and a statement has begun. -/
lemma exists_course (before : List Lexeme) (opened : List String) (statement : List Lexeme) :
    (∃ f, ∀ fault ls, tagsFrom fault opened statement (before ++ ls) = .error f) ∨
    ∃ names current tags, ∀ fault ls, tagsFrom fault opened statement (before ++ ls) =
      (tagsFrom fault names current ls).map (tags ++ ·) := by
  induction before generalizing opened statement with
  | nil =>
    refine Or.inr ⟨opened, statement, [], fun fault ls => ?_⟩
    rw [List.nil_append]
    cases tagsFrom fault opened statement ls <;> rfl
  | cons l before ih =>
    rcases inStatement_or l opened with hl | hl | ⟨hl, rfl⟩
    · rcases ih opened (l :: statement) with ⟨f, hf⟩ | ⟨names, current, tags, htags⟩
      · refine Or.inl ⟨f, fun fault ls => ?_⟩
        rw [List.cons_append, tagsFrom_part _ _ _ _ hl, hf]
      · refine Or.inr ⟨names, current, tags, fun fault ls => ?_⟩
        rw [List.cons_append, tagsFrom_part _ _ _ _ hl, htags]
    · rcases ih (openedAfter opened statement l) [] with ⟨f, hf⟩ | ⟨names, current, tags, htags⟩
      · refine Or.inl ⟨f, fun fault ls => ?_⟩
        rw [List.cons_append, tagsFrom_endsStatement hl, hf]
        rfl
      · refine Or.inr ⟨names, current, (Tag.ofStatement? opened statement.reverse).toList ++ tags,
          fun fault ls => ?_⟩
        rw [List.cons_append, tagsFrom_endsStatement hl, htags, map_append_map]
    · exact Or.inl ⟨_, fun fault ls => tagsFrom_unopened _ _ _ hl⟩

/-- A statement that has begun gives one tag. -/
lemma length_ofStatement? (opened : List String) (statement : List Lexeme) :
    (Tag.ofStatement? opened statement.reverse).toList.length =
      if statement = [] then 0 else 1 := by
  cases statement using List.reverseRecOn with
  | nil => rfl
  | append_singleton s l => simp [Tag.ofStatement?]

/-- How many tags there are depends on the kinds of the lexemes only, and on whether a statement has
begun. -/
lemma length_eq_of_kinds (hls : ls.map Lexeme.kind = ls'.map Lexeme.kind)
    (hstatement : statement = [] ↔ statement' = [])
    (h : tagsFrom none opened statement ls = .ok tags)
    (h' : tagsFrom none opened' statement' ls' = .ok tags') : tags.length = tags'.length := by
  induction ls generalizing ls' statement statement' opened opened' tags tags' with
  | nil =>
    obtain rfl : ls' = [] := by simpa using hls.symm
    cases opened <;> cases h
    cases opened' <;> cases h'
    rw [length_ofStatement?, length_ofStatement?]
    simp [hstatement]
  | cons l ls ih =>
    obtain ⟨l', ls', rfl, hl, hls⟩ := List.map_eq_cons_iff.mp hls.symm
    -- Both lexemes are of one kind, so that they do the same.
    rcases tagsFrom_cons_eq_ok_iff.mp h with ⟨hpart, h⟩ | ⟨hends, more, hmore, rfl⟩ <;>
      rcases tagsFrom_cons_eq_ok_iff.mp h' with ⟨hpart', h'⟩ | ⟨hends', more', hmore', rfl⟩
    · exact ih hls.symm (by simp) h h'
    · exact absurd hends' ((Lexeme.inStatement_congr hl).mpr hpart).not_endsStatement
    · exact absurd hends ((Lexeme.inStatement_congr hl).mp hpart').not_endsStatement
    · rw [List.length_append, List.length_append, length_ofStatement?, length_ofStatement?,
        ih hls.symm Iff.rfl hmore hmore']
      simp [hstatement]

/-- The tags of statements that end in different words are different. -/
lemma ofStatement?_append_ne {more more' : List Tag} (hx : x.kind = .word) (hy : y.kind = .word)
    (hne : x.text ≠ y.text) :
    (Tag.ofStatement? opened (x :: statement).reverse).toList ++ more ≠
      (Tag.ofStatement? opened (y :: statement).reverse).toList ++ more' := by
  intro heq
  have hlength : (Tag.ofStatement? opened (x :: statement).reverse).toList.length =
      (Tag.ofStatement? opened (y :: statement).reverse).toList.length := by
    rw [length_ofStatement?, length_ofStatement?]
    rfl
  have htags := (List.append_inj heq hlength).1
  rw [List.reverse_cons, List.reverse_cons] at htags
  exact ofStatement?_concat_ne hx hy hne _ (by simpa using congrArg List.head? htags)

/-- A statement that ends in another word, and before the next lexeme, is not read as before: there
is one more tag, or the tag of the statement is another one. -/
lemma tagsFrom_ne_of_word {e : Lexeme} (hx : x.kind = .word) (hy : y.kind = .word)
    (hne : x.text ≠ y.text) (he : e.kind = .ending) (hls : ls.map Lexeme.kind = ls'.map Lexeme.kind)
    (h : tagsFrom none opened statement (x :: ls) = .ok tags) :
    tagsFrom none opened statement (y :: e :: ls') ≠ .ok tags := by
  intro h'
  have hpart : x.InStatement ∧ y.InStatement := by simp [Lexeme.InStatement, hx, hy]
  rw [tagsFrom_part _ _ _ _ hpart.1] at h
  rw [tagsFrom_part _ _ _ _ hpart.2, tagsFrom_ending _ _ _ _ he] at h'
  obtain ⟨more, hmore, rfl⟩ := map_eq_ok_iff.mp h'
  cases ls with
  | nil =>
    cases opened with
    | nil => exact ofStatement?_append_ne hx hy hne ((List.append_nil _).trans (Except.ok.inj h))
    | cons name names => cases h
  | cons l ls =>
    rcases tagsFrom_cons_eq_ok_iff.mp h with ⟨hl, h⟩ | ⟨-, found, -, heq⟩
    · -- The statement goes on, so that the ending makes two statements of one.
      obtain ⟨l', ls', rfl, hkind, hls⟩ := List.map_eq_cons_iff.mp hls.symm
      have hl' : l'.InStatement := (Lexeme.inStatement_congr hkind).mpr hl
      rw [tagsFrom_part _ _ _ _ hl'] at hmore
      have hcount := length_eq_of_kinds hls.symm (by simp) h hmore
      rw [List.length_append, length_ofStatement?, if_neg (List.cons_ne_nil _ _)] at hcount
      omega
    · exact ofStatement?_append_ne hx hy hne heq.symm

/-! ## Lines that are continued -/

/-- A backslash that follows a word belongs to it. -/
lemma Stands.word_backslash {rest : List Char} (h : Stands (some .word) w rest) (b : List Char) :
    Stands (some .word) (w ++ ['\\']) ('\n' :: b) := by
  cases h with
  | word hne hw hgap hrest =>
    refine .word (by simp) ?_ ?_ ?_
    · intro c hc
      rcases List.mem_append.mp hc with hc | hc
      · exact hw c hc
      · obtain rfl := List.mem_singleton.mp hc
        rfl
    · intro start hstart hprefix
      rw [List.append_assoc] at hprefix
      have hshort : start.toList <+: w := by
        refine prefix_of_append (List.length_pos_iff.mpr hne) ?_ hprefix
        rintro c ⟨⟩
        exact (not_mem_drop_one hstart).2
      exact hgap start hstart (hshort.trans (List.prefix_append _ _))
    · rintro c ⟨⟩
      rfl

lemma lexemes_word_space {rest : List Char} (h : Stands (some .word) w rest) (line : Nat)
    (b : List Char) : ∃ line', lexemes line (w ++ ' ' :: b) =
      (⟨.word, w, line⟩ :: (lexemes line' b).1, (lexemes line' b).2) := by
  refine ⟨line + w.count '\n', ?_⟩
  rw [lexemes_of_stands (h.word_space b), lexemes_space rfl]
  rfl

lemma lexemes_word_continuation {rest : List Char} (h : Stands (some .word) w rest) (line : Nat)
    (b : List Char) : ∃ line' line'', lexemes line (w ++ '\\' :: '\n' :: b) =
      (⟨.word, w ++ ['\\'], line⟩ :: ⟨.ending, ['\n'], line'⟩ :: (lexemes line'' b).1,
        (lexemes line'' b).2) := by
  have hending : Stands (some .ending) ['\n'] b := .ending (Or.inl rfl)
  have hsplit : w ++ '\\' :: '\n' :: b = (w ++ ['\\']) ++ (['\n'] ++ b) := by simp
  refine ⟨line + (w ++ ['\\']).count '\n', line + (w ++ ['\\']).count '\n' + 1, ?_⟩
  have hword : Stands (some .word) (w ++ ['\\']) (['\n'] ++ b) := h.word_backslash b
  rw [hsplit, lexemes_of_stands hword, lexemes_of_stands hending]
  rfl

/-- After a word, a continued line is not read like a blank. -/
theorem readTags_ne_of_word (h : Cut a (front ++ [c]) []) (hc : c.kind? = some .word)
    (hok : readTags (a ++ ' ' :: b) = .ok tags) :
    readTags (a ++ '\\' :: '\n' :: b) ≠ .ok tags := by
  intro hok'
  have hword := h.last.2
  rw [hc] at hword
  obtain ⟨line', hspace⟩ := lexemes_word_space hword (1 + (textOf front).count '\n') b
  obtain ⟨line₁, line₂, hcontinued⟩ :=
    lexemes_word_continuation hword (1 + (textOf front).count '\n') b
  have htokens := (Alike.refl b line' line₂).1
  have hkinds : (lexemes line' b).1.map Lexeme.kind = (lexemes line₂ b).1.map Lexeme.kind := by
    have hkind : Lexeme.kind = Prod.fst ∘ Lexeme.token := rfl
    rw [hkind, ← List.map_map, htokens, List.map_map]
  change tagsFrom _ _ _ _ = _ at hok hok'
  have hnone := (exists_lays_of_tagsFrom hok).1
  have hnone' := (exists_lays_of_tagsFrom hok').1
  rw [hnone, lexemes_append h (head_ne_newline (by decide) b), hspace] at hok
  rw [hnone', lexemes_append h (head_ne_newline (by decide) _), hcontinued] at hok'
  rcases exists_course (kept 1 front) [] [] with ⟨f, hf⟩ | ⟨names, current, found, hfound⟩
  · rw [hf] at hok
    cases hok
  · rw [hfound] at hok hok'
    obtain ⟨more, hmore, rfl⟩ := map_eq_ok_iff.mp hok
    obtain ⟨more', hmore', heq⟩ := map_eq_ok_iff.mp hok'
    obtain rfl : more' = more := List.append_cancel_left heq
    refine tagsFrom_ne_of_word rfl rfl ?_ rfl hkinds hmore hmore'
    simp

/-- A backslash at the end of a line continues a statement just after everything but a word.  After
a word a continued line is never read like a blank, as far as there are tags with a blank at all. -/
theorem continues_iff (h : Complete a chunks) (b : List Char) :
    Continues a b ↔ ¬ EndsInWord chunks ∨ ∀ tags, readTags (a ++ ' ' :: b) ≠ .ok tags := by
  constructor
  · intro hcontinues
    by_cases hword : EndsInWord chunks
    · refine Or.inr fun tags hok => ?_
      obtain ⟨c, hc, hkind⟩ := hword
      obtain ⟨front, rfl⟩ := List.getLast?_eq_some_iff.mp hc
      exact readTags_ne_of_word h.cut hkind hok (hcontinues tags hok)
    · exact Or.inl hword
  · rintro (hword | hnone) tags hok
    · exact (alike_continuation h hword b).readTags_eq_ok hok
    · exact (hnone tags hok).elim

/-- A text as the value of a tag. -/
def valuedText : List Char :=
  ['x', ' ', '"', 'y', '"']

lemma complete_valuedText :
    Complete valuedText
      [⟨some .word, ['x']⟩, ⟨none, [' ']⟩, ⟨some .quoted, ['"', 'y', '"']⟩] := by
  have hword : Stands (some .word) ['x'] [' ', '"', 'y', '"'] := by
    refine stands_word_space (List.cons_ne_nil _ _) ?_ ?_ _
    · simp [isWordChar, Text.isBlank]
    · simp [gapStarts]
  have hspace : Stands none [' '] ['"', 'y', '"'] :=
    .space (List.cons_ne_nil _ _) (by simp [isSpace]) (by simp [isSpace])
  have hquoted : Stands (some .quoted) ['"', 'y', '"'] [] :=
    @Stands.quoted ['y'] [] (.plain (by decide) .nil)
  refine ⟨.step hword (.step hspace (.step hquoted (.stop (Or.inl rfl)))), ?_⟩
  rintro c ⟨⟩
  exact hquoted.not_isLineComment

/-- The value of a tag can be followed by another one in the next line. -/
theorem continues_valuedText :
    Complete valuedText [⟨some .word, ['x']⟩, ⟨none, [' ']⟩, ⟨some .quoted, ['"', 'y', '"']⟩] ∧
      Continues valuedText ['"', 'z', '"'] :=
  ⟨complete_valuedText, (continues_iff complete_valuedText _).mpr (Or.inl (by simp [EndsInWord]))⟩

/-- The value of a tag cannot stand in the line after its name. -/
theorem not_continues_of_name :
    Complete ['n', 'a', 'm', 'e'] [⟨some .word, ['n', 'a', 'm', 'e']⟩] ∧
      ¬ Continues ['n', 'a', 'm', 'e'] ['"', 'x', '"'] := by
  have hword : Stands (some .word) ['n', 'a', 'm', 'e'] [] := by
    refine .word (List.cons_ne_nil _ _) ?_ ?_ ?_
    · simp [isWordChar, Text.isBlank]
    · simp [gapStarts]
    · simp
  have hcut : Cut ['n', 'a', 'm', 'e'] ([] ++ [⟨some .word, ['n', 'a', 'm', 'e']⟩]) [] :=
    .step hword (.stop (Or.inl rfl))
  have hblank : readTags (['n', 'a', 'm', 'e'] ++ ' ' :: ['"', 'x', '"']) =
      .ok [⟨"name", ["x"], [], []⟩] := by
    cbv
  refine ⟨⟨hcut, ?_⟩, fun hcontinues => ?_⟩
  · rintro c ⟨⟩
    exact hword.not_isLineComment
  · exact readTags_ne_of_word hcut rfl hblank (hcontinues _ hblank)

end DubCheck.Sdl
