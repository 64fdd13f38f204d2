import DubCheck.Proofs.Sdl.Lexeme
/-!
# Cutting a text into chunks

A chunk of a text is a lexeme, or something between lexemes that is dropped.  `Stands` says by their
shape alone which chunks can stand in front of a text, and `Offends` which texts begin with
something that is no chunk: a comment or a text that does not end, or a character with which no
chunk begins.

* `exists_cut`, `Cut.unique`: every text can be cut from left to right in exactly one way, up to its
  end or to the first thing that is no chunk.
* `lexemes_of_cut`: the lexemes of a text are the chunks of this cut that are not dropped, and the
  fault is what it stopped at.
-/

namespace DubCheck.Sdl

/-! ## Chunks -/

/-- What may stand between double quotes: characters other than quotes, backslashes and newlines,
and any character after a backslash. -/
inductive Quotable : List Char → Prop where
  | nil : Quotable []
  | plain {c : Char} {cs : List Char} (hc : c ∉ ['"', '\\', '\n']) (rest : Quotable cs) :
    Quotable (c :: cs)
  | escape (c : Char) {cs : List Char} (rest : Quotable cs) : Quotable ('\\' :: c :: cs)

/-- A text is a chunk in front of the text `rest`: a lexeme of a kind, or something that is dropped.
Blanks, comments to the end of the line and words go on for as long as they can. -/
inductive Stands : Option Kind → List Char → List Char → Prop where
  | space {bs rest : List Char} (hne : bs ≠ []) (hbs : ∀ c ∈ bs, isSpace c = true)
    (hrest : ∀ c ∈ rest.head?, isSpace c = false) : Stands none bs rest
  | continuation {mark : String} {rest : List Char} (hmark : mark ∈ ["\\\n", "\\\r\n"]) :
    Stands none mark.toList rest
  | lineComment {mark : String} {body rest : List Char} (hmark : mark ∈ ["//", "--", "#"])
    (hbody : '\n' ∉ body) (hrest : ∀ c ∈ rest.head?, c = '\n') :
    Stands none (mark.toList ++ body) rest
  | blockComment {body rest : List Char} (hbody : ¬ ['*', '/'] <:+: body) :
    Stands none ('/' :: '*' :: (body ++ ['*', '/'])) rest
  | quoted {body rest : List Char} (hbody : Quotable body) :
    Stands (some .quoted) ('"' :: (body ++ ['"'])) rest
  | raw {body rest : List Char} (hbody : '\x60' ∉ body) :
    Stands (some .raw) ('\x60' :: (body ++ ['\x60'])) rest
  | ending {c : Char} {rest : List Char} (hc : c = '\n' ∨ c = ';') : Stands (some .ending) [c] rest
  | opening {rest : List Char} : Stands (some .opening) ['{'] rest
  | closing {rest : List Char} : Stands (some .closing) ['}'] rest
  | equals {rest : List Char} : Stands (some .equals) ['='] rest
  | word {w rest : List Char} (hne : w ≠ []) (hw : ∀ c ∈ w, isWordChar c = true)
    (hgap : ∀ start ∈ gapStarts, ¬ start.toList <+: w ++ rest)
    (hrest : ∀ c ∈ rest.head?, isWordChar c = false) : Stands (some .word) w rest

/-- A text begins with something that is no chunk.  What is wrong depends on the line. -/
inductive Offends : (Nat → Fault) → List Char → Prop where
  | comment {cs : List Char} (h : ¬ ['*', '/'] <:+: cs) :
    Offends .unterminatedComment ('/' :: '*' :: cs)
  | quoted {cs : List Char} (h : ∀ body rest, Quotable body → cs ≠ body ++ '"' :: rest) :
    Offends .unterminatedText ('"' :: cs)
  | raw {cs : List Char} (h : '\x60' ∉ cs) : Offends .unterminatedText ('\x60' :: cs)
  | unexpected {c : Char} {cs : List Char} (hblank : Text.isBlank c = true)
    (hspace : isSpace c = false) (hnewline : c ≠ '\n') : Offends (.unexpected c) (c :: cs)

/-- A part of a text: a lexeme of a kind, or something that is dropped. -/
structure Chunk where
  kind? : Option Kind
  text : List Char

/-- The text can be cut from left to right into the chunks, and nothing more can be cut from what is
left. -/
inductive Cut : List Char → List Chunk → List Char → Prop where
  | stop {left : List Char} (h : left = [] ∨ ∃ because, Offends because left) : Cut left [] left
  | step {kind? : Option Kind} {text rest : List Char} {chunks : List Chunk} {left : List Char}
    (h : Stands kind? text rest) (hrest : Cut rest chunks left) :
    Cut (text ++ rest) (⟨kind?, text⟩ :: chunks) left

/-- The text of some chunks. -/
def textOf (chunks : List Chunk) : List Char :=
  chunks.flatMap (·.text)

/-- The line that begins or goes on after some chunks. -/
def lineAfter (chunks : List Chunk) : Nat :=
  1 + (textOf chunks).count '\n'

/-- The lexemes among some chunks, the first of which begins in the given line. -/
def kept (line : Nat) : List Chunk → List Lexeme
  | [] => []
  | c :: cs =>
    (c.kind?.map fun kind => ⟨kind, c.text, line⟩).toList ++ kept (line + c.text.count '\n') cs

lemma lineAfter_append (chunks : List Chunk) (c : Chunk) :
    lineAfter (chunks ++ [c]) = lineAfter chunks + c.text.count '\n' := by
  simp [lineAfter, textOf, Nat.add_assoc]

lemma Cut.text_eq {text left : List Char} {chunks : List Chunk} (h : Cut text chunks left) :
    text = textOf chunks ++ left := by
  induction h with
  | stop h => rfl
  | step h _ ih =>
    rw [ih]
    simp [textOf]

/-! ## Where chunks end -/

variable {c : Char} {cs rest : List Char} {n : Nat}

lemma quotedSize?_append {body : List Char} (h : Quotable body) (rest : List Char) :
    quotedSize? (body ++ '"' :: rest) = some (body.length + 1) := by
  induction h with
  | nil => rfl
  | @plain c cs hc _ ih =>
    simp only [List.mem_cons, List.not_mem_nil, or_false, not_or] at hc
    obtain ⟨hquote, hslash, hnewline⟩ := hc
    rw [List.cons_append, quotedSize?, if_neg (by simp [hslash, hnewline]), ih]
    · rfl
    · exact hquote
    · exact fun _ _ h _ => hslash h
  | @escape c cs _ ih =>
    rw [List.cons_append, List.cons_append, quotedSize?, ih]
    rfl

lemma exists_quotable (h : quotedSize? cs = some n) :
    ∃ body rest, Quotable body ∧ cs = body ++ '"' :: rest ∧ n = body.length + 1 := by
  induction cs using quotedSize?.induct generalizing n with
  | case1 => cases h
  | case2 cs =>
    cases h
    exact ⟨[], cs, .nil, rfl, rfl⟩
  | case3 d cs ih =>
    rw [quotedSize?] at h
    obtain ⟨m, hm, rfl⟩ := Option.map_eq_some_iff.mp h
    obtain ⟨body, rest, hbody, rfl, rfl⟩ := ih hm
    exact ⟨_, rest, .escape d hbody, rfl, rfl⟩
  | case4 d cs hquote hescape hstop =>
    rw [quotedSize?, if_pos hstop] at h
    · cases h
    · exact hquote
    · exact hescape
  | case5 d cs hquote hescape hstop ih =>
    rw [quotedSize?, if_neg hstop] at h
    · obtain ⟨m, hm, rfl⟩ := Option.map_eq_some_iff.mp h
      obtain ⟨body, rest, hbody, rfl, rfl⟩ := ih hm
      simp only [Bool.or_eq_true, decide_eq_true_eq, not_or] at hstop
      exact ⟨_, rest, .plain (by simp [hstop, show d ≠ '"' from hquote]) hbody, rfl, rfl⟩
    · exact hquote
    · exact hescape

lemma rawSize?_append {body : List Char} (h : '\x60' ∉ body) (rest : List Char) :
    rawSize? (body ++ '\x60' :: rest) = some (body.length + 1) := by
  induction body with
  | nil => rfl
  | cons c cs ih =>
    rw [List.mem_cons, not_or] at h
    rw [List.cons_append, rawSize?, ih h.2]
    · rfl
    · exact fun hc => h.1 hc.symm

lemma exists_raw (h : rawSize? cs = some n) :
    ∃ body rest, '\x60' ∉ body ∧ cs = body ++ '\x60' :: rest ∧ n = body.length + 1 := by
  induction cs using rawSize?.induct generalizing n with
  | case1 => cases h
  | case2 cs =>
    cases h
    exact ⟨[], cs, List.not_mem_nil, rfl, rfl⟩
  | case3 d cs hquote ih =>
    rw [rawSize?] at h
    · obtain ⟨m, hm, rfl⟩ := Option.map_eq_some_iff.mp h
      obtain ⟨body, rest, hbody, rfl, rfl⟩ := ih hm
      refine ⟨d :: body, rest, ?_, rfl, rfl⟩
      rw [List.mem_cons, not_or]
      exact ⟨fun h => hquote h.symm, hbody⟩
    · exact hquote

lemma commentSize?_append {body : List Char} (h : ¬ ['*', '/'] <:+: body) (rest : List Char) :
    commentSize? (body ++ '*' :: '/' :: rest) = some (body.length + 2) := by
  induction body with
  | nil => rfl
  | cons c cs ih =>
    rw [List.infix_cons_iff, not_or] at h
    rw [List.cons_append, commentSize?, ih h.2]
    · rfl
    · -- An end before this one would stand in the comment itself.
      rintro ds rfl hds
      cases cs with
      | nil => cases hds
      | cons d cs =>
        cases hds
        exact h.1 ⟨cs, rfl⟩

lemma exists_comment (h : commentSize? cs = some n) :
    ∃ body rest, ¬ ['*', '/'] <:+: body ∧ cs = body ++ '*' :: '/' :: rest ∧
      n = body.length + 2 := by
  induction cs using commentSize?.induct generalizing n with
  | case1 => cases h
  | case2 cs =>
    cases h
    exact ⟨[], cs, by decide, rfl, rfl⟩
  | case3 d cs hend ih =>
    rw [commentSize?] at h
    · obtain ⟨m, hm, rfl⟩ := Option.map_eq_some_iff.mp h
      obtain ⟨body, rest, hbody, rfl, rfl⟩ := ih hm
      refine ⟨d :: body, rest, ?_, rfl, rfl⟩
      rw [List.infix_cons_iff, not_or]
      refine ⟨?_, hbody⟩
      rintro ⟨es, heq⟩
      cases heq
      exact hend _ rfl rfl
    · exact hend

lemma not_infix_of_commentSize? (h : commentSize? cs = none) : ¬ ['*', '/'] <:+: cs := by
  induction cs using commentSize?.induct with
  | case1 => decide
  | case2 cs => cases h
  | case3 d cs hend ih =>
    rw [commentSize?] at h
    · rw [List.infix_cons_iff, not_or]
      refine ⟨?_, ih (Option.map_eq_none_iff.mp h)⟩
      rintro ⟨es, heq⟩
      cases heq
      exact hend _ rfl rfl
    · exact hend

lemma mem_of_rawSize? (h : rawSize? cs = none) : '\x60' ∉ cs := by
  intro hmem
  obtain ⟨before, after, rfl, hbefore⟩ := List.eq_append_cons_of_mem hmem
  rw [rawSize?_append hbefore] at h
  cases h

lemma lineSize_append {body : List Char} (hbody : '\n' ∉ body)
    (hrest : ∀ c ∈ rest.head?, c = '\n') : lineSize (body ++ rest) = body.length := by
  have hall : ∀ c ∈ body, (c != '\n') = true := fun c hc =>
    bne_iff_ne.mpr (ne_of_mem_of_not_mem hc hbody)
  rw [lineSize, takeWhile_append_of_head hall fun c hc => by simp [hrest c hc]]

/-! ## The head of a text -/

/-- What is found at the head of a text when a chunk stands there. -/
def Scan.ofChunk (kind? : Option Kind) (more : Nat) : Scan :=
  kind?.elim (.gap more) (.lexeme · more)

/-- A chunk that stands at the head of a text is found. -/
theorem scan_of_stands {kind? : Option Kind} {text : List Char} (h : Stands kind? text rest) :
    ∃ c cs, text = c :: cs ∧ scan c (cs ++ rest) = .ofChunk kind? cs.length := by
  cases h with
  | space hne hbs hrest =>
    obtain ⟨c, cs, rfl⟩ := List.exists_cons_of_ne_nil hne
    rw [List.forall_mem_cons] at hbs
    refine ⟨c, cs, rfl, ?_⟩
    rw [scan_space hbs.1, takeWhile_append_of_head hbs.2 hrest]
    rfl
  | continuation hmark =>
    simp only [List.mem_cons, List.not_mem_nil, or_false] at hmark
    rcases hmark with rfl | rfl <;> exact ⟨_, _, rfl, rfl⟩
  | @lineComment mark body _ hmark hbody hrest =>
    have hsize := lineSize_append hbody hrest
    simp only [List.mem_cons, List.not_mem_nil, or_false] at hmark
    rcases hmark with rfl | rfl | rfl
    · refine ⟨'/', '/' :: body, rfl, ?_⟩
      change Scan.gap (lineSize ('/' :: body ++ rest)) = _
      rw [lineSize_append (by simp [hbody]) hrest]
      rfl
    · refine ⟨'-', '-' :: body, rfl, ?_⟩
      change Scan.gap (lineSize ('-' :: body ++ rest)) = _
      rw [lineSize_append (by simp [hbody]) hrest]
      rfl
    · exact ⟨'#', body, rfl, congrArg Scan.gap hsize⟩
  | @blockComment body _ hbody =>
    refine ⟨'/', '*' :: (body ++ ['*', '/']), rfl, ?_⟩
    rw [List.cons_append, List.append_assoc, scan]
    simp [commentSize?_append hbody, Scan.ofChunk]
  | @quoted body _ hbody =>
    refine ⟨'"', body ++ ['"'], rfl, ?_⟩
    change ended .quoted (quotedSize? (body ++ ['"'] ++ rest)) = _
    rw [List.append_assoc, List.singleton_append, quotedSize?_append hbody]
    simp [ended, Scan.ofChunk]
  | @raw body _ hbody =>
    refine ⟨'\x60', body ++ ['\x60'], rfl, ?_⟩
    change ended .raw (rawSize? (body ++ ['\x60'] ++ rest)) = _
    rw [List.append_assoc, List.singleton_append, rawSize?_append hbody]
    simp [ended, Scan.ofChunk]
  | ending hc => rcases hc with rfl | rfl <;> exact ⟨_, [], rfl, rfl⟩
  | opening => exact ⟨'{', [], rfl, rfl⟩
  | closing => exact ⟨'}', [], rfl, rfl⟩
  | equals => exact ⟨'=', [], rfl, rfl⟩
  | word hne hw hgap hrest =>
    obtain ⟨c, cs, rfl⟩ := List.exists_cons_of_ne_nil hne
    rw [List.forall_mem_cons] at hw
    exact ⟨c, cs, rfl, scan_of_word hw.1 hw.2 hgap hrest⟩

/-- A character with which no chunk begins is found. -/
lemma scan_unexpected (hblank : Text.isBlank c = true) (hspace : isSpace c = false)
    (hnewline : c ≠ '\n') : scan c cs = .fault (.unexpected c) := by
  have hne : ∀ d : Char, Text.isBlank d = false → c ≠ d := by
    rintro d hd rfl
    rw [hblank] at hd
    cases hd
  have hword : isWordChar c = false := by
    rw [isWordChar, hblank]
    rfl
  have hmark : scanMark c cs = .fault (.unexpected c) := by
    unfold scanMark
    simp [hnewline, hne ';' (by decide), hne '{' (by decide), hne '}' (by decide),
      hne '=' (by decide), hword]
  unfold scan
  split <;> first | exact absurd rfl (hne _ (by decide)) | skip
  rw [hspace, hmark]
  rfl

/-- What offends at the head of a text is found. -/
theorem scan_of_offends {because : Nat → Fault} {text : List Char} (h : Offends because text) :
    ∃ c cs, text = c :: cs ∧ scan c cs = .fault because := by
  cases h with
  | @comment cs h =>
    refine ⟨'/', '*' :: cs, rfl, ?_⟩
    rw [scan]
    cases hsize : commentSize? cs with
    | none => rfl
    | some n =>
      obtain ⟨body, rest, -, rfl, -⟩ := exists_comment hsize
      exact absurd ⟨body, rest, by simp⟩ h
  | @quoted cs h =>
    refine ⟨'"', cs, rfl, ?_⟩
    change ended .quoted (quotedSize? cs) = _
    cases hsize : quotedSize? cs with
    | none => rfl
    | some n =>
      obtain ⟨body, rest, hbody, hcs, -⟩ := exists_quotable hsize
      exact absurd hcs (h body rest hbody)
  | @raw cs h =>
    refine ⟨'\x60', cs, rfl, ?_⟩
    change ended .raw (rawSize? cs) = _
    cases hsize : rawSize? cs with
    | none => rfl
    | some n =>
      obtain ⟨body, rest, -, rfl, -⟩ := exists_raw hsize
      exact absurd (by simp) h
  | unexpected hblank hspace hnewline => exact ⟨_, _, rfl, scan_unexpected hblank hspace hnewline⟩

/-- What is found at the head of a text stands there. -/
def Scan.Right (c : Char) (cs : List Char) : Scan → Prop
  | .gap more => ∃ text rest, cs = text ++ rest ∧ more = text.length ∧ Stands none (c :: text) rest
  | .lexeme kind more =>
    ∃ text rest, cs = text ++ rest ∧ more = text.length ∧ Stands (some kind) (c :: text) rest
  | .fault because => Offends because (c :: cs)

lemma takeWhile_stops (p : Char → Bool) (cs : List Char) :
    ∀ d ∈ (cs.dropWhile p).head?, p d = false := by
  intro d hd
  have hdrop := List.head?_dropWhile_not p cs
  rw [Option.mem_def.mp hd] at hdrop
  simpa using hdrop

/-- A comment goes on to the end of its line. -/
lemma right_lineComment (mark : String) (hmark : mark ∈ ["//", "--", "#"]) (more : List Char)
    (hcons : mark.toList = c :: more) (cs : List Char) :
    (Scan.gap (lineSize (more ++ cs))).Right c (more ++ cs) := by
  have hmore : '\n' ∉ more := by
    simp only [List.mem_cons, List.not_mem_nil, or_false] at hmark
    rcases hmark with rfl | rfl | rfl <;> cases hcons <;> decide
  have hbody : '\n' ∉ cs.takeWhile (· != '\n') := by
    intro hmem
    cases List.mem_takeWhile_imp hmem
  have hrest : ∀ d ∈ (cs.dropWhile (· != '\n')).head?, d = '\n' := by
    intro d hd
    simpa using takeWhile_stops _ cs d hd
  have hstands := Stands.lineComment hmark hbody hrest
  rw [hcons, List.cons_append] at hstands
  refine ⟨_, _, ?_, ?_, hstands⟩
  · rw [List.append_assoc, List.takeWhile_append_dropWhile]
  · have hsplit : more ++ cs =
        (more ++ cs.takeWhile (· != '\n')) ++ cs.dropWhile (· != '\n') := by
      rw [List.append_assoc, List.takeWhile_append_dropWhile]
    rw [hsplit, lineSize_append (by simp [hmore, hbody]) hrest]

lemma right_scanMark (hspace : isSpace c = false)
    (hquote : c ≠ '"' ∧ c ≠ '\x60')
    (hgap : ∀ start ∈ gapStarts, ¬ start.toList <+: c :: cs) :
    (scanMark c cs).Right c cs := by
  unfold scanMark
  simp only [Bool.or_eq_true, decide_eq_true_eq]
  split_ifs with hending hopening hclosing hequals hword
  · exact ⟨[], cs, rfl, rfl, .ending hending⟩
  · subst hopening
    exact ⟨[], cs, rfl, rfl, .opening⟩
  · subst hclosing
    exact ⟨[], cs, rfl, rfl, .closing⟩
  · subst hequals
    exact ⟨[], cs, rfl, rfl, .equals⟩
  · refine ⟨cs.takeWhile isWordChar, cs.dropWhile isWordChar,
      (List.takeWhile_append_dropWhile).symm, rfl, .word (List.cons_ne_nil _ _) ?_ ?_
        (takeWhile_stops isWordChar cs)⟩
    · rw [List.forall_mem_cons]
      exact ⟨hword, fun d hd => List.mem_takeWhile_imp hd⟩
    · rwa [List.cons_append, List.takeWhile_append_dropWhile]
  · have hblank : Text.isBlank c = true := by
      rw [not_or] at hending
      simpa [isWordChar, hending, hopening, hclosing, hequals, hquote] using hword
    exact .unexpected hblank hspace (not_or.mp hending).1

theorem right_scan (c : Char) (cs : List Char) : (scan c cs).Right c cs := by
  unfold scan
  split
  · exact ⟨['\n'], _, rfl, rfl, @Stands.continuation "\\\n" _ (by decide)⟩
  · exact ⟨['\r', '\n'], _, rfl, rfl, @Stands.continuation "\\\r\n" _ (by decide)⟩
  · exact right_lineComment "//" (by decide) ['/'] rfl _
  · exact right_lineComment "--" (by decide) ['-'] rfl _
  · exact right_lineComment "#" (by decide) [] rfl _
  · rename_i cs
    cases hsize : commentSize? cs with
    | none => exact Offends.comment (not_infix_of_commentSize? hsize)
    | some n =>
      obtain ⟨body, rest, hbody, rfl, rfl⟩ := exists_comment hsize
      exact ⟨'*' :: (body ++ ['*', '/']), rest, by simp, by simp, .blockComment hbody⟩
  · cases hsize : quotedSize? cs with
    | none =>
      refine .quoted fun body rest hbody hcs => ?_
      rw [hcs, quotedSize?_append hbody] at hsize
      cases hsize
    | some n =>
      obtain ⟨body, rest, hbody, rfl, rfl⟩ := exists_quotable hsize
      exact ⟨body ++ ['"'], rest, by simp, by simp, .quoted hbody⟩
  · cases hsize : rawSize? cs with
    | none => exact .raw (mem_of_rawSize? hsize)
    | some n =>
      obtain ⟨body, rest, hbody, rfl, rfl⟩ := exists_raw hsize
      exact ⟨body ++ ['\x60'], rest, by simp, by simp, .raw hbody⟩
  · rename_i hhash hquote hraw hnewline hreturn hslash hhyphen hstar
    split
    · rename_i hspace
      refine ⟨cs.takeWhile isSpace, cs.dropWhile isSpace,
        (List.takeWhile_append_dropWhile).symm, rfl, .space (List.cons_ne_nil _ _) ?_
          (takeWhile_stops isSpace cs)⟩
      rw [List.forall_mem_cons]
      exact ⟨hspace, fun d hd => List.mem_takeWhile_imp hd⟩
    · rename_i hspace
      refine right_scanMark (Bool.eq_false_iff.mpr hspace) ⟨hquote, hraw⟩ ?_
      rintro start hstart ⟨ds, heq⟩
      simp only [gapStarts, List.mem_cons, List.not_mem_nil, or_false] at hstart
      rcases hstart with rfl | rfl | rfl | rfl | rfl | rfl <;> injection heq with hc hcs <;>
        subst hc
      · exact hslash _ rfl hcs.symm
      · exact hhyphen _ rfl hcs.symm
      · exact hhash rfl
      · exact hstar _ rfl hcs.symm
      · exact hnewline _ rfl hcs.symm
      · exact hreturn _ rfl hcs.symm

/-! ## The one way to cut a text -/

variable {kind? kind'? : Option Kind} {text text' rest' : List Char}
  {because because' : Nat → Fault}

lemma Stands.ne_nil (h : Stands kind? text rest) : text ≠ [] := by
  obtain ⟨c, cs, rfl, -⟩ := scan_of_stands h
  exact List.cons_ne_nil c cs

lemma Offends.ne_nil (h : Offends because text) : text ≠ [] := by
  obtain ⟨c, cs, rfl, -⟩ := scan_of_offends h
  exact List.cons_ne_nil c cs

lemma Scan.ofChunk_injective {m : Nat} (h : ofChunk kind? n = ofChunk kind'? m) :
    kind? = kind'? ∧ n = m := by
  cases kind? <;> cases kind'? <;> cases h <;> exact ⟨rfl, rfl⟩

lemma Stands.unique (h : Stands kind? text rest) (h' : Stands kind'? text' rest')
    (heq : text ++ rest = text' ++ rest') : kind? = kind'? ∧ text = text' ∧ rest = rest' := by
  obtain ⟨c, cs, rfl, hscan⟩ := scan_of_stands h
  obtain ⟨c', cs', rfl, hscan'⟩ := scan_of_stands h'
  rw [List.cons_append, List.cons_append, List.cons.injEq] at heq
  obtain ⟨rfl, heq⟩ := heq
  rw [heq, hscan'] at hscan
  obtain ⟨hkind, hlength⟩ := Scan.ofChunk_injective hscan
  obtain ⟨rfl, rfl⟩ := List.append_inj heq hlength.symm
  exact ⟨hkind.symm, rfl, rfl⟩

lemma Stands.not_offends (h : Stands kind? text rest) : ¬ Offends because (text ++ rest) := by
  intro hoffends
  obtain ⟨c, cs, rfl, hscan⟩ := scan_of_stands h
  obtain ⟨c', cs', heq, hfault⟩ := scan_of_offends hoffends
  rw [List.cons_append] at heq
  cases heq
  rw [hscan] at hfault
  cases kind? <;> cases hfault

lemma Offends.unique (h : Offends because text) (h' : Offends because' text) :
    because = because' := by
  obtain ⟨c, cs, rfl, hscan⟩ := scan_of_offends h
  obtain ⟨c', cs', heq, hscan'⟩ := scan_of_offends h'
  cases heq
  rw [hscan] at hscan'
  cases hscan'
  rfl

lemma stands_or_offends (c : Char) (cs : List Char) :
    (∃ kind? text rest, c :: cs = text ++ rest ∧ Stands kind? text rest) ∨
      ∃ because, Offends because (c :: cs) := by
  have hright := right_scan c cs
  cases hscan : scan c cs with
  | gap more =>
    rw [hscan] at hright
    obtain ⟨text, rest, rfl, -, h⟩ := hright
    exact Or.inl ⟨_, _, _, rfl, h⟩
  | lexeme kind more =>
    rw [hscan] at hright
    obtain ⟨text, rest, rfl, -, h⟩ := hright
    exact Or.inl ⟨_, _, _, rfl, h⟩
  | fault because =>
    rw [hscan] at hright
    exact Or.inr ⟨because, hright⟩

/-- Every text can be cut, because each chunk takes something away from it. -/
theorem exists_cut (text : List Char) : ∃ chunks left, Cut text chunks left := by
  induction hlength : text.length using Nat.strong_induction_on generalizing text with
  | _ n ih =>
    cases text with
    | nil => exact ⟨[], [], .stop (Or.inl rfl)⟩
    | cons c cs =>
      rcases stands_or_offends c cs with ⟨kind?, text, rest, heq, hstands⟩ | hoffends
      · have hpos : 0 < text.length := List.length_pos_iff.mpr hstands.ne_nil
        have hless : rest.length < n := by
          rw [← hlength, heq, List.length_append]
          omega
        obtain ⟨chunks, left, hcut⟩ := ih rest.length hless rest rfl
        rw [heq]
        exact ⟨_, left, .step hstands hcut⟩
      · exact ⟨[], _, .stop (Or.inr hoffends)⟩

variable {chunks chunks' : List Chunk} {left left' : List Char}

lemma Stands.not_stop (h : Stands kind? text rest) :
    ¬ (text ++ rest = [] ∨ ∃ because, Offends because (text ++ rest)) := by
  rintro (heq | ⟨because, hoffends⟩)
  · exact h.ne_nil (List.append_eq_nil_iff.mp heq).1
  · exact h.not_offends hoffends

/-- A text is cut in one way only. -/
theorem Cut.unique (h : Cut text chunks left) (h' : Cut text chunks' left') :
    chunks = chunks' ∧ left = left' := by
  induction h generalizing chunks' with
  | stop hstop =>
    cases h' with
    | stop _ => exact ⟨rfl, rfl⟩
    | step hstands _ => exact absurd hstop hstands.not_stop
  | @step kind? text rest chunks left hstands _ ih =>
    generalize htext : text ++ rest = whole at h'
    cases h' with
    | stop hstop => exact absurd (htext ▸ hstop) hstands.not_stop
    | step hstands' hrest' =>
      obtain ⟨rfl, rfl, rfl⟩ := hstands.unique hstands' htext
      obtain ⟨rfl, rfl⟩ := ih hrest'
      exact ⟨rfl, rfl⟩

/-- The lexemes of a text are the chunks that are not dropped, and the fault comes after them. -/
theorem lexemes_of_cut (h : Cut text chunks left) (line : Nat) :
    (lexemes line text).1 = kept line chunks ∧
      (left = [] ∧ (lexemes line text).2 = none ∨
        ∃ because, Offends because left ∧
          (lexemes line text).2 = some (because (line + (textOf chunks).count '\n'))) := by
  induction h generalizing line with
  | @stop left hstop =>
    rcases hstop with rfl | ⟨because, hoffends⟩
    · rw [lexemes]
      exact ⟨rfl, Or.inl ⟨rfl, rfl⟩⟩
    · obtain ⟨c, cs, rfl, hscan⟩ := scan_of_offends hoffends
      rw [lexemes, hscan]
      exact ⟨rfl, Or.inr ⟨because, hoffends, rfl⟩⟩
  | @step kind? text rest chunks left hstands _ ih =>
    obtain ⟨c, cs, rfl, hscan⟩ := scan_of_stands hstands
    have hcount : line + (textOf (⟨kind?, c :: cs⟩ :: chunks)).count '\n' =
        line + (c :: cs).count '\n' + (textOf chunks).count '\n' := by
      rw [textOf, List.flatMap_cons, List.count_append, Nat.add_assoc]
      rfl
    obtain ⟨hkept, hfault⟩ := ih (line + (c :: cs).count '\n')
    rw [hcount]
    cases kind? with
    | none =>
      rw [List.cons_append, lexemes_of_gap hscan, List.take_left, List.drop_left]
      exact ⟨hkept, hfault⟩
    | some kind =>
      rw [List.cons_append, lexemes_of_lexeme hscan, List.take_left, List.drop_left]
      exact ⟨congrArg (_ :: ·) hkept, hfault⟩

end DubCheck.Sdl
