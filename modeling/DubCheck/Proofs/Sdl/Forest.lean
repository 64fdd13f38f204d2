import DubCheck.Proofs.Document.Members
import DubCheck.Proofs.Sdl.Cut
/-!
# Writing tag documents

A `Forest` is what a tag document says: one statement after another, each with a name, values and
attributes, and some of them with a block of further statements.  `Forest.Writes` relates it to all
the texts that say it.  A text between double quotes may have escapes in it, a text without
backquotes may also stand between these, statements end with a newline or a semicolon, and there
may be any blanks and empty lines in front of a statement and at the end of a block.

* `Forest.tags`: the tags of a forest, from the top and in the order in which they begin.
* `Head.Writes.resume_ended`, `Head.Writes.resume_opened`: a written statement is read as its tag.
* `readTags_of_writes`: a written forest is read as its tags.
-/

namespace DubCheck.Sdl

/-! ## Forests -/

/-- A word can be written as it is: it is not empty, has no blanks and no marks in it, and does not
begin like a comment or with a backslash. -/
structure IsWord (w : String) : Prop where
  nonempty : w ≠ ""
  chars : ∀ c ∈ w.toList, Text.isBlank c = false ∧ c ∉ ['{', '}', ';', '"', '=', '\x60']
  start : ∀ mark ∈ ["//", "--", "#", "/*", "\\"], ¬ mark.toList <+: w.toList

/-- What a statement says, its block apart.  Without a name there must be a value to begin with. -/
structure Head where
  name : String
  values : List String := []
  attributes : List (String × String) := []
  named : IsWord name ∨ name = "" ∧ values ≠ []
  keys : ∀ a ∈ attributes, IsWord a.1
  distinct : (attributes.map (·.1)).Nodup

/-- A statement may be without attributes. -/
lemma Head.keys_nil : ∀ a ∈ ([] : List (String × String)), IsWord a.1 :=
  List.forall_mem_nil _

/-- One statement after another. -/
inductive Forest where
  /-- No statement. -/
  | nil
  /-- A statement without a block. -/
  | leaf (head : Head) (rest : Forest)
  /-- A statement with a block. -/
  | block (head : Head) (inner rest : Forest)

/-- The tag of a statement inside the tags with the given names. -/
def Head.tag (h : Head) (parents : List String) : Tag :=
  ⟨h.name, h.values, h.attributes, parents⟩

/-- The tags of the statements inside the tags with the given names, in the order in which they
begin. -/
def Forest.tags (parents : List String) : Forest → List Tag
  | nil => []
  | leaf h rest => h.tag parents :: rest.tags parents
  | block h inner rest => h.tag parents :: (inner.tags (parents ++ [h.name]) ++ rest.tags parents)

/-! ## The ways of writing a forest -/

/-- The characters that may be escaped, with the letters that follow the backslash. -/
def escapes : List (Char × Char) :=
  [('\\', '\\'), ('"', '"'), ('\n', 'n'), ('\t', 't'), ('\r', 'r')]

/-- A text and its written form between double quotes.  Backslashes, quotes and newlines have to be
escaped. -/
inductive Escaped : List Char → List Char → Prop where
  | nil : Escaped [] []
  | plain {c : Char} {cs ws : List Char} (hc : c ∉ ['\\', '"', '\n']) (rest : Escaped cs ws) :
    Escaped (c :: cs) (c :: ws)
  | escape {c e : Char} {cs ws : List Char} (he : (c, e) ∈ escapes) (rest : Escaped cs ws) :
    Escaped (c :: cs) ('\\' :: e :: ws)

/-- A text and its written form, quotes included. -/
inductive WritesText (s : String) : List Char → Prop where
  | quoted {ws : List Char} (h : Escaped s.toList ws) : WritesText s ('"' :: ws ++ ['"'])
  | raw (h : '\x60' ∉ s.toList) : WritesText s ('\x60' :: s.toList ++ ['\x60'])

/-- A value under a key and its written form. -/
inductive WritesAttribute (a : String × String) : List Char → Prop where
  | mk {ws : List Char} (h : WritesText a.2 ws) : WritesAttribute a (a.1.toList ++ '=' :: ws)

/-- A statement and its written form: its name if it has one, its values and its attributes, with a
space between any two of them. -/
inductive Head.Writes (h : Head) : List Char → Prop where
  | named {vs as : List (List Char)} (hname : IsWord h.name)
    (hvs : List.Forall₂ WritesText h.values vs)
    (has : List.Forall₂ WritesAttribute h.attributes as) :
    Head.Writes h (h.name.toList ++ (vs ++ as).flatMap (' ' :: ·))
  | anonymous {v : List Char} {vs as : List (List Char)} (hname : h.name = "")
    (hvs : List.Forall₂ WritesText h.values (v :: vs))
    (has : List.Forall₂ WritesAttribute h.attributes as) :
    Head.Writes h (v ++ (vs ++ as).flatMap (' ' :: ·))

/-- A forest and its written form. -/
inductive Forest.Writes : Forest → List Char → Prop where
  | nil : Writes .nil []
  | gap {f : Forest} {c : Char} {t : List Char} (hc : c ∈ [' ', '\t', '\n']) (ht : Writes f t) :
    Writes f (c :: t)
  | leaf {h : Head} {rest : Forest} {e : Char} {w t : List Char} (hw : h.Writes w)
    (he : e ∈ ['\n', ';']) (ht : Writes rest t) : Writes (.leaf h rest) (w ++ e :: t)
  | block {h : Head} {inner rest : Forest} {e : Char} {w s t : List Char} (hw : h.Writes w)
    (hs : Writes inner s) (he : e ∈ ['\n', ';']) (ht : Writes rest t) :
    Writes (.block h inner rest) (w ++ ' ' :: '{' :: (s ++ '}' :: e :: t))

/-! ## Texts -/

lemma escapedChar_of_escapes {c e : Char} (h : (c, e) ∈ escapes) :
    escapedChar e = c ∧ e ≠ '\n' := by
  simp only [escapes, List.mem_cons, Prod.mk.injEq, List.not_mem_nil, or_false] at h
  rcases h with ⟨rfl, rfl⟩ | ⟨rfl, rfl⟩ | ⟨rfl, rfl⟩ | ⟨rfl, rfl⟩ | ⟨rfl, rfl⟩ <;> decide

lemma unescape_of_escaped {cs ws : List Char} (h : Escaped cs ws) : unescape ws = cs := by
  induction h with
  | nil => rfl
  | @plain c cs ws hc _ ih =>
    have hne : c ≠ '\\' := fun h => hc (by simp [h])
    rw [unescape, ih]
    exact fun _ _ h _ => hne h
  | @escape c e cs ws he _ ih =>
    obtain ⟨hchar, hne⟩ := escapedChar_of_escapes he
    rw [unescape, if_neg hne, hchar, ih]
    rfl

/-- The written form of a text may stand between double quotes. -/
lemma Escaped.quotable {cs ws : List Char} (h : Escaped cs ws) : Quotable ws := by
  induction h with
  | nil => exact .nil
  | @plain c cs ws hc _ ih =>
    refine .plain ?_ ih
    simp only [List.mem_cons, List.not_mem_nil, or_false, not_or] at hc ⊢
    exact ⟨hc.2.1, hc.1, hc.2.2⟩
  | @escape c e cs ws _ _ ih => exact .escape e ih

/-- The lexeme is a text with the given value. -/
def Lexeme.Means (l : Lexeme) (s : String) : Prop :=
  (l.kind = .quoted ∨ l.kind = .raw) ∧ l.value = s

section Resume

variable (opened : List String) (statement : List Lexeme) (line : Nat)

lemma WritesText.resume {s : String} {ws : List Char} (h : WritesText s ws) (rest : List Char) :
    ∃ l line', l.Means s ∧
      resume opened statement line (ws ++ rest) = resume opened (l :: statement) line' rest := by
  cases h with
  | @quoted ws h =>
    have hscan : scan '"' ((ws ++ ['"']) ++ rest) = .lexeme .quoted (ws ++ ['"']).length := by
      change ended .quoted (quotedSize? (ws ++ ['"'] ++ rest)) = _
      rw [List.append_assoc, List.singleton_append, quotedSize?_append h.quotable]
      simp [ended]
    obtain ⟨line', hresume⟩ := resume_part opened statement line hscan (by decide)
    refine ⟨_, line', ⟨Or.inl rfl, ?_⟩, hresume⟩
    simp [Lexeme.value, unescape_of_escaped h]
  | raw h =>
    have hscan : scan '\x60' ((s.toList ++ ['\x60']) ++ rest) =
        .lexeme .raw (s.toList ++ ['\x60']).length := by
      change ended .raw (rawSize? (s.toList ++ ['\x60'] ++ rest)) = _
      rw [List.append_assoc, List.singleton_append, rawSize?_append h]
      simp [ended]
    obtain ⟨line', hresume⟩ := resume_part opened statement line hscan (by decide)
    refine ⟨_, line', ⟨Or.inr rfl, ?_⟩, hresume⟩
    simp [Lexeme.value]

/-! ## Words -/

lemma IsWord.isWordChar {w : String} (h : IsWord w) : ∀ c ∈ w.toList, isWordChar c = true := by
  intro c hc
  obtain ⟨hblank, hmark⟩ := h.chars c hc
  simp only [List.mem_cons, List.not_mem_nil, or_false, not_or] at hmark
  simp [Sdl.isWordChar, hblank, hmark]

lemma IsWord.resume {w : String} {rest : List Char} (h : IsWord w)
    (hrest : ∀ d ∈ rest.head?, Sdl.isWordChar d = false) :
    ∃ l line', l.kind = .word ∧ l.text = w.toList ∧
      resume opened statement line (w.toList ++ rest) =
        resume opened (l :: statement) line' rest := by
  have hchars := h.isWordChar
  have hstart := h.start
  cases hw : w.toList with
  | nil => exact absurd (String.toList_eq_nil_iff.mp hw) h.nonempty
  | cons c cs =>
    rw [hw] at hchars hstart
    have hscan := scan_word (hchars c List.mem_cons_self)
      (fun d hd => hchars d (List.mem_cons_of_mem c hd)) hstart hrest
    obtain ⟨line', hresume⟩ := resume_part opened statement line hscan (by decide)
    exact ⟨_, line', rfl, rfl, hresume⟩

end Resume

/-! ## Statements -/

/-- The lexemes are the attributes, each a key, the mark `=` and a value. -/
inductive MeanAttributes : List (String × String) → List Lexeme → Prop where
  | nil : MeanAttributes [] []
  | cons {a : String × String} {as : List (String × String)} {k e v : Lexeme} {ls : List Lexeme}
    (hk : k.kind = .word) (hkey : String.ofList k.text = a.1) (he : e.kind = .equals)
    (hv : v.Means a.2) (rest : MeanAttributes as ls) : MeanAttributes (a :: as) (k :: e :: v :: ls)

/-- A lexeme that is not followed by the mark `=` is a part on its own. -/
lemma partsOf_cons {l : Lexeme} {ls : List Lexeme} (h : ∀ m ∈ ls.head?, m.kind ≠ .equals) :
    partsOf (l :: ls) = l.part?.toList ++ partsOf ls := by
  match ls, h with
  | [], _ => rfl
  | [_], _ => rfl
  | m :: _ :: _, h => rw [partsOf, if_neg (h m rfl)]

lemma partsOf_attributes {as : List (String × String)} {ls : List Lexeme}
    (h : MeanAttributes as ls) : partsOf ls = as.map fun a => .attribute a.1 a.2 := by
  induction h with
  | nil => rfl
  | cons hk hkey he hv _ ih => rw [partsOf, if_pos he, hkey, hv.2, ih, List.map_cons]

lemma Lexeme.Means.part? {l : Lexeme} {s : String} (h : l.Means s) : l.part? = some (.value s) := by
  obtain ⟨hkind, hvalue⟩ := h
  have hne : l.kind ≠ .equals := by
    rcases hkind with hkind | hkind <;> rw [hkind] <;> decide
  rw [Lexeme.part?, if_neg hne, hvalue]

/-- A value is not taken for the key of what follows it. -/
lemma partsOf_values {values : List String} {vs ls : List Lexeme}
    {as : List (String × String)} (hvs : List.Forall₂ (fun s l => Lexeme.Means l s) values vs)
    (has : MeanAttributes as ls) :
    partsOf (vs ++ ls) = values.map .value ++ as.map fun a => .attribute a.1 a.2 := by
  induction hvs with
  | nil => exact partsOf_attributes has
  | @cons s l values vs hl hvs ih =>
    have hnext : ∀ m ∈ (vs ++ ls).head?, m.kind ≠ .equals := by
      intro m hm
      cases hvs with
      | nil =>
        cases has with
        | nil => cases hm
        | cons hk _ _ _ _ =>
          cases hm
          rw [hk]
          decide
      | cons hl' _ =>
        cases hm
        rcases hl'.1 with hkind | hkind <;> rw [hkind] <;> decide
    rw [List.cons_append, partsOf_cons hnext, hl.part?, ih]
    rfl

/-- The lexemes are those of a statement: its name if it has one, its values and attributes. -/
inductive Head.MeantBy (h : Head) : List Lexeme → Prop where
  | named {n : Lexeme} {vs ls : List Lexeme} (hn : n.kind = .word) (hname : n.text = h.name.toList)
    (hvs : List.Forall₂ (fun s l => Lexeme.Means l s) h.values vs)
    (has : MeanAttributes h.attributes ls) : Head.MeantBy h (n :: (vs ++ ls))
  | anonymous {vs ls : List Lexeme} (hname : h.name = "")
    (hvs : List.Forall₂ (fun s l => Lexeme.Means l s) h.values vs)
    (has : MeanAttributes h.attributes ls) (hne : h.values ≠ []) : Head.MeantBy h (vs ++ ls)

lemma Head.MeantBy.ofStatement? {h : Head} {ls : List Lexeme} (hls : h.MeantBy ls)
    (opened : List String) : Tag.ofStatement? opened ls = some (h.tag opened.reverse) := by
  have hcollect : collect h.attributes = h.attributes :=
    foldl_insertPair (by simpa using h.distinct)
  cases hls with
  | named hn hname hvs has =>
    simp [Tag.ofStatement?, hn, hname, partsOf_values hvs has, List.filterMap_map, Part.value?,
      Part.attribute?, hcollect, Head.tag]
  | @anonymous vs ls hname hvs has hne =>
    obtain ⟨l, hl, hfirst⟩ : ∃ l, (vs ++ ls).head? = some l ∧ l.kind ≠ .word := by
      generalize h.values = values at hvs hne
      cases hvs with
      | nil => exact absurd rfl hne
      | cons hl _ =>
        refine ⟨_, rfl, ?_⟩
        rcases hl.1 with hkind | hkind <;> rw [hkind] <;> decide
    obtain ⟨ls', hls'⟩ := List.head?_eq_some_iff.mp hl
    have hparts := partsOf_values hvs has
    rw [hls'] at hparts ⊢
    simp [Tag.ofStatement?, hfirst, hparts, List.filterMap_map, Part.value?, Part.attribute?,
      hcollect, Head.tag, hname]

/-! ## Reading what has been written -/

section Resume

variable (opened : List String) (statement : List Lexeme) (line : Nat)

lemma resume_equals (rest : List Char) :
    ∃ l line', l.kind = .equals ∧ resume opened statement line ('=' :: rest) =
      resume opened (l :: statement) line' rest := by
  have hscan : scan '=' ([] ++ rest) = .lexeme .equals ([] : List Char).length := rfl
  obtain ⟨line', h⟩ := resume_part opened statement line hscan (by decide)
  exact ⟨_, line', rfl, h⟩

lemma resume_texts {values : List String} {ws : List (List Char)}
    (h : List.Forall₂ WritesText values ws) (rest : List Char) :
    ∃ ls line', List.Forall₂ (fun s l => Lexeme.Means l s) values ls ∧
      resume opened statement line (ws.flatMap (' ' :: ·) ++ rest) =
        resume opened (ls.reverse ++ statement) line' rest := by
  induction h generalizing statement line with
  | nil => exact ⟨[], line, .nil, rfl⟩
  | @cons s w values ws hw _ ih =>
    obtain ⟨l, line₁, hl, htext⟩ :=
      hw.resume opened statement line (ws.flatMap (' ' :: ·) ++ rest)
    obtain ⟨ls, line₂, hls, hrest⟩ := ih (l :: statement) line₁
    refine ⟨l :: ls, line₂, .cons hl hls, ?_⟩
    rw [List.flatMap_cons, List.cons_append, List.cons_append, List.append_assoc,
      resume_space _ _ _ rfl, htext, hrest]
    simp

lemma resume_attributes {as : List (String × String)} {ws : List (List Char)}
    (hkeys : ∀ a ∈ as, IsWord a.1) (h : List.Forall₂ WritesAttribute as ws) (rest : List Char) :
    ∃ ls line', MeanAttributes as ls ∧
      resume opened statement line (ws.flatMap (' ' :: ·) ++ rest) =
        resume opened (ls.reverse ++ statement) line' rest := by
  induction h generalizing statement line with
  | nil => exact ⟨[], line, .nil, rfl⟩
  | @cons a w as ws hw _ ih =>
    rw [List.forall_mem_cons] at hkeys
    obtain ⟨hv⟩ := hw
    rename_i v
    have hstop : ∀ d ∈ ('=' :: (v ++ (ws.flatMap (' ' :: ·) ++ rest))).head?,
        isWordChar d = false := by
      rintro d ⟨⟩
      decide
    obtain ⟨k, line₁, hk, hkey, hword⟩ := hkeys.1.resume opened statement line hstop
    obtain ⟨e, line₂, he, hequals⟩ := resume_equals opened (k :: statement) line₁
      (v ++ (ws.flatMap (' ' :: ·) ++ rest))
    obtain ⟨l, line₃, hl, htext⟩ := hv.resume opened (e :: k :: statement) line₂
      (ws.flatMap (' ' :: ·) ++ rest)
    obtain ⟨ls, line₄, hls, hrest⟩ := ih (l :: e :: k :: statement) line₃ hkeys.2
    refine ⟨k :: e :: l :: ls, line₄, .cons hk ?_ he hl hls, ?_⟩
    · rw [hkey, String.ofList_toList]
    · have hsplit : (((a.1.toList ++ '=' :: v) :: ws).flatMap (' ' :: ·)) ++ rest =
          ' ' :: (a.1.toList ++ '=' :: (v ++ (ws.flatMap (' ' :: ·) ++ rest))) := by simp
      rw [hsplit, resume_space _ _ _ rfl, hword, hequals, htext, hrest]
      simp

/-- A written statement is read as the lexemes that mean it. -/
theorem Head.Writes.resume {h : Head} {w rest : List Char} (hw : h.Writes w)
    (hrest : ∀ d ∈ rest.head?, isWordChar d = false) :
    ∃ ls line', h.MeantBy ls ∧
      resume opened [] line (w ++ rest) = Sdl.resume opened ls.reverse line' rest := by
  cases hw with
  | @named vs as hname hvs has =>
    have hstop : ∀ d ∈ ((vs ++ as).flatMap (' ' :: ·) ++ rest).head?, isWordChar d = false := by
      intro d hd
      cases hvas : vs ++ as with
      | nil =>
        rw [hvas] at hd
        exact hrest d hd
      | cons v ws =>
        rw [hvas] at hd
        cases hd
        decide
    obtain ⟨n, line₁, hn, htext, hword⟩ := hname.resume opened [] line hstop
    obtain ⟨ls, line₂, hls, hvalues⟩ := resume_texts opened [n] line₁ hvs
      (as.flatMap (' ' :: ·) ++ rest)
    obtain ⟨ls', line₃, hls', hattributes⟩ := resume_attributes opened (ls.reverse ++ [n]) line₂
      h.keys has rest
    refine ⟨n :: (ls ++ ls'), line₃, .named hn htext hls hls', ?_⟩
    rw [List.append_assoc, hword, List.flatMap_append, List.append_assoc, hvalues, hattributes]
    simp
  | @anonymous v vs as hname hvs has =>
    have hne : h.values ≠ [] := by
      intro hnil
      rw [hnil] at hvs
      cases hvs
    -- The first text stands without a space in front of it, which would be dropped.
    obtain ⟨ls, line₁, hls, hvalues⟩ := resume_texts opened [] line hvs
      (as.flatMap (' ' :: ·) ++ rest)
    obtain ⟨ls', line₂, hls', hattributes⟩ := resume_attributes opened ls.reverse line₁
      h.keys has rest
    refine ⟨ls ++ ls', line₂, .anonymous hname hls hls' hne, ?_⟩
    rw [List.flatMap_cons, List.cons_append, List.cons_append, resume_space _ _ _ rfl,
      List.append_nil] at hvalues
    rw [List.flatMap_append]
    simp only [List.append_assoc] at hvalues ⊢
    rw [hvalues, hattributes]
    simp

lemma ending_cases {e : Char} (he : e ∈ ['\n', ';']) :
    (e = '\n' ∨ e = ';') ∧ isWordChar e = false := by
  simp only [List.mem_cons, List.not_mem_nil, or_false] at he
  rcases he with rfl | rfl <;> decide

/-- A written statement that ends is read as its tag. -/
lemma Head.Writes.resume_ended {h : Head} {w : List Char} {e : Char} (hw : h.Writes w)
    (he : e ∈ ['\n', ';']) (rest : List Char) :
    ∃ line', Sdl.resume opened [] line (w ++ e :: rest) =
      (Sdl.resume opened [] line' rest).map ([h.tag opened.reverse] ++ ·) := by
  obtain ⟨hend, hstop⟩ := ending_cases he
  have hnext : ∀ d ∈ (e :: rest).head?, isWordChar d = false := by
    rintro d ⟨⟩
    exact hstop
  obtain ⟨ls, line₁, hls, hhead⟩ := hw.resume opened line hnext
  obtain ⟨line₂, hstatement⟩ := resume_ending opened ls.reverse line₁ hend rest
  refine ⟨line₂, ?_⟩
  rw [hhead, hstatement, List.reverse_reverse, hls.ofStatement?]
  rfl

/-- A written statement with a block is read as its tag, and what follows stands in the block. -/
lemma Head.Writes.resume_opened {h : Head} {w : List Char} (hw : h.Writes w) (rest : List Char) :
    ∃ line', Sdl.resume opened [] line (w ++ ' ' :: '{' :: rest) =
      (Sdl.resume (h.name :: opened) [] line' rest).map ([h.tag opened.reverse] ++ ·) := by
  have hnext : ∀ d ∈ (' ' :: '{' :: rest).head?, isWordChar d = false := by
    rintro d ⟨⟩
    decide
  obtain ⟨ls, line', hls, hhead⟩ := hw.resume opened line hnext
  refine ⟨line', ?_⟩
  rw [hhead, resume_space _ _ _ rfl, resume_opening, List.reverse_reverse, hls.ofStatement?]
  rfl

end Resume

/-- What a written forest means for the text that follows it: the tags of the forest come first. -/
theorem Forest.Writes.resume {f : Forest} {t : List Char} (ht : f.Writes t) :
    ∀ opened line rest, ∃ line', resume opened [] line (t ++ rest) =
      (Sdl.resume opened [] line' rest).map (f.tags opened.reverse ++ ·) := by
  -- The blocks around the forest, the line it begins on and the text that follows it vary, because
  -- the forest in a block has all three of its own.
  induction ht with
  | nil =>
    intro opened line rest
    refine ⟨line, ?_⟩
    cases h : Sdl.resume opened [] line rest <;> simp [h, Forest.tags, Except.map]
  | @gap f c t hc _ ih =>
    intro opened line rest
    simp only [List.mem_cons, List.not_mem_nil, or_false] at hc
    rcases hc with rfl | rfl | rfl
    · obtain ⟨line', h⟩ := ih opened line rest
      exact ⟨line', by rw [List.cons_append, resume_space _ _ _ rfl, h]⟩
    · obtain ⟨line', h⟩ := ih opened line rest
      exact ⟨line', by rw [List.cons_append, resume_space _ _ _ rfl, h]⟩
    · obtain ⟨line₁, hgap⟩ := resume_gap opened line (Or.inl rfl) (t ++ rest)
      obtain ⟨line', h⟩ := ih opened line₁ rest
      exact ⟨line', by rw [List.cons_append, hgap, h]⟩
  | @leaf h f e w t hw he _ ih =>
    intro opened line rest
    obtain ⟨line₁, hstatement⟩ := hw.resume_ended opened line he (t ++ rest)
    obtain ⟨line', hrest⟩ := ih opened line₁ rest
    refine ⟨line', ?_⟩
    rw [List.append_assoc, List.cons_append, hstatement, hrest, map_append_map]
    rfl
  | @block h inner f e w s t hw _ he _ ihs iht =>
    intro opened line rest
    obtain ⟨line₁, hstatement⟩ := hw.resume_opened opened line (s ++ '}' :: e :: (t ++ rest))
    obtain ⟨line₂, hinner⟩ := ihs (h.name :: opened) line₁ ('}' :: e :: (t ++ rest))
    obtain ⟨line₃, hgap⟩ := resume_gap opened line₂ (ending_cases he).1 (t ++ rest)
    obtain ⟨line', hrest⟩ := iht opened line₃ rest
    refine ⟨line', ?_⟩
    have hsplit : w ++ ' ' :: '{' :: (s ++ '}' :: e :: t) ++ rest =
        w ++ ' ' :: '{' :: (s ++ '}' :: e :: (t ++ rest)) := by simp
    rw [hsplit, hstatement, hinner, resume_closing, hgap, hrest, map_append_map, map_append_map,
      List.reverse_cons]
    simp [Forest.tags]

/-! ## Every forest -/

/-- A carriage return need not stand in what is written for a text, because it can be escaped. -/
lemma exists_escaped (cs : List Char) : ∃ ws, Escaped cs ws ∧ '\r' ∉ ws := by
  induction cs with
  | nil => exact ⟨[], .nil, List.not_mem_nil⟩
  | cons c cs ih =>
    obtain ⟨ws, hws, hreturn⟩ := ih
    by_cases hc : c ∈ ['\\', '"', '\n', '\r']
    · have he : ∃ e, (c, e) ∈ escapes ∧ e ≠ '\r' := by
        simp only [List.mem_cons, List.not_mem_nil, or_false] at hc
        rcases hc with rfl | rfl | rfl | rfl
        · exact ⟨'\\', by decide⟩
        · exact ⟨'"', by decide⟩
        · exact ⟨'n', by decide⟩
        · exact ⟨'r', by decide⟩
      obtain ⟨e, he, hne⟩ := he
      exact ⟨_, .escape he hws, by simp [hreturn, hne.symm]⟩
    · simp only [List.mem_cons, List.not_mem_nil, or_false, not_or] at hc
      exact ⟨_, .plain (by simp [hc]) hws, by simp [hreturn, eq_comm, hc]⟩

lemma exists_writesText (s : String) : ∃ ws, WritesText s ws ∧ '\r' ∉ ws := by
  obtain ⟨ws, hws, hreturn⟩ := exists_escaped s.toList
  exact ⟨_, .quoted hws, by simp [hreturn]⟩

lemma IsWord.return_not_mem {w : String} (h : IsWord w) : '\r' ∉ w.toList :=
  fun hmem => absurd (h.chars _ hmem).1 (by decide)

lemma exists_writesAttribute {a : String × String} (h : IsWord a.1) :
    ∃ w, WritesAttribute a w ∧ '\r' ∉ w := by
  obtain ⟨ws, hws, hreturn⟩ := exists_writesText a.2
  exact ⟨_, .mk hws, by simp [h.return_not_mem, hreturn]⟩

/-- If there is something for each of some things, there are lists of them. -/
lemma exists_forall₂ {α : Type} {r : α → List Char → Prop} {xs : List α}
    (h : ∀ x ∈ xs, ∃ w, r x w ∧ '\r' ∉ w) :
    ∃ ws, List.Forall₂ r xs ws ∧ ∀ w ∈ ws, '\r' ∉ w := by
  induction xs with
  | nil => exact ⟨[], .nil, by simp⟩
  | cons x xs ih =>
    rw [List.forall_mem_cons] at h
    obtain ⟨w, hw, hreturn⟩ := h.1
    obtain ⟨ws, hws, hreturns⟩ := ih h.2
    exact ⟨w :: ws, .cons hw hws, List.forall_mem_cons.mpr ⟨hreturn, hreturns⟩⟩

lemma Head.exists_writes (h : Head) : ∃ w, h.Writes w ∧ '\r' ∉ w := by
  obtain ⟨vs, hvs, hvalues⟩ := exists_forall₂ fun v (_ : v ∈ h.values) => exists_writesText v
  obtain ⟨as, has, hattributes⟩ := exists_forall₂ fun a ha => exists_writesAttribute (h.keys a ha)
  rcases h.named with hname | ⟨hname, hne⟩
  · refine ⟨_, .named hname hvs has, ?_⟩
    simp only [List.mem_append, List.mem_flatMap, List.mem_cons, not_or, not_exists, not_and]
    refine ⟨hname.return_not_mem, fun w hw => ⟨by decide, ?_⟩⟩
    exact hw.elim (hvalues w) (hattributes w)
  · cases vs with
    | nil => exact absurd (List.forall₂_nil_right_iff.mp hvs) hne
    | cons v vs =>
      rw [List.forall_mem_cons] at hvalues
      refine ⟨_, .anonymous hname hvs has, ?_⟩
      simp only [List.mem_append, List.mem_flatMap, List.mem_cons, not_or, not_exists, not_and]
      refine ⟨hvalues.1, fun w hw => ⟨by decide, ?_⟩⟩
      exact hw.elim (hvalues.2 w) (hattributes w)

/-- Every forest can be written without carriage returns. -/
lemma Forest.exists_writes (f : Forest) : ∃ t, f.Writes t ∧ '\r' ∉ t := by
  induction f with
  | nil => exact ⟨[], .nil, List.not_mem_nil⟩
  | leaf h rest ih =>
    obtain ⟨w, hw, hhead⟩ := h.exists_writes
    obtain ⟨t, ht, hrest⟩ := ih
    exact ⟨_, .leaf hw (by decide : '\n' ∈ ['\n', ';']) ht, by simp [hhead, hrest]⟩
  | block h inner rest ihs iht =>
    obtain ⟨w, hw, hhead⟩ := h.exists_writes
    obtain ⟨s, hs, hinner⟩ := ihs
    obtain ⟨t, ht, hrest⟩ := iht
    exact ⟨_, .block hw hs (by decide : '\n' ∈ ['\n', ';']) ht, by simp [hhead, hinner, hrest]⟩

lemma readTags_of_written {f : Forest} {text : List Char} (h : f.Writes text) :
    readTags text = .ok (f.tags []) := by
  obtain ⟨line, hresume⟩ := h.resume [] 1 []
  rw [List.append_nil, resume_nil] at hresume
  rw [readTags_eq_resume, hresume]
  simp [Except.map]

/-- **Reading a written tag document.**  Every forest can be written, and in whichever way it is
written, it is read as its tags. -/
theorem readTags_of_writes (f : Forest) :
    (∃ text, f.Writes text) ∧ ∀ text, f.Writes text → readTags text = .ok (f.tags []) := by
  obtain ⟨text, htext, -⟩ := f.exists_writes
  exact ⟨⟨text, htext⟩, fun _ h => readTags_of_written h⟩

lemma isWord_configuration : IsWord "configuration" :=
  ⟨by decide, by simp [Text.isBlank], by decide⟩

/-- A statement with an attribute. -/
def sampleOuter : Head where
  name := "configuration"
  values := ["a\"\n"]
  attributes := [("for", "b\\")]
  named := .inl isWord_configuration
  keys := by
    rintro _ (_ | ⟨_, ⟨⟩⟩)
    exact ⟨by decide, by simp [Text.isBlank], by decide⟩
  distinct := by decide

/-- A statement without a name. -/
def sampleInner : Head where
  name := ""
  values := ["c"]
  named := .inr (by decide)
  keys := Head.keys_nil
  distinct := List.nodup_nil

/-- The text is written for a statement in the block of another one. -/
theorem readTags_sample :
    (Forest.block sampleOuter (.leaf sampleInner .nil) .nil).Writes
        "configuration \"a\\\"\\n\" for=\x60b\\\x60 \x7b\n \"c\";\x7d;".toList ∧
      readTags "configuration \"a\\\"\\n\" for=\x60b\\\x60 \x7b\n \"c\";\x7d;".toList =
        .ok [⟨"configuration", ["a\"\n"], [("for", "b\\")], []⟩,
          ⟨"", ["c"], [], ["configuration"]⟩] := by
  have hvalue : WritesText "a\"\n" "\"a\\\"\\n\"".toList := by
    have h : Escaped "a\"\n".toList ['a', '\\', '"', '\\', 'n'] :=
      .plain (by decide) (.escape (by decide) (.escape (by decide) .nil))
    exact .quoted h
  have hattribute : WritesAttribute ("for", "b\\") "for=\x60b\\\x60".toList :=
    .mk (.raw (by decide))
  have hc : WritesText "c" "\"c\"".toList := by
    have h : Escaped "c".toList ['c'] := .plain (by decide) .nil
    exact .quoted h
  have houter : sampleOuter.Writes "configuration \"a\\\"\\n\" for=\x60b\\\x60".toList :=
    Head.Writes.named (h := sampleOuter) isWord_configuration (.cons hvalue .nil)
      (.cons hattribute .nil)
  have hinner : sampleInner.Writes "\"c\"".toList :=
    Head.Writes.anonymous (h := sampleInner) rfl (.cons hc .nil) .nil
  have hblock : (Forest.leaf sampleInner .nil).Writes ['\n', ' ', '"', 'c', '"', ';'] :=
    .gap (by decide) (.gap (by decide) (.leaf hinner (by decide : ';' ∈ ['\n', ';']) .nil))
  have hwrites : (Forest.block sampleOuter (.leaf sampleInner .nil) .nil).Writes
      "configuration \"a\\\"\\n\" for=\x60b\\\x60 \x7b\n \"c\";\x7d;".toList :=
    .block houter hblock (by decide : ';' ∈ ['\n', ';']) .nil
  exact ⟨hwrites, (readTags_of_writes _).2 _ hwrites⟩

end DubCheck.Sdl
