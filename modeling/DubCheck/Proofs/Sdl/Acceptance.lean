import DubCheck.Proofs.Sdl.Cut
/-!
# Which texts are tag documents

Two things can be wrong with a text: something in it is no chunk, or its braces do not match.  Both
are looked for in one pass from left to right, so that what comes first in the text is found first;
a block that is still open at the end comes last.

* `Underway`: what holds while the chunks of a text are read one by one; `Underway.step` says what
  one chunk does.
* `accepted_of_ok`, `exists_offendsAt_of_error`: what this means for a text as a whole.
* `mem_places_iff`: the statements of a text.
* `readTags_outcome`: which texts have tags, what is found wrong with the others, and in which
  blocks the tags stand.
-/

namespace DubCheck.Sdl

/-! ## Braces and statements -/

/-- How many blocks begin in some chunks. -/
def openings (chunks : List Chunk) : Nat :=
  chunks.countP (·.kind? = some .opening)

/-- How many blocks end in some chunks. -/
def closings (chunks : List Chunk) : Nat :=
  chunks.countP (·.kind? = some .closing)

/-- As many blocks end as begin, and none ends before it begins. -/
structure Balanced (chunks : List Chunk) : Prop where
  total : openings chunks = closings chunks
  ordered : ∀ before, before <+: chunks → closings before ≤ openings before

/-- A chunk that ends a statement. -/
def Chunk.isMark (c : Chunk) : Bool :=
  c.kind? = some .ending || c.kind? = some .opening || c.kind? = some .closing

/-- A statement with what stands before it: chunks between two marks, or between a mark and an end
of the text, with a lexeme among them. -/
structure StatementAt (chunks before statement : List Chunk) : Prop where
  split : ∃ after, chunks = before ++ statement ++ after ∧ ∀ c ∈ after.head?, c.isMark = true
  start : ∀ c ∈ before.getLast?, c.isMark = true
  unmarked : ∀ c ∈ statement, c.isMark = false
  nonempty : ∃ c ∈ statement, c.kind?.isSome

/-- The statement that is being read after some chunks. -/
def currentStatement (chunks : List Chunk) : List Chunk :=
  chunks.rtakeWhile (!·.isMark)

/-- The kind and the text of a chunk that is a lexeme. -/
def Chunk.token? (c : Chunk) : Option (Kind × List Char) :=
  c.kind?.map (·, c.text)

/-- The name of the tag that a statement gives: its first lexeme, if that is a word. -/
def tagName (statement : List Chunk) : String :=
  match (statement.filterMap Chunk.token?).head? with
  | some (.word, text) => String.ofList text
  | _ => ""

/-! ## What can be wrong -/

/-- Something is wrong after the chunks `before`, and this is said about it: there is no chunk, a
block ends that has not begun, or the text ends in a block.  The last block that is not followed by
its end is the one that is named. -/
inductive OffendsAt (chunks : List Chunk) (left : List Char) : List Chunk → Fault → Prop where
  | lexical {because : Nat → Fault} (h : Offends because left) :
    OffendsAt chunks left chunks (because (lineAfter chunks))
  | unopened {before after : List Chunk} {c : Chunk} (hsplit : chunks = before ++ c :: after)
    (hc : c.kind? = some .closing) (hcount : openings before ≤ closings before) :
    OffendsAt chunks left before (.unopened (lineAfter before))
  | unclosed {outer inner : List Chunk} {c : Chunk} (hleft : left = [])
    (hcount : closings chunks < openings chunks) (hsplit : chunks = outer ++ c :: inner)
    (hc : c.kind? = some .opening) (hinner : Balanced inner) :
    OffendsAt chunks left chunks (.unclosed (tagName (currentStatement outer)))

/-- The first thing that is wrong. -/
def FirstOffence (chunks : List Chunk) (left : List Char) (fault : Fault) : Prop :=
  ∃ before, OffendsAt chunks left before fault ∧
    ∀ before' fault', OffendsAt chunks left before' fault' → before.length ≤ before'.length

/-! ## Counting braces -/

variable {chunks front rest before after current inner outer : List Chunk} {c : Chunk}
  {name : String} {names opened : List String}

@[simp] lemma openings_nil : openings [] = 0 := rfl

@[simp] lemma closings_nil : closings [] = 0 := rfl

@[simp] lemma openings_append (a b : List Chunk) : openings (a ++ b) = openings a + openings b :=
  List.countP_append

@[simp] lemma closings_append (a b : List Chunk) : closings (a ++ b) = closings a + closings b :=
  List.countP_append

lemma openings_cons (c : Chunk) (cs : List Chunk) :
    openings (c :: cs) = (if c.kind? = some .opening then 1 else 0) + openings cs := by
  simp [openings, List.countP_cons, Nat.add_comm]

lemma closings_cons (c : Chunk) (cs : List Chunk) :
    closings (c :: cs) = (if c.kind? = some .closing then 1 else 0) + closings cs := by
  simp [closings, List.countP_cons, Nat.add_comm]

lemma openings_of_unmarked (h : ∀ c ∈ chunks, c.isMark = false) : openings chunks = 0 := by
  rw [openings, List.countP_eq_zero]
  intro c hc hopening
  have hmark := h c hc
  simp_all [Chunk.isMark]

lemma closings_of_unmarked (h : ∀ c ∈ chunks, c.isMark = false) : closings chunks = 0 := by
  rw [closings, List.countP_eq_zero]
  intro c hc hclosing
  have hmark := h c hc
  simp_all [Chunk.isMark]

/-- What is in front of two texts in a row is in front of the first one, or is the first one and
something in front of the second one. -/
lemma prefix_append_cases {α : Type} {xs ys zs : List α} (h : zs <+: xs ++ ys) :
    zs <+: xs ∨ ∃ ws, zs = xs ++ ws ∧ ws <+: ys := by
  obtain ⟨ts, hts⟩ := h
  rcases List.append_eq_append_iff.mp hts with ⟨as, rfl, rfl⟩ | ⟨bs, rfl, rfl⟩
  · exact Or.inl ⟨as, rfl⟩
  · exact Or.inr ⟨bs, rfl, ts, rfl⟩

namespace Balanced

lemma nil : Balanced [] :=
  ⟨rfl, fun before h => by rw [List.prefix_nil.mp h]; exact Nat.le_refl _⟩

lemma append (h : Balanced front) (h' : Balanced rest) : Balanced (front ++ rest) where
  total := by rw [openings_append, closings_append, h.total, h'.total]
  ordered := by
    intro before hbefore
    rcases prefix_append_cases hbefore with hfront | ⟨ws, rfl, hws⟩
    · exact h.ordered before hfront
    · have htotal := h.total
      have hrest := h'.ordered ws hws
      rw [openings_append, closings_append]
      omega

/-- A chunk that is no brace. -/
lemma singleton (hopening : c.kind? ≠ some .opening) (hclosing : c.kind? ≠ some .closing) :
    Balanced [c] where
  total := by simp [openings_cons, closings_cons, hopening, hclosing]
  ordered := by
    intro before hbefore
    have hle : closings before ≤ closings [c] := hbefore.sublist.countP_le
    have hzero : closings [c] = 0 := by simp [closings_cons, hclosing]
    omega

/-- A block with its braces. -/
lemma block {d : Chunk} (hc : c.kind? = some .opening) (hd : d.kind? = some .closing)
    (h : Balanced inner) : Balanced (c :: (inner ++ [d])) where
  total := by
    have htotal := h.total
    simp [openings_cons, closings_cons, hc, hd]
    omega
  ordered := by
    intro before hbefore
    cases before with
    | nil => exact Nat.le_refl _
    | cons e before =>
      obtain ⟨rfl, htail⟩ := List.cons_prefix_cons.mp hbefore
      rcases prefix_append_cases htail with hinner | ⟨ws, rfl, hws⟩
      · have hle := h.ordered before hinner
        simp [openings_cons, closings_cons, hc]
        omega
      · have hone : closings ws ≤ closings [d] := hws.sublist.countP_le
        have hd' : closings [d] = 1 := by simp [closings_cons, hd]
        have htotal := h.total
        simp [openings_cons, closings_cons, hc]
        omega

end Balanced

/-- The names of the blocks that are open after some chunks, the innermost first. -/
inductive OpenBlocks : List Chunk → List String → Prop where
  | outside {front : List Chunk} (h : Balanced front) : OpenBlocks front []
  | inside {outer inner : List Chunk} {c : Chunk} {names : List String} (h : OpenBlocks outer names)
    (hc : c.kind? = some .opening) (hinner : Balanced inner) :
    OpenBlocks (outer ++ c :: inner) (tagName (currentStatement outer) :: names)

namespace OpenBlocks

lemma append (h : OpenBlocks front names) (h' : Balanced rest) :
    OpenBlocks (front ++ rest) names := by
  cases h with
  | outside h => exact .outside (h.append h')
  | inside h hc hinner =>
    rw [List.append_assoc, List.cons_append]
    exact .inside h hc (hinner.append h')

lemma opening (h : OpenBlocks front names) (hc : c.kind? = some .opening) :
    OpenBlocks (front ++ [c]) (tagName (currentStatement front) :: names) :=
  .inside h hc .nil

lemma closing (h : OpenBlocks front (name :: names)) (hc : c.kind? = some .closing) :
    OpenBlocks (front ++ [c]) names := by
  cases h with
  | inside h hopening hinner =>
    rw [List.append_assoc, List.cons_append]
    exact h.append (.block hopening hc hinner)

lemma balanced (h : OpenBlocks front []) : Balanced front := by
  cases h
  assumption

lemma count (h : OpenBlocks front names) : openings front = closings front + names.length := by
  induction h with
  | outside h => exact h.total
  | inside _ hc hinner ih =>
    have htotal := hinner.total
    simp [openings_cons, closings_cons, hc]
    omega

/-- No block has ended that had not begun. -/
lemma ordered (h : OpenBlocks front names) :
    ∀ before, before <+: front → closings before ≤ openings before := by
  induction h with
  | outside h => exact h.ordered
  | @inside outer inner c names h hc hinner ih =>
    intro before hbefore
    rcases prefix_append_cases hbefore with houter | ⟨ws, rfl, hws⟩
    · exact ih before houter
    · have hle := ih outer List.prefix_rfl
      cases ws with
      | nil => simpa using hle
      | cons d ws =>
        obtain ⟨rfl, htail⟩ := List.cons_prefix_cons.mp hws
        have hrest := hinner.ordered ws htail
        simp [openings_cons, closings_cons, hc]
        omega

/-- A text that ends in a block lacks the end of the innermost one. -/
lemma unclosed (h : OpenBlocks front (name :: names)) :
    OffendsAt front [] front (.unclosed name) := by
  have hcount := h.count
  cases h with
  | inside h hc hinner =>
    refine .unclosed rfl ?_ rfl hc hinner
    rw [hcount, List.length_cons]
    omega

/-- Where blocks are open, nothing has been wrong so far. -/
lemma length_le_of_offendsAt {left : List Char} {fault : Fault} (h : OpenBlocks front names)
    (hoffends : OffendsAt (front ++ rest) left before fault) : front.length ≤ before.length := by
  cases hoffends with
  | lexical _ => simp
  | unclosed _ _ _ _ _ => simp
  | @unopened before after c hsplit hc hcount =>
    by_contra hshort
    have hfront : before ++ [c] <+: front := by
      have hsplit' : before ++ [c] <+: front ++ rest := ⟨after, by rw [hsplit]; simp⟩
      refine List.prefix_of_prefix_length_le hsplit' (List.prefix_append _ _) ?_
      · rw [List.length_append, List.length_singleton]
        omega
    have hle := h.ordered _ hfront
    simp [openings_cons, closings_cons, hc] at hle
    omega

end OpenBlocks

/-! ## One thing is wrong at one place -/

/-- The last block that is not followed by its end is determined. -/
lemma outer_unique {outer' inner' : List Chunk} {c' : Chunk}
    (heq : outer ++ c :: inner = outer' ++ c' :: inner') (hc : c.kind? = some .opening)
    (hc' : c'.kind? = some .opening) (h : Balanced inner) (h' : Balanced inner') :
    outer = outer' := by
  -- If one block began inside the other one, it would have to be closed there.
  have hinside : ∀ {xs ys : List Chunk} {d : Chunk}, d.kind? = some .opening →
      Balanced (xs ++ d :: ys) → Balanced ys → False := by
    intro xs ys d hd hall hys
    have htotal := hall.total
    have hsub := hys.total
    have hle := hall.ordered xs (List.prefix_append _ _)
    simp [openings_cons, closings_cons, hd] at htotal
    omega
  rcases List.append_eq_append_iff.mp heq with ⟨as, rfl, htail⟩ | ⟨bs, rfl, htail⟩
  · cases as with
    | nil => simp
    | cons d as =>
      obtain ⟨rfl, rfl⟩ := List.cons.inj htail
      exact (hinside hc' h h').elim
  · cases bs with
    | nil => simp
    | cons d bs =>
      obtain ⟨rfl, rfl⟩ := List.cons.inj htail
      exact (hinside hc h' h).elim

lemma OffendsAt.unique {left : List Char} {fault fault' : Fault}
    (h : OffendsAt chunks left before fault) (h' : OffendsAt chunks left before fault') :
    fault = fault' := by
  have hshort : ∀ {d : Chunk} {after : List Chunk}, chunks ≠ chunks ++ d :: after := by
    intro d after heq
    simpa using congrArg List.length heq
  cases h with
  | lexical h =>
    cases h' with
    | lexical h' => rw [h.unique h']
    | unopened hsplit _ _ => exact (hshort hsplit).elim
    | unclosed hleft _ _ _ _ => exact (h.ne_nil hleft).elim
  | unopened hsplit _ _ =>
    cases h' with
    | lexical _ => exact (hshort hsplit).elim
    | unopened _ _ _ => rfl
    | unclosed _ _ _ _ _ => exact (hshort hsplit).elim
  | unclosed hleft _ hsplit hc hinner =>
    cases h' with
    | lexical h' => exact (h'.ne_nil hleft).elim
    | unopened hsplit' _ _ => exact (hshort hsplit').elim
    | unclosed _ _ hsplit' hc' hinner' =>
      rw [outer_unique (hsplit.symm.trans hsplit') hc hc' hinner hinner']

/-! ## Reading chunk by chunk -/

/-- The kind and the text of a lexeme. -/
def Lexeme.token (l : Lexeme) : Kind × List Char :=
  (l.kind, l.text)

/-- Where reading has come to: blocks are open after the chunks so far, which are those before the
current statement and those of that statement. -/
structure Underway (before current : List Chunk) (opened : List String)
    (statement : List Lexeme) : Prop where
  blocks : OpenBlocks (before ++ current) opened
  start : ∀ c ∈ before.getLast?, c.isMark = true
  unmarked : ∀ c ∈ current, c.isMark = false
  tokens : statement.reverse.map Lexeme.token = current.filterMap Chunk.token?

namespace Underway

variable {statement : List Lexeme} {kind : Kind}

lemma initial : Underway [] [] [] [] :=
  ⟨.outside .nil, by rintro c ⟨⟩, by simp, rfl⟩

lemma currentStatement_eq (h : Underway before current opened statement) :
    currentStatement (before ++ current) = current := by
  have hcurrent : ∀ c ∈ current.reverse, (!c.isMark) = true := fun c hc => by
    rw [h.unmarked c (List.mem_reverse.mp hc)]
    rfl
  have hstart : ∀ c ∈ before.reverse.head?, (!c.isMark) = false := fun c hc => by
    rw [List.head?_reverse] at hc
    rw [h.start c hc]
    rfl
  rw [currentStatement, List.rtakeWhile, List.reverse_append,
    takeWhile_append_of_head hcurrent hstart, List.reverse_reverse]

/-- The tag that the current statement gives has its name. -/
lemma name_eq (h : Underway before current opened statement) (parents : List String) :
    ((Tag.ofStatement? parents statement.reverse).map (·.name)).getD "" = tagName current := by
  rw [tagName, ← h.tokens]
  cases statement.reverse with
  | nil => rfl
  | cons l ls =>
    obtain ⟨kind, text, line⟩ := l
    cases kind <;> rfl

lemma extend (h : Underway before current opened statement) {more : List Lexeme}
    (hmark : c.isMark = false)
    (hmore : (more ++ statement).reverse.map Lexeme.token =
      (current ++ [c]).filterMap Chunk.token?) :
    Underway before (current ++ [c]) opened (more ++ statement) where
  blocks := by
    rw [← List.append_assoc]
    refine h.blocks.append (.singleton ?_ ?_) <;>
    · intro hkind
      simp [Chunk.isMark, hkind] at hmark
  start := h.start
  unmarked := by
    intro d hd
    rcases List.mem_append.mp hd with hd | hd
    · exact h.unmarked d hd
    · rw [List.mem_singleton.mp hd]
      exact hmark
  tokens := hmore

/-- Something that is dropped changes nothing. -/
lemma gap (h : Underway before current opened statement) (hc : c.kind? = none) :
    Underway before (current ++ [c]) opened statement :=
  @extend _ _ _ _ _ h [] (by simp [Chunk.isMark, hc]) (by simp [h.tokens, Chunk.token?, hc])

/-- Any lexeme but a mark becomes a part of the statement. -/
lemma part (h : Underway before current opened statement) (line : Nat) (hc : c.kind? = some kind)
    (hmark : c.isMark = false) :
    Underway before (current ++ [c]) opened (⟨kind, c.text, line⟩ :: statement) :=
  @extend _ _ _ _ _ h [_] hmark (by simp [h.tokens, Chunk.token?, hc, Lexeme.token])

lemma next (h : OpenBlocks (before ++ current ++ [c]) opened) (hmark : c.isMark = true) :
    Underway (before ++ current ++ [c]) [] opened [] where
  blocks := by rwa [List.append_nil]
  start := by
    intro d hd
    rw [List.getLast?_concat] at hd
    cases hd
    exact hmark
  unmarked := by simp
  tokens := rfl

/-- An ending begins another statement. -/
lemma ending (h : Underway before current opened statement) (hc : c.kind? = some .ending) :
    Underway (before ++ current ++ [c]) [] opened [] :=
  next (h.blocks.append (.singleton (by simp [hc]) (by simp [hc]))) (by simp [Chunk.isMark, hc])

/-- An opening brace begins a block of the current tag. -/
lemma opening (h : Underway before current opened statement) (hc : c.kind? = some .opening) :
    Underway (before ++ current ++ [c]) [] (tagName current :: opened) [] := by
  have hblocks := h.blocks.opening hc
  rw [h.currentStatement_eq] at hblocks
  exact next hblocks (by simp [Chunk.isMark, hc])

/-- A closing brace ends the innermost block. -/
lemma closing (h : Underway before current (name :: opened) statement)
    (hc : c.kind? = some .closing) : Underway (before ++ current ++ [c]) [] opened [] :=
  next (h.blocks.closing hc) (by simp [Chunk.isMark, hc])

end Underway

/-! ## Where the tags stand -/

/-- The statement with what stands before it, if a lexeme is in it. -/
def place? (before current : List Chunk) : Option (List Chunk × List Chunk) :=
  if current.any (·.kind?.isSome) then some (before, current) else none

/-- The statements of a text from the current one on, each with what stands before it. -/
def places (before current : List Chunk) : List Chunk → List (List Chunk × List Chunk)
  | [] => (place? before current).toList
  | c :: cs =>
    if c.isMark then (place? before current).toList ++ places (before ++ current ++ [c]) [] cs
    else places before (current ++ [c]) cs

lemma mem_place?_iff {b s : List Chunk} :
    (b, s) ∈ (place? before current).toList ↔
      (b = before ∧ s = current) ∧ ∃ c ∈ current, c.kind?.isSome := by
  rw [place?]
  split
  case isTrue h =>
    rw [List.any_eq_true] at h
    simp [h]
  case isFalse h =>
    rw [List.any_eq_true] at h
    simp only [Option.toList_none, List.not_mem_nil, false_iff, not_and]
    exact fun _ => h

/-- A statement that begins no later than the current one ends is the current one. -/
lemma StatementAt.eq_current {b s : List Chunk}
    (h : StatementAt (before ++ current ++ rest) b s) (hunmarked : ∀ c ∈ current, c.isMark = false)
    (hrest : ∀ c ∈ rest.head?, c.isMark = true) (hfrom : before.length ≤ b.length)
    (hto : b.length ≤ (before ++ current).length) : b = before ∧ s = current := by
  obtain ⟨after, hsplit, hafter⟩ := h.split
  have hbefore : before <+: b := List.prefix_of_prefix_length_le
    ⟨current ++ rest, (List.append_assoc ..).symm⟩ ⟨s ++ after, by rw [hsplit]; simp⟩ hfrom
  obtain ⟨u, rfl⟩ := hbefore
  -- What stands between the two beginnings is a part of the current statement, so it is no mark.
  have hu : u <+: current := by
    have hu' : u <+: current ++ rest := ⟨s ++ after, by simpa [List.append_assoc] using hsplit.symm⟩
    exact List.prefix_of_prefix_length_le hu' (List.prefix_append _ _) (by simpa using hto)
  obtain rfl : u = [] := by
    by_contra hne
    have hlast := h.start (u.getLast hne)
      (by rw [List.getLast?_append_of_ne_nil _ hne, List.getLast?_eq_getLast_of_ne_nil hne]; rfl)
    rw [hunmarked _ (hu.subset (List.getLast_mem hne))] at hlast
    cases hlast
  rw [List.append_nil, List.append_assoc, List.append_assoc] at hsplit
  refine ⟨List.append_nil before, ?_⟩
  rcases List.append_eq_append_iff.mp (List.append_cancel_left hsplit) with
    ⟨as, rfl, htail⟩ | ⟨as, rfl, htail⟩
  · cases as with
    | nil => simp
    | cons d as =>
      rw [htail] at hrest
      have hmark := hrest d rfl
      rw [h.unmarked d (by simp)] at hmark
      cases hmark
  · cases as with
    | nil => simp
    | cons d as =>
      rw [htail] at hafter
      have hmark := hafter d rfl
      rw [hunmarked d (by simp)] at hmark
      cases hmark

/-- The current statement is the only one that begins where it is read. -/
lemma mem_place?_iff_statementAt {b s : List Chunk} (rest : List Chunk)
    (hstart : ∀ c ∈ before.getLast?, c.isMark = true) (hunmarked : ∀ c ∈ current, c.isMark = false)
    (hrest : ∀ c ∈ rest.head?, c.isMark = true) :
    (b, s) ∈ (place? before current).toList ↔
      StatementAt (before ++ current ++ rest) b s ∧ before.length ≤ b.length ∧
        b.length ≤ (before ++ current).length := by
  rw [mem_place?_iff]
  constructor
  · rintro ⟨⟨rfl, rfl⟩, hsome⟩
    exact ⟨⟨⟨rest, rfl, hrest⟩, hstart, hunmarked, hsome⟩, Nat.le_refl _, by simp⟩
  · rintro ⟨h, hfrom, hto⟩
    obtain ⟨rfl, rfl⟩ := h.eq_current hunmarked hrest hfrom hto
    exact ⟨⟨rfl, rfl⟩, h.nonempty⟩

/-- All statements are found, and nothing else. -/
theorem mem_places_iff {b s : List Chunk} (hstart : ∀ c ∈ before.getLast?, c.isMark = true)
    (hunmarked : ∀ c ∈ current, c.isMark = false) :
    (b, s) ∈ places before current rest ↔
      StatementAt (before ++ current ++ rest) b s ∧ before.length ≤ b.length := by
  induction rest generalizing before current with
  | nil =>
    rw [places, mem_place?_iff_statementAt [] hstart hunmarked (by simp)]
    refine ⟨fun h => ⟨h.1, h.2.1⟩, fun h => ⟨h.1, h.2, ?_⟩⟩
    obtain ⟨after, hsplit, -⟩ := h.1.split
    rw [List.append_nil] at hsplit
    rw [hsplit, List.length_append, List.length_append]
    omega
  | cons c cs ih =>
    rw [places]
    split
    case isTrue hmark =>
      have hnext := @ih (before ++ current ++ [c]) [] (by simp [hmark]) (by simp)
      have hassoc : before ++ current ++ [c] ++ [] ++ cs = before ++ current ++ c :: cs := by simp
      have hlength : (before ++ current ++ [c]).length = (before ++ current).length + 1 := by
        rw [List.length_append, List.length_singleton]
      rw [hassoc, hlength] at hnext
      rw [List.mem_append, hnext,
        mem_place?_iff_statementAt (c :: cs) hstart hunmarked (by simp [hmark])]
      constructor
      · rintro (⟨h, hfrom, -⟩ | ⟨h, hfrom⟩)
        · exact ⟨h, hfrom⟩
        · rw [List.length_append] at hfrom
          exact ⟨h, by omega⟩
      · rintro ⟨h, hfrom⟩
        by_cases hto : b.length ≤ (before ++ current).length
        · exact Or.inl ⟨h, hfrom, hto⟩
        · exact Or.inr ⟨h, by omega⟩
    case isFalse hmark =>
      have hmore : ∀ d ∈ current ++ [c], d.isMark = false := by
        intro d hd
        rcases List.mem_append.mp hd with hd | hd
        · exact hunmarked d hd
        · rw [List.mem_singleton.mp hd, Bool.eq_false_iff]
          exact hmark
      have hassoc : before ++ (current ++ [c]) ++ cs = before ++ current ++ c :: cs := by simp
      rw [ih hstart hmore, hassoc]

/-- The statements are found one after another. -/
theorem pairwise_places (hstart : ∀ c ∈ before.getLast?, c.isMark = true) :
    (places before current rest).Pairwise fun p q => p.1.length < q.1.length := by
  have hone : (place? before current).toList.Pairwise fun p q => p.1.length < q.1.length := by
    rw [place?]
    split <;> simp
  induction rest generalizing before current with
  | nil => exact hone
  | cons c cs ih =>
    rw [places]
    split
    case isTrue hmark =>
      refine List.pairwise_append.mpr ⟨hone, ih (by simp [hmark]) ?_, ?_⟩
      · exact List.Pairwise.nil
      · rintro ⟨b, s⟩ hb ⟨b', s'⟩ hb'
        obtain ⟨⟨rfl, -⟩, -⟩ := mem_place?_iff.mp hb
        have hlater := ((mem_places_iff (by simp [hmark]) (by simp)).mp hb').2
        simp only [List.length_append, List.length_singleton] at hlater
        change b.length < b'.length
        omega
    case isFalse hmark =>
      refine ih hstart ?_
      rw [place?]
      split <;> simp

/-- A tag is that of a statement: it has the name of the statement and as many tags around it as
blocks are open where the statement begins. -/
def Tag.StandsAt (tag : Tag) (place : List Chunk × List Chunk) : Prop :=
  tag.name = tagName place.2 ∧ tag.parents.length + closings place.1 = openings place.1

namespace Underway

variable {statement : List Lexeme}

/-- The tag of the current statement stands where this statement stands. -/
lemma standsAt (h : Underway before current opened statement) :
    List.Forall₂ Tag.StandsAt (Tag.ofStatement? opened statement.reverse).toList
      (place? before current).toList := by
  have hname := h.name_eq opened
  have htokens := h.tokens
  rw [place?]
  cases hstatement : statement.reverse with
  | nil =>
    have hnone : ¬ current.any (·.kind?.isSome) = true := by
      rw [hstatement] at htokens
      have hall := List.filterMap_eq_nil_iff.mp htokens.symm
      rw [List.any_eq_true]
      rintro ⟨c, hc, hsome⟩
      have hkind := hall c hc
      rw [Chunk.token?, Option.map_eq_none_iff] at hkind
      rw [hkind] at hsome
      cases hsome
    rw [if_neg hnone]
    exact List.Forall₂.nil
  | cons l ls =>
    have hsome : current.any (·.kind?.isSome) = true := by
      rw [hstatement] at htokens
      have hmem : l.token ∈ current.filterMap Chunk.token? := by
        rw [← htokens]
        exact List.mem_cons_self
      obtain ⟨c, hc, htoken⟩ := List.mem_filterMap.mp hmem
      rw [List.any_eq_true]
      refine ⟨c, hc, ?_⟩
      cases hkind : c.kind? with
      | none => simp [Chunk.token?, hkind] at htoken
      | some kind => rfl
    have hcount := h.blocks.count
    rw [openings_append, closings_append, openings_of_unmarked h.unmarked,
      closings_of_unmarked h.unmarked] at hcount
    rw [if_pos hsome]
    rw [hstatement] at hname
    refine List.Forall₂.cons ⟨hname, ?_⟩ List.Forall₂.nil
    change opened.reverse.length + closings before = openings before
    rw [List.length_reverse]
    omega

end Underway

/-! ## The outcome -/

variable {left : List Char} {fault : Option Fault} {statement : List Lexeme}

/-- What one chunk does: it ends the current statement, it belongs to it, or it ends a block that
has not begun. -/
theorem Underway.step (h : Underway before current opened statement) (fault : Option Fault)
    (line : Nat) (c : Chunk) (cs : List Chunk) :
    (c.isMark = true ∧ ∃ names, Underway (before ++ current ++ [c]) [] names [] ∧
      tagsFrom fault opened statement (kept line (c :: cs)) =
        (tagsFrom fault names [] (kept (line + c.text.count '\n') cs)).map
          ((Tag.ofStatement? opened statement.reverse).toList ++ ·)) ∨
    (c.isMark = false ∧ ∃ statement', Underway before (current ++ [c]) opened statement' ∧
      tagsFrom fault opened statement (kept line (c :: cs)) =
        tagsFrom fault opened statement' (kept (line + c.text.count '\n') cs)) ∨
    (c.kind? = some .closing ∧ opened = [] ∧
      tagsFrom fault opened statement (kept line (c :: cs)) = .error (.unopened line)) := by
  have hpart : ∀ {kind : Kind}, c.kind? = some kind →
      kind ≠ .ending ∧ kind ≠ .opening ∧ kind ≠ .closing →
      c.isMark = false ∧ ∃ statement', Underway before (current ++ [c]) opened statement' ∧
        tagsFrom fault opened statement (kept line (c :: cs)) =
          tagsFrom fault opened statement' (kept (line + c.text.count '\n') cs) := by
    intro kind hkind hne
    have hmark : c.isMark = false := by simp [Chunk.isMark, hkind, hne]
    refine ⟨hmark, _, h.part line hkind hmark, ?_⟩
    rw [kept, hkind]
    exact tagsFrom_part _ _ _ _ hne
  cases hkind : c.kind? with
  | none =>
    refine Or.inr (Or.inl ⟨by simp [Chunk.isMark, hkind], statement, h.gap hkind, ?_⟩)
    rw [kept, hkind]
    rfl
  | some kind =>
    cases kind with
    | ending =>
      refine Or.inl ⟨by simp [Chunk.isMark, hkind], opened, h.ending hkind, ?_⟩
      rw [kept, hkind]
      exact tagsFrom_ending _ _ _ _ rfl
    | opening =>
      refine Or.inl ⟨by simp [Chunk.isMark, hkind], _, h.opening hkind, ?_⟩
      rw [kept, hkind, ← h.name_eq opened]
      exact tagsFrom_opening _ _ _ _ rfl
    | closing =>
      cases opened with
      | nil =>
        refine Or.inr (Or.inr ⟨rfl, rfl, ?_⟩)
        rw [kept, hkind]
        exact tagsFrom_unopened _ _ _ rfl
      | cons name names =>
        refine Or.inl ⟨by simp [Chunk.isMark, hkind], names, h.closing hkind, ?_⟩
        rw [kept, hkind]
        exact tagsFrom_closing _ _ _ _ rfl
    | quoted => exact Or.inr (Or.inl (hpart hkind (by decide)))
    | raw => exact Or.inr (Or.inl (hpart hkind (by decide)))
    | equals => exact Or.inr (Or.inl (hpart hkind (by decide)))
    | word => exact Or.inr (Or.inl (hpart hkind (by decide)))

/-- A tag document that can be read has no fault, its braces match, and its tags stand where its
statements stand. -/
theorem accepted_of_ok {tags : List Tag} {line : Nat} (h : Underway before current opened statement)
    (hok : tagsFrom fault opened statement (kept line rest) = .ok tags) :
    fault = none ∧ Balanced (before ++ current ++ rest) ∧
      List.Forall₂ Tag.StandsAt tags (places before current rest) := by
  induction rest generalizing before current opened statement tags line with
  | nil =>
    cases fault with
    | some f => cases hok
    | none =>
      cases opened with
      | cons name names => cases hok
      | nil =>
        cases hok
        rw [List.append_nil]
        exact ⟨rfl, h.blocks.balanced, h.standsAt⟩
  | cons c cs ih =>
    rw [places]
    rcases h.step fault line c cs with
      ⟨hmark, names, hnext, hstep⟩ | ⟨hmark, statement', hnext, hstep⟩ | ⟨-, -, hstep⟩
    · rw [hstep] at hok
      obtain ⟨tags', hrest, rfl⟩ := map_eq_ok_iff.mp hok
      obtain ⟨hfault, hbalanced, hplaces⟩ := ih hnext hrest
      rw [if_pos hmark]
      exact ⟨hfault, by simpa using hbalanced, List.rel_append h.standsAt hplaces⟩
    · rw [hstep] at hok
      obtain ⟨hfault, hbalanced, hplaces⟩ := ih hnext hok
      rw [hmark, if_neg Bool.false_ne_true]
      exact ⟨hfault, by simpa using hbalanced, hplaces⟩
    · rw [hstep] at hok
      cases hok

/-- The fault that comes after the last lexeme is what is wrong with the text that is left. -/
def FaultOf (chunks : List Chunk) (left : List Char) (fault : Option Fault) : Prop :=
  left = [] ∧ fault = none ∨
    ∃ because, Offends because left ∧ fault = some (because (lineAfter chunks))

/-- A text that cannot be read has something wrong in it, and before that all blocks that end have
begun. -/
theorem exists_offendsAt_of_error {f : Fault} (h : Underway before current opened statement)
    (hfault : FaultOf (before ++ current ++ rest) left fault)
    (herror : tagsFrom fault opened statement (kept (lineAfter (before ++ current)) rest) =
      .error f) :
    ∃ front after names, before ++ current ++ rest = front ++ after ∧ OpenBlocks front names ∧
      OffendsAt (before ++ current ++ rest) left front f := by
  induction rest generalizing before current opened statement with
  | nil =>
    rw [List.append_nil] at hfault ⊢
    refine ⟨before ++ current, [], opened, by simp, h.blocks, ?_⟩
    rcases hfault with ⟨rfl, rfl⟩ | ⟨because, hoffends, rfl⟩
    · cases opened with
      | nil => cases herror
      | cons name names =>
        cases herror
        exact h.blocks.unclosed
    · cases herror
      exact .lexical hoffends
  | cons c cs ih =>
    have hline : lineAfter (before ++ current) + c.text.count '\n' =
        lineAfter (before ++ current ++ [c]) := (lineAfter_append _ _).symm
    rcases h.step fault (lineAfter (before ++ current)) c cs with
      ⟨hmark, names, hnext, hstep⟩ | ⟨hmark, statement', hnext, hstep⟩ | ⟨hkind, hopened, hstep⟩
    · have hassoc : before ++ current ++ [c] ++ [] ++ cs = before ++ current ++ c :: cs := by simp
      have hnone : before ++ current ++ [c] = before ++ current ++ [c] ++ [] := by simp
      rw [hstep, hline, map_eq_error_iff, hnone] at herror
      rw [← hassoc] at hfault ⊢
      exact ih hnext hfault herror
    · have hassoc : before ++ (current ++ [c]) ++ cs = before ++ current ++ c :: cs := by simp
      rw [hstep, hline, List.append_assoc before] at herror
      rw [← hassoc] at hfault ⊢
      exact ih hnext hfault herror
    · rw [hstep] at herror
      cases herror
      have hblocks := h.blocks
      rw [hopened] at hblocks
      refine ⟨before ++ current, c :: cs, [], rfl, hblocks, .unopened rfl hkind ?_⟩
      exact hblocks.balanced.total.le

/-- Where something is wrong, the chunks before it are the first ones. -/
lemma OffendsAt.prefix {f : Fault} (h : OffendsAt chunks left before f) : before <+: chunks := by
  cases h with
  | lexical _ => exact List.prefix_rfl
  | unopened hsplit _ _ => exact ⟨_, hsplit.symm⟩
  | unclosed _ _ _ _ _ => exact List.prefix_rfl

/-- Nothing is wrong with a text that is cut to its end and whose braces match. -/
lemma OffendsAt.not_balanced {f : Fault} (h : OffendsAt chunks left before f) :
    ¬ (left = [] ∧ Balanced chunks) := by
  rintro ⟨hleft, hbalanced⟩
  cases h with
  | lexical h => exact h.ne_nil hleft
  | @unopened before after c hsplit hc hcount =>
    have hle := hbalanced.ordered (before ++ [c]) ⟨after, by rw [hsplit]; simp⟩
    simp [openings_cons, closings_cons, hc] at hle
    omega
  | unclosed _ hcount _ _ _ => exact hcount.ne' hbalanced.total

/-- Only one thing is the first one that is wrong. -/
lemma FirstOffence.unique {f f' : Fault} (h : FirstOffence chunks left f)
    (h' : FirstOffence chunks left f') : f = f' := by
  obtain ⟨before, hoffends, hfirst⟩ := h
  obtain ⟨before', hoffends', hfirst'⟩ := h'
  have hlength : before.length = before'.length :=
    Nat.le_antisymm (hfirst _ _ hoffends') (hfirst' _ _ hoffends)
  obtain rfl : before = before' :=
    (List.prefix_of_prefix_length_le hoffends.prefix hoffends'.prefix hlength.le).eq_of_length
      hlength
  exact hoffends.unique hoffends'

lemma readTags_eq_of_cut {text : List Char} (h : Cut text chunks left) :
    readTags text = tagsFrom (lexemes 1 text).2 [] [] (kept 1 chunks) := by
  rw [readTags, ← (lexemes_of_cut h 1).1]

/-- Nothing is left of a tag document, its braces match, and its tags stand where its statements
are. -/
lemma placed_of_readTags {text : List Char} (h : Cut text chunks left) {tags : List Tag}
    (htags : readTags text = .ok tags) :
    (left = [] ∧ Balanced chunks) ∧ List.Forall₂ Tag.StandsAt tags (places [] [] chunks) := by
  rw [readTags_eq_of_cut h] at htags
  obtain ⟨hnone, hbalanced, hplaces⟩ := accepted_of_ok Underway.initial htags
  rcases (lexemes_of_cut h 1).2 with ⟨hleft, -⟩ | ⟨because, -, hsome⟩
  · exact ⟨⟨hleft, hbalanced⟩, hplaces⟩
  · rw [hnone] at hsome
    cases hsome

/-- What is said about a text is the first thing that is wrong with it. -/
lemma firstOffence_of_readTags {text : List Char} (h : Cut text chunks left) {f : Fault}
    (hf : readTags text = .error f) : FirstOffence chunks left f := by
  rw [readTags_eq_of_cut h] at hf
  obtain ⟨front, after, names, hsplit, hblocks, hoffends⟩ :=
    exists_offendsAt_of_error Underway.initial (lexemes_of_cut h 1).2 hf
  refine ⟨front, hoffends, fun before' f' hoffends' => ?_⟩
  rw [show chunks = front ++ after from hsplit] at hoffends'
  exact hblocks.length_le_of_offendsAt hoffends'

/-- Every text is cut into chunks in exactly one way.  It is a tag document just if nothing is left
of it, no block in it ends before it begins, and as many blocks end as begin; otherwise the first
thing that is wrong is what is said.  The tags of a tag document are those of its statements, one
after another, each with as many tags around it as blocks are open where its statement begins. -/
theorem readTags_outcome (text : List Char) :
    ∃ chunks left, Cut text chunks left ∧ textOf chunks ++ left = text ∧
      (∀ chunks' left', Cut text chunks' left' → chunks' = chunks ∧ left' = left) ∧
      ((∃ tags, readTags text = .ok tags) ↔ left = [] ∧
        (∀ before, before <+: chunks → closings before ≤ openings before) ∧
        openings chunks = closings chunks) ∧
      (∀ fault, readTags text = .error fault ↔ FirstOffence chunks left fault) ∧
      ∀ tags, readTags text = .ok tags →
        ∃ places : List (List Chunk × List Chunk),
          (∀ before statement, (before, statement) ∈ places ↔
            StatementAt chunks before statement) ∧
          places.Pairwise (fun p q => p.1.length < q.1.length) ∧
          List.Forall₂ Tag.StandsAt tags places := by
  obtain ⟨chunks, left, hcut⟩ := exists_cut text
  refine ⟨chunks, left, hcut, hcut.text_eq.symm,
    fun chunks' left' hcut' => hcut'.unique hcut, ?_, fun f =>
      ⟨firstOffence_of_readTags hcut, fun hfirst => ?_⟩, ?_⟩
  · constructor
    · rintro ⟨tags, htags⟩
      obtain ⟨⟨hleft, hbalanced⟩, -⟩ := placed_of_readTags hcut htags
      exact ⟨hleft, hbalanced.ordered, hbalanced.total⟩
    · rintro ⟨hleft, hordered, htotal⟩
      cases hresult : readTags text with
      | ok tags => exact ⟨tags, rfl⟩
      | error f =>
        obtain ⟨before, hoffends, -⟩ := firstOffence_of_readTags hcut hresult
        exact (hoffends.not_balanced ⟨hleft, htotal, hordered⟩).elim
  · cases hresult : readTags text with
    | ok tags =>
      obtain ⟨before, hoffends, -⟩ := hfirst
      exact (hoffends.not_balanced (placed_of_readTags hcut hresult).1).elim
    | error f' => rw [hfirst.unique (firstOffence_of_readTags hcut hresult)]
  · intro tags htags
    refine ⟨places [] [] chunks, fun before statement => ?_, ?_,
      (placed_of_readTags hcut htags).2⟩
    · rw [mem_places_iff (by rintro c ⟨⟩) (by simp)]
      simp
    · exact pairwise_places (by rintro c ⟨⟩)

end DubCheck.Sdl
