import DubCheck.Proofs.Sdl.Lexeme
/-!
# How tag documents are laid out

The lexemes of a tag document are statements, one after another, and a statement may be followed by
a block, in which there are statements again.  A `Layout` is this structure, with the statements as
they are written, and `Layout.Lays` relates it to the lexemes.

* `tagsFrom_cons_eq_ok_iff`: what one lexeme does.
* `tagsFrom_of_lays`: the tags of a layout are read.
* `exists_lays_of_tagsFrom`: whatever can be read has a layout.
* `readTags_eq_ok_iff`: the texts that have tags are those that have a layout.
-/

namespace DubCheck.Sdl

/-- Statements, one after another.  All but the last one are followed by the end of a statement or
by a block. -/
inductive Layout where
  | last (statement : List Lexeme)
  | ended (statement : List Lexeme) (rest : Layout)
  | block (statement : List Lexeme) (inner rest : Layout)

/-- A lexeme that belongs to a statement. -/
def Lexeme.InStatement (l : Lexeme) : Prop :=
  l.kind ≠ .ending ∧ l.kind ≠ .opening ∧ l.kind ≠ .closing

/-- The lexemes of a layout. -/
inductive Layout.Lays : Layout → List Lexeme → Prop where
  | last {s : List Lexeme} (hs : ∀ l ∈ s, l.InStatement) : Lays (.last s) s
  | ended {s ls : List Lexeme} {e : Lexeme} {rest : Layout} (hs : ∀ l ∈ s, l.InStatement)
    (he : e.kind = .ending) (hrest : Lays rest ls) : Lays (.ended s rest) (s ++ e :: ls)
  | block {s ls ls' : List Lexeme} {o c : Lexeme} {inner rest : Layout}
    (hs : ∀ l ∈ s, l.InStatement) (ho : o.kind = .opening) (hinner : Lays inner ls)
    (hc : c.kind = .closing) (hrest : Lays rest ls') :
    Lays (.block s inner rest) (s ++ o :: (ls ++ c :: ls'))

namespace Layout

/-- The statements that stand directly in a layout, each with its block if it has one. -/
def statements : Layout → List (List Lexeme × Option Layout)
  | last s => [(s, none)]
  | ended s rest => (s, none) :: rest.statements
  | block s inner rest => (s, some inner) :: rest.statements

/-- The tags of a layout inside the tags of the given names, the innermost first. -/
def tags (opened : List String) : Layout → List Tag
  | last s => (Tag.ofStatement? opened s).toList
  | ended s rest => (Tag.ofStatement? opened s).toList ++ rest.tags opened
  | block s inner rest =>
    (Tag.ofStatement? opened s).toList ++
      (inner.tags (((Tag.ofStatement? opened s).map (·.name)).getD "" :: opened) ++
        rest.tags opened)

end Layout

variable {fault : Option Fault} {opened : List String} {name : String} {layout : Layout}
  {statement s ls rest : List Lexeme} {m : Lexeme}

/-! ## One lexeme -/

/-- A lexeme that ends the statement before it.  If it ends a block, one has begun. -/
def Lexeme.EndsStatement (opened : List String) (l : Lexeme) : Prop :=
  l.kind = .ending ∨ l.kind = .opening ∨ l.kind = .closing ∧ opened ≠ []

/-- The blocks that are open after a lexeme that ends a statement. -/
def openedAfter (opened : List String) (statement : List Lexeme) (l : Lexeme) : List String :=
  match l.kind with
  | .opening => ((Tag.ofStatement? opened statement.reverse).map (·.name)).getD "" :: opened
  | .closing => opened.tail
  | _ => opened

/-- A lexeme belongs to a statement, or ends one, or it ends a block that has not begun. -/
lemma inStatement_or (l : Lexeme) (opened : List String) :
    l.InStatement ∨ l.EndsStatement opened ∨ l.kind = .closing ∧ opened = [] := by
  unfold Lexeme.InStatement Lexeme.EndsStatement
  tauto

lemma Lexeme.inStatement_congr {l : Lexeme} (h : l.kind = m.kind) :
    l.InStatement ↔ m.InStatement := by
  rw [InStatement, InStatement, h]

lemma Lexeme.endsStatement_congr {l : Lexeme} (h : l.kind = m.kind) :
    l.EndsStatement opened ↔ m.EndsStatement opened := by
  rw [EndsStatement, EndsStatement, h]

lemma Lexeme.InStatement.not_endsStatement {l : Lexeme} (h : l.InStatement) :
    ¬ l.EndsStatement opened := by
  rintro (hl | hl | ⟨hl, -⟩)
  · exact h.1 hl
  · exact h.2.1 hl
  · exact h.2.2 hl

lemma tagsFrom_endsStatement {l : Lexeme} (hl : l.EndsStatement opened) :
    tagsFrom fault opened statement (l :: ls) =
      (tagsFrom fault (openedAfter opened statement l) [] ls).map
        ((Tag.ofStatement? opened statement.reverse).toList ++ ·) := by
  rw [openedAfter]
  rcases hl with hl | hl | ⟨hl, hopened⟩
  · rw [tagsFrom_ending _ _ _ _ hl, hl]
  · rw [tagsFrom_opening _ _ _ _ hl, hl]
  · obtain ⟨name, names, rfl⟩ := List.exists_cons_of_ne_nil hopened
    rw [tagsFrom_closing _ _ _ _ hl, hl, List.tail_cons]

/-- What one lexeme does where there are tags: it goes on with the statement, or it ends the
statement, whose tag then comes before the other ones. -/
theorem tagsFrom_cons_eq_ok_iff {l : Lexeme} {tags : List Tag} :
    tagsFrom fault opened statement (l :: ls) = .ok tags ↔
      l.InStatement ∧ tagsFrom fault opened (l :: statement) ls = .ok tags ∨
      l.EndsStatement opened ∧ ∃ more,
        tagsFrom fault (openedAfter opened statement l) [] ls = .ok more ∧
          tags = (Tag.ofStatement? opened statement.reverse).toList ++ more := by
  rcases inStatement_or l opened with hl | hl | ⟨hl, rfl⟩
  · rw [tagsFrom_part _ _ _ _ hl]
    simp [hl, hl.not_endsStatement]
  · have hnot : ¬ l.InStatement := fun hin => hin.not_endsStatement hl
    rw [tagsFrom_endsStatement hl, map_eq_ok_iff]
    simp only [hl, hnot, false_and, true_and, false_or, eq_comm]
  · rw [tagsFrom_unopened _ _ _ hl]
    simp [Lexeme.InStatement, Lexeme.EndsStatement, hl]

/-! ## Reading a layout -/

lemma tagsFrom_append (hs : ∀ l ∈ s, l.InStatement) :
    tagsFrom fault opened statement (s ++ ls) =
      tagsFrom fault opened (s.reverse ++ statement) ls := by
  induction s generalizing statement with
  | nil => rfl
  | cons l s ih =>
    rw [List.forall_mem_cons] at hs
    rw [List.cons_append, tagsFrom_part _ _ _ _ hs.1, ih hs.2, List.reverse_cons,
      List.append_assoc]
    rfl

lemma tagsFrom_statement (hs : ∀ l ∈ s, l.InStatement) :
    tagsFrom fault opened [] (s ++ ls) = tagsFrom fault opened s.reverse ls := by
  rw [tagsFrom_append hs, List.append_nil]

/-- A layout in a block is read up to the end of the block. -/
lemma tagsFrom_of_lays_block (h : layout.Lays ls) (hm : m.kind = .closing) :
    tagsFrom fault (name :: opened) [] (ls ++ m :: rest) =
      (tagsFrom fault opened [] rest).map (layout.tags (name :: opened) ++ ·) := by
  induction h generalizing name opened m rest with
  | last hs =>
    rw [tagsFrom_statement hs, tagsFrom_closing _ _ _ _ hm, List.reverse_reverse]
    rfl
  | ended hs he _ ih =>
    rw [List.append_assoc, List.cons_append, tagsFrom_statement hs, tagsFrom_ending _ _ _ _ he,
      List.reverse_reverse, ih hm, map_append_map]
    rfl
  | block hs ho _ hc _ ihinner ihrest =>
    rw [List.append_assoc, List.cons_append, List.append_assoc, List.cons_append,
      tagsFrom_statement hs, tagsFrom_opening _ _ _ _ ho, List.reverse_reverse, ihinner hc,
      ihrest hm, map_append_map, map_append_map, List.append_assoc]
    rfl

/-- A layout is read. -/
theorem tagsFrom_of_lays (h : layout.Lays ls) :
    tagsFrom none [] [] ls = .ok (layout.tags []) := by
  induction h with
  | @last s hs =>
    rw [← List.append_nil s, tagsFrom_statement hs, List.append_nil]
    change Except.ok (Tag.ofStatement? [] s.reverse.reverse).toList = _
    rw [List.reverse_reverse]
    rfl
  | ended hs he _ ih =>
    rw [tagsFrom_statement hs, tagsFrom_ending _ _ _ _ he, List.reverse_reverse, ih]
    rfl
  | block hs ho hinner hc _ _ ih =>
    rw [tagsFrom_statement hs, tagsFrom_opening _ _ _ _ ho, List.reverse_reverse,
      tagsFrom_of_lays_block hinner hc, ih]
    rfl

/-! ## Finding a layout -/

/-- Some lexemes end a number of blocks, one after another, and otherwise have a layout. -/
inductive Closes : Nat → List Lexeme → Prop where
  | zero {layout : Layout} {ls : List Lexeme} (h : layout.Lays ls) : Closes 0 ls
  | succ {n : Nat} {layout : Layout} {ls rest : List Lexeme} {c : Lexeme} (h : layout.Lays ls)
    (hc : c.kind = .closing) (hrest : Closes n rest) : Closes (n + 1) (ls ++ c :: rest)

namespace Closes

variable {n : Nat} {e o c : Lexeme}

lemma ended (h : Closes n ls) (hs : ∀ l ∈ s, l.InStatement) (he : e.kind = .ending) :
    Closes n (s ++ e :: ls) := by
  cases h with
  | zero h => exact .zero (.ended hs he h)
  | succ h hc hrest =>
    rw [← List.cons_append, ← List.append_assoc]
    exact .succ (.ended hs he h) hc hrest

lemma block (h : Closes (n + 1) ls) (hs : ∀ l ∈ s, l.InStatement) (ho : o.kind = .opening) :
    Closes n (s ++ o :: ls) := by
  cases h with
  | @succ _ _ ls _ c hinner hc hrest =>
    cases hrest with
    | zero h => exact .zero (.block hs ho hinner hc h)
    | @succ _ _ ls' rest d h hd hrest =>
      have hassoc : s ++ o :: (ls ++ c :: (ls' ++ d :: rest)) =
          (s ++ o :: (ls ++ c :: ls')) ++ d :: rest := by simp
      rw [hassoc]
      exact .succ (.block hs ho hinner hc h) hd hrest

lemma closing (h : Closes n ls) (hs : ∀ l ∈ s, l.InStatement) (hc : c.kind = .closing) :
    Closes (n + 1) (s ++ c :: ls) :=
  .succ (.last hs) hc h

end Closes

/-- Whatever can be read has no fault, ends the blocks that are open and otherwise has a layout. -/
lemma closes_of_tagsFrom {tags : List Tag} (hstatement : ∀ l ∈ statement.reverse, l.InStatement)
    (h : tagsFrom fault opened statement ls = .ok tags) :
    fault = none ∧ Closes opened.length (statement.reverse ++ ls) := by
  induction ls generalizing opened statement tags with
  | nil =>
    cases fault with
    | some f => cases h
    | none =>
      cases opened with
      | cons name names => cases h
      | nil =>
        rw [List.append_nil]
        exact ⟨rfl, .zero (.last hstatement)⟩
  | cons l ls ih =>
    rcases tagsFrom_cons_eq_ok_iff.mp h with ⟨hl, h⟩ | ⟨hl, more, hmore, -⟩
    · have hall : ∀ m ∈ (l :: statement).reverse, m.InStatement := by
        rw [List.reverse_cons, List.forall_mem_append, List.forall_mem_singleton]
        exact ⟨hstatement, hl⟩
      obtain ⟨hfault, hcloses⟩ := ih hall h
      rw [List.reverse_cons, List.append_assoc] at hcloses
      exact ⟨hfault, hcloses⟩
    · obtain ⟨hfault, hcloses⟩ := ih (List.forall_mem_nil _) hmore
      refine ⟨hfault, ?_⟩
      rw [openedAfter] at hcloses
      rcases hl with hl | hl | ⟨hl, hopened⟩
      · rw [hl] at hcloses
        exact hcloses.ended hstatement hl
      · rw [hl] at hcloses
        exact hcloses.block hstatement hl
      · obtain ⟨name, names, rfl⟩ := List.exists_cons_of_ne_nil hopened
        rw [hl] at hcloses
        exact hcloses.closing hstatement hl

/-- Whatever can be read has no fault and has a layout. -/
theorem exists_lays_of_tagsFrom {tags : List Tag} (h : tagsFrom fault [] [] ls = .ok tags) :
    fault = none ∧ ∃ layout : Layout, layout.Lays ls := by
  obtain ⟨hfault, hcloses⟩ := closes_of_tagsFrom (List.forall_mem_nil _) h
  cases hcloses with
  | zero h => exact ⟨hfault, _, h⟩

/-- The texts that have tags are those without a fault that have a layout, and the tags are those of
the layout. -/
theorem readTags_eq_ok_iff (text : List Char) (tags : List Tag) :
    readTags text = .ok tags ↔ (lexemes 1 text).2 = none ∧
      ∃ layout : Layout, layout.Lays (lexemes 1 text).1 ∧ tags = layout.tags [] := by
  change tagsFrom (lexemes 1 text).2 [] [] _ = _ ↔ _
  constructor
  · intro h
    obtain ⟨hfault, layout, hlays⟩ := exists_lays_of_tagsFrom h
    rw [hfault, tagsFrom_of_lays hlays] at h
    cases h
    exact ⟨hfault, layout, hlays, rfl⟩
  · rintro ⟨hfault, layout, hlays, rfl⟩
    rw [hfault, tagsFrom_of_lays hlays]

end DubCheck.Sdl
