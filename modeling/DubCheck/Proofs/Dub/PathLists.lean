import DubCheck.Dub.PathLists
import DubCheck.Proofs.Text.Blank
import DubCheck.Proofs.Text.Search
/-!
# Reading lists of paths

Lists of paths are written with one null character between two paths and two between two lists, so
that a list without paths adds two null characters to those around it.  Reading them two by two from
the front of the text gives each list its own pair, whichever of them are empty.

* `listsOf_writePaths`: the paths of a list are found in front of what follows it.
* `listsOf_writeLists`: lists that are written are found again.
* `flatten_listsOf`: whatever the text is, each path in it is found once, and in order.
* `splitLists_lossless`: both together, for the output of dub.
-/

namespace DubCheck.Dub

/-! ## The written form -/

/-- The paths of a list, with a null character between any two of them. -/
def writePaths (paths : List String) : List Char :=
  ['\x00'].intercalate (paths.map String.toList)

/-- Lists of paths, with two null characters between any two of them. -/
def writeLists (lists : List (List String)) : List Char :=
  ['\x00', '\x00'].intercalate (lists.map writePaths)

/-- A path that can be told from the null characters around it. -/
def IsPath (path : String) : Prop :=
  path ≠ "" ∧ '\x00' ∉ path.toList

/-- The output is the written form of some lists.  Line ends may follow it. -/
structure WritesLists (lists : List (List String)) (output : List Char) : Prop where
  nonempty : lists ≠ []
  paths : ∀ paths ∈ lists, ∀ path ∈ paths, IsPath path
  text : ∃ lineEnd, output = writeLists lists ++ lineEnd ∧
    ∀ c ∈ lineEnd, Text.isReturnOrNewline c = true
  /-- What belongs to the last path is not taken for a line end. -/
  unended : ∀ c ∈ (writeLists lists).getLast?, Text.isReturnOrNewline c = false

lemma writePaths_cons_cons (p q : String) (ps : List String) :
    writePaths (p :: q :: ps) = p.toList ++ '\x00' :: writePaths (q :: ps) := by
  simp [writePaths]

lemma writeLists_cons_cons (l m : List String) (ls : List (List String)) :
    writeLists (l :: m :: ls) = writePaths l ++ '\x00' :: '\x00' :: writeLists (m :: ls) := by
  simp [writeLists]

/-! ## Pieces -/

variable {c : Char} {cs rest : List Char}

lemma piecesOf_cons_of_ne (hc : c ≠ '\x00') (cs : List Char) :
    ∃ t pieces, piecesOf (c :: cs) = .path (c :: t) :: pieces := by
  rw [piecesOf]
  rcases piecesOf cs with _ | ⟨_ | _, pieces⟩ <;> simp [Piece.cons, hc]

lemma piecesOf_null_cons (cs : List Char) :
    ∃ n pieces, piecesOf ('\x00' :: cs) = .nulls n :: pieces := by
  rw [piecesOf]
  rcases piecesOf cs with _ | ⟨_ | _, pieces⟩ <;> simp [Piece.cons]

/-- A text without null characters is one piece if it ends, or if a null character follows. -/
lemma piecesOf_append {path : List Char} (hne : path ≠ []) (hpath : '\x00' ∉ path)
    (hrest : ∀ c ∈ rest.head?, c = '\x00') :
    piecesOf (path ++ rest) = .path path :: piecesOf rest := by
  induction path with
  | nil => exact absurd rfl hne
  | cons c path ih =>
    rw [List.mem_cons, not_or] at hpath
    rw [List.cons_append, piecesOf]
    cases path with
    | nil =>
      cases rest with
      | nil => simp [piecesOf, Piece.cons, Ne.symm hpath.1]
      | cons d rest =>
        obtain rfl : d = '\x00' := hrest d rfl
        obtain ⟨n, pieces, h⟩ := piecesOf_null_cons rest
        rw [List.nil_append, h]
        simp [Piece.cons, Ne.symm hpath.1]
    | cons d path =>
      rw [ih (List.cons_ne_nil d path) hpath.2]
      simp [Piece.cons, Ne.symm hpath.1]

/-! ## Lists that are written are found -/

lemma listsOf_path (hne : cs ≠ []) (hcs : '\x00' ∉ cs) (hrest : ∀ c ∈ rest.head?, c = '\x00') :
    listsOf (piecesOf (cs ++ rest)) = consPath (String.ofList cs) (listsOf (piecesOf rest)) := by
  rw [piecesOf_append hne hcs hrest, listsOf]

/-- One null character in front of a path ends no list. -/
lemma listsOf_null (hc : c ≠ '\x00') :
    listsOf (piecesOf ('\x00' :: c :: cs)) = listsOf (piecesOf (c :: cs)) := by
  obtain ⟨t, pieces, h⟩ := piecesOf_cons_of_ne hc cs
  rw [piecesOf, h]
  simp [Piece.cons, listsOf]

/-- Two null characters end a list, whatever comes after them. -/
lemma listsOf_nulls (cs : List Char) :
    listsOf (piecesOf ('\x00' :: '\x00' :: cs)) = [] :: listsOf (piecesOf cs) := by
  rw [piecesOf, piecesOf]
  rcases piecesOf cs with _ | ⟨path | n, pieces⟩
  · rfl
  · rfl
  · have hhalf : (n + 1 + 1) / 2 = n / 2 + 1 := by omega
    simp [Piece.cons, listsOf, hhalf, List.replicate_succ]

/-- The paths of a list are found in front of what follows it, if that begins with the end of the
list. -/
lemma listsOf_writePaths {paths : List String} {more : List (List String)}
    (hpaths : ∀ path ∈ paths, IsPath path) (hrest : ∀ c ∈ rest.head?, c = '\x00')
    (hmore : listsOf (piecesOf rest) = [] :: more) :
    listsOf (piecesOf (writePaths paths ++ rest)) = paths :: more := by
  induction paths with
  | nil => exact hmore
  | cons p ps ih =>
    rw [List.forall_mem_cons] at hpaths
    obtain ⟨⟨hne, hnull⟩, hps⟩ := hpaths
    have hp : p.toList ≠ [] := mt String.toList_eq_nil_iff.mp hne
    cases ps with
    | nil =>
      have hone : writePaths [p] = p.toList := by simp [writePaths]
      rw [hone, listsOf_path hp hnull hrest, hmore, String.ofList_toList]
      rfl
    | cons q qs =>
      -- The next path begins with a character that is not null.
      obtain ⟨c, cs, hq⟩ := List.exists_cons_of_ne_nil
        (mt String.toList_eq_nil_iff.mp (hps q List.mem_cons_self).1)
      have hc : c ≠ '\x00' := by
        rintro rfl
        exact (hps q List.mem_cons_self).2 (hq ▸ List.mem_cons_self)
      have hnext : ∃ ds, writePaths (q :: qs) ++ rest = c :: ds := by
        cases qs with
        | nil => exact ⟨cs ++ rest, by simp [writePaths, hq]⟩
        | cons r rs => exact ⟨_, by rw [writePaths_cons_cons, hq]; rfl⟩
      obtain ⟨ds, hds⟩ := hnext
      have hfound := ih hps
      rw [hds] at hfound
      rw [writePaths_cons_cons, List.append_assoc, List.cons_append, hds,
        listsOf_path hp hnull (by rintro _ ⟨⟩; rfl), listsOf_null hc, hfound,
        String.ofList_toList]
      rfl

/-- Lists that are written are found again. -/
theorem listsOf_writeLists {lists : List (List String)} (hne : lists ≠ [])
    (hpaths : ∀ paths ∈ lists, ∀ path ∈ paths, IsPath path) :
    listsOf (piecesOf (writeLists lists)) = lists := by
  induction lists with
  | nil => exact absurd rfl hne
  | cons l ls ih =>
    rw [List.forall_mem_cons] at hpaths
    cases ls with
    | nil =>
      have hone : writeLists [l] = writePaths l ++ [] := by simp [writeLists]
      rw [hone]
      exact listsOf_writePaths hpaths.1 (by rintro _ ⟨⟩) rfl
    | cons m ms =>
      rw [writeLists_cons_cons]
      refine listsOf_writePaths hpaths.1 (by rintro _ ⟨⟩; rfl) ?_
      rw [listsOf_nulls, ih (List.cons_ne_nil m ms) hpaths.2]

/-! ## No path is lost -/

/-- The path that a piece is, if it is one. -/
def Piece.path? : Piece → Option (List Char)
  | .path text => some text
  | .nulls _ => none

lemma flatten_consPath (path : String) (lists : List (List String)) :
    (consPath path lists).flatten = path :: lists.flatten := by
  cases lists <;> rfl

/-- The lists hold the paths among the pieces, in their order. -/
lemma flatten_listsOf (pieces : List Piece) :
    (listsOf pieces).flatten.map String.toList = pieces.filterMap Piece.path? := by
  induction pieces with
  | nil => rfl
  | cons piece pieces ih =>
    cases piece with
    | path text =>
      rw [listsOf, flatten_consPath, List.map_cons, ih, String.toList_ofList,
        List.filterMap_cons_some (show (Piece.path text).path? = some text from rfl)]
    | nulls n =>
      rw [listsOf, List.flatten_append, List.filterMap_cons_none rfl, ← ih]
      simp

lemma filterMap_piecesOf_null (cs : List Char) :
    (piecesOf ('\x00' :: cs)).filterMap Piece.path? = (piecesOf cs).filterMap Piece.path? := by
  rw [piecesOf]
  rcases piecesOf cs with _ | ⟨_ | _, pieces⟩ <;> rfl

/-- The paths among the pieces of a text are its parts between null characters, the empty ones
apart. -/
lemma filterMap_piecesOf (cs : List Char) :
    (piecesOf cs).filterMap Piece.path? = (Text.splitOn '\x00' cs).filter (· ≠ []) := by
  obtain ⟨-, hparts, hcs⟩ := Text.eq_splitOn_iff.mp (rfl : Text.splitOn '\x00' cs = _)
  generalize Text.splitOn '\x00' cs = parts at hparts hcs ⊢
  induction parts generalizing cs with
  | nil =>
    rw [← hcs]
    rfl
  | cons part parts ih =>
    rw [List.forall_mem_cons] at hparts
    have hpath : ∀ rest : List Char, (∀ c ∈ rest.head?, c = '\x00') →
        (piecesOf (part ++ rest)).filterMap Piece.path? =
          [part].filter (· ≠ []) ++ (piecesOf rest).filterMap Piece.path? := by
      intro rest hrest
      by_cases hne : part = []
      · simp [hne]
      · rw [piecesOf_append hne hparts.1 hrest]
        simp [hne, Piece.path?]
    rw [← @List.singleton_append _ part, List.filter_append, ← hcs]
    cases parts with
    | nil =>
      have hend := hpath [] (by rintro _ ⟨⟩)
      rw [List.append_nil] at hend
      rw [List.intercalate_singleton, hend]
      rfl
    | cons next parts =>
      rw [List.intercalate_cons_cons, List.append_assoc, List.singleton_append,
        hpath _ (by rintro _ ⟨⟩; rfl), filterMap_piecesOf_null, ih _ hparts.2 rfl]

/-! ## The output of dub -/

lemma WritesLists.dropLineEnd {lists : List (List String)} {output : List Char}
    (h : WritesLists lists output) : Text.dropLineEnd output = writeLists lists := by
  obtain ⟨lineEnd, rfl, hend⟩ := h.text
  exact Text.dropEndWhile_append hend h.unended

/-- **Lists of paths.**  Lists that are written are found again, whichever of them are empty and
whatever line ends follow.  Any output holds some lists in which each of its paths stands once and
in order, and they are the answer if as many lists were asked for; otherwise there is none. -/
theorem splitLists_lossless (output : List Char) (count : Nat) :
    (∀ lists, WritesLists lists output → splitLists output lists.length = .ok lists) ∧
      ∃ found : List (List String),
        found.flatten.map String.toList =
          (Text.splitOn '\x00' (Text.dropLineEnd output)).filter (· ≠ []) ∧
        splitLists output count =
          if found.length = count then .ok found
          else .error (.describe (.listCount count found.length)) := by
  constructor
  · intro lists h
    rw [splitLists, h.dropLineEnd, listsOf_writeLists h.nonempty h.paths]
    exact if_pos rfl
  · refine ⟨listsOf (piecesOf (Text.dropLineEnd output)), ?_, rfl⟩
    rw [flatten_listsOf, filterMap_piecesOf]

/-- Four lists, of which only the second has paths in it. -/
def sampleLists : List (List String) :=
  [[], ["/a\nb", "/c"], [], []]

theorem splitLists_lossless_sample :
    WritesLists sampleLists (writeLists sampleLists ++ ['\r', '\n']) ∧
      splitLists (writeLists sampleLists ++ ['\r', '\n']) 4 = .ok sampleLists := by
  have hlast : (writeLists sampleLists).getLast? = some '\x00' := by cbv
  have hwrites : WritesLists sampleLists (writeLists sampleLists ++ ['\r', '\n']) := by
    refine ⟨by decide, ?_, ⟨['\r', '\n'], rfl, by simp [Text.isReturnOrNewline]⟩, ?_⟩
    · simp [sampleLists, IsPath]
    · rw [hlast]
      rintro c ⟨⟩
      rfl
  exact ⟨hwrites, (splitLists_lossless _ 4).1 sampleLists hwrites⟩

end DubCheck.Dub
