import DubCheck.Proofs.Dub.Asking
import DubCheck.Proofs.Dub.PathLists
import DubCheck.Proofs.Text.Line
import DubCheck.Workspace.Project
/-!
# Lists of paths as dub prints them

Between dub and the lists that are read there are three stages: the output is decoded, every line
end in it becomes a newline, and the newlines at its end are taken away.  None of them is made for
paths.  A path with a carriage return in it does not pass the second stage, and one that ends in a
newline does not pass the third one if nothing comes after it.  All other paths are read as they
are.

* `flatten_listsOf_piecesOf`: what the lists hold is the text without its null characters.
* `unaltered_of_filter_eq`: which texts come through the last two stages without a loss.
* `list_eq_ok_iff`: when the lists that dub prints are the lists that are read.
-/

namespace DubCheck

namespace Text

variable {cs : List Char}

/-- The parts of a text hold what is not a separator. -/
lemma flatten_splitOn (separator : Char) (cs : List Char) :
    (splitOn separator cs).flatten = cs.filter (· ≠ separator) := by
  induction cs with
  | nil => rfl
  | cons c cs ih =>
    rw [splitOn]
    by_cases hc : c = separator
    · rw [if_pos hc, List.flatten_cons, List.nil_append, ih]
      simp [hc]
    · rw [if_neg hc, List.filter_cons_of_pos (by simpa using hc), ← ih]
      cases splitOn separator cs <;> rfl

/-- Taking away newlines at the end takes away nothing else. -/
lemma dropLineEnd_subset : dropLineEnd cs ⊆ cs := by
  have hbegins := dropEndWhile_prefix isReturnOrNewline cs
  exact hbegins.subset

/-- A newline at the end is taken away. -/
lemma dropLineEnd_newline (cs : List Char) : dropLineEnd (cs ++ ['\n']) = dropLineEnd cs := by
  rw [dropLineEnd, dropLineEnd, dropEndWhile, dropEndWhile, List.reverse_append]
  rfl

/-- A text comes through with all that is not a separator only if it has no carriage return and does
not end in a newline. -/
lemma unaltered_of_filter_eq (separator : Char) (hreturn : separator ≠ '\r')
    (hnewline : separator ≠ '\n')
    (h : (dropLineEnd (translateNewlines cs)).filter (· ≠ separator) =
      cs.filter (· ≠ separator)) :
    '\r' ∉ cs ∧ cs.getLast? ≠ some '\n' := by
  have hfree : '\r' ∉ cs := by
    intro hmem
    have hkept : '\r' ∈ cs.filter (· ≠ separator) :=
      List.mem_filter.mpr ⟨hmem, by simpa using hreturn.symm⟩
    rw [← h] at hkept
    exact return_not_mem_translateNewlines cs (dropLineEnd_subset (List.mem_filter.mp hkept).1)
  refine ⟨hfree, fun hlast => ?_⟩
  obtain ⟨front, rfl⟩ := List.getLast?_eq_some_iff.mp hlast
  rw [translateNewlines_eq_self hfree, dropLineEnd_newline] at h
  -- What is left of the text is too short.
  have hbegins := dropEndWhile_prefix isReturnOrNewline front
  have hle := (hbegins.filter (· ≠ separator)).length_le
  rw [dropLineEnd] at h
  rw [h, List.filter_append, List.length_append] at hle
  simp [hnewline.symm] at hle

end Text

namespace Dub

open Text (translateNewlines)
open Text.Utf8 (IsText encode)

variable {lists : List (List String)}

/-! ## What lists hold -/

/-- What the lists in a text hold is the text without its null characters. -/
lemma flatten_listsOf_piecesOf (cs : List Char) :
    ((listsOf (piecesOf cs)).flatten.map String.toList).flatten = cs.filter (· ≠ '\x00') := by
  rw [flatten_listsOf, filterMap_piecesOf, ← Text.flatten_splitOn, List.flatten_filter_ne_nil]

/-- What is written holds the paths and null characters. -/
lemma filter_writeLists (hne : lists ≠ [])
    (hpaths : ∀ paths ∈ lists, ∀ path ∈ paths, IsPath path) :
    (writeLists lists).filter (· ≠ '\x00') = (lists.flatten.map String.toList).flatten := by
  rw [← flatten_listsOf_piecesOf, listsOf_writeLists hne hpaths]

lemma mem_writeLists_iff {c : Char} (hc : c ≠ '\x00') (hne : lists ≠ [])
    (hpaths : ∀ paths ∈ lists, ∀ path ∈ paths, IsPath path) :
    c ∈ writeLists lists ↔ ∃ paths ∈ lists, ∃ path ∈ paths, c ∈ path.toList := by
  have hfilter : c ∈ writeLists lists ↔ c ∈ (writeLists lists).filter (· ≠ '\x00') := by
    simp [hc]
  rw [hfilter, filter_writeLists hne hpaths]
  simp only [List.mem_flatten, List.mem_map]
  constructor
  · rintro ⟨_, ⟨path, ⟨paths, hmem, hpath⟩, rfl⟩, h⟩
    exact ⟨paths, hmem, path, hpath, h⟩
  · rintro ⟨paths, hmem, path, hpath, h⟩
    exact ⟨_, ⟨path, ⟨paths, hmem, hpath⟩, rfl⟩, h⟩

/-! ## How what is written ends -/

lemma intercalate_concat {α : Type} (separator : List α) (xs : List (List α)) (x : List α) :
    separator.intercalate (xs ++ [x]) = (xs.flatMap (· ++ separator)) ++ x := by
  induction xs with
  | nil => simp
  | cons y ys ih =>
    cases ys with
    | nil => simp
    | cons z zs =>
      rw [List.cons_append, List.cons_append, List.intercalate_cons_cons, ← List.cons_append, ih]
      simp

/-- Separators do not end in any other character than they do. -/
lemma getLast?_flatMap_append {α : Type} {separator : List α} (hne : separator ≠ []) {c : α}
    {xs : List (List α)} (h : (xs.flatMap (· ++ separator)).getLast? = some c) :
    separator.getLast? = some c := by
  rcases xs.eq_nil_or_concat with rfl | ⟨front, x, rfl⟩
  · cases h
  · rw [List.concat_eq_append, List.flatMap_append, List.flatMap_singleton, ← List.append_assoc,
      List.getLast?_append_of_ne_nil _ hne] at h
    exact h

/-- What is written ends in a character other than the null character just if the last list has
paths and the last path ends in this character. -/
lemma getLast?_writeLists_iff {c : Char} (hc : c ≠ '\x00')
    (hpaths : ∀ paths ∈ lists, ∀ path ∈ paths, IsPath path) :
    (writeLists lists).getLast? = some c ↔ ∃ front paths path,
      lists = front ++ [paths ++ [path]] ∧ path.toList.getLast? = some c := by
  -- The text of the last list, if it has paths, is all that has to be looked at.
  have hlast : ∀ front paths path, lists = front ++ [paths ++ [path]] →
      (writeLists lists).getLast? = path.toList.getLast? := by
    rintro front paths path rfl
    have hpath : IsPath path := hpaths (paths ++ [path]) (List.mem_append_right front
      (List.mem_singleton_self _)) path (List.mem_append_right paths (List.mem_singleton_self _))
    have hne : path.toList ≠ [] := mt String.toList_eq_nil_iff.mp hpath.1
    rw [writeLists, List.map_append, List.map_singleton, intercalate_concat, writePaths,
      List.map_append, List.map_singleton, intercalate_concat, ← List.append_assoc,
      List.getLast?_append_of_ne_nil _ hne]
  constructor
  · intro h
    rcases lists.eq_nil_or_concat with rfl | ⟨front, last, rfl⟩
    · cases h
    · rw [List.concat_eq_append] at h hlast ⊢
      rcases last.eq_nil_or_concat with rfl | ⟨paths, path, rfl⟩
      · have hnone : writePaths [] = [] := rfl
        rw [writeLists, List.map_append, List.map_singleton, intercalate_concat, hnone,
          List.append_nil] at h
        have hnull : some '\x00' = some c := getLast?_flatMap_append (by decide) h
        exact absurd (Option.some.inj hnull).symm hc
      · rw [List.concat_eq_append] at h hlast ⊢
        exact ⟨front, paths, path, rfl, (hlast front paths path rfl).symm.trans h⟩
  · rintro ⟨front, paths, path, heq, h⟩
    exact (hlast front paths path heq).trans h

/-! ## What is read -/

/-- Asked in some way, dub succeeds and prints some lists, and something on its other stream. -/
structure PrintsLists (h : Host) (arguments : List String) (lists : List (List String))
    (stderr : List UInt8) : Prop where
  nonempty : lists ≠ []
  paths : ∀ paths ∈ lists, ∀ path ∈ paths, IsPath path
  reply : h.dub arguments = .finished (encode (String.ofList (writeLists lists))) stderr 0

/-- Nothing that stands in the lists is taken for a line end, and what is printed besides them is
text. -/
structure ReadAsPrinted (lists : List (List String)) (stderr : List UInt8) : Prop where
  legible : IsText stderr
  /-- No path has a carriage return in it. -/
  unbroken : ∀ paths ∈ lists, ∀ path ∈ paths, '\r' ∉ path.toList
  /-- The last path, if it stands at the very end, does not end in a newline. -/
  unended : ∀ front paths path, lists = front ++ [paths ++ [path]] →
    path.toList.getLast? ≠ some '\n'

variable {h : Host} {settings : Settings} {fields : List String} {stderr : List UInt8}

lemma ReadAsPrinted.iff_text
    (hprints : PrintsLists h (listArguments settings fields) lists stderr) :
    ReadAsPrinted lists stderr ↔ IsText stderr ∧ '\r' ∉ writeLists lists ∧
      (writeLists lists).getLast? ≠ some '\n' := by
  have hreturn := mem_writeLists_iff (c := '\r') (by decide) hprints.nonempty hprints.paths
  have hnewline := getLast?_writeLists_iff (c := '\n') (by decide) hprints.paths
  rw [hreturn, Ne, hnewline]
  constructor
  · rintro ⟨hlegible, hunbroken, hunended⟩
    refine ⟨hlegible, ?_, ?_⟩
    · rintro ⟨paths, hmem, path, hpath, hc⟩
      exact hunbroken paths hmem path hpath hc
    · rintro ⟨front, paths, path, heq, hlast⟩
      exact hunended front paths path heq hlast
  · rintro ⟨hlegible, hunbroken, hunended⟩
    exact ⟨hlegible, fun paths hmem path hpath hc => hunbroken ⟨paths, hmem, path, hpath, hc⟩,
      fun front paths path heq hlast => hunended ⟨front, paths, path, heq, hlast⟩⟩

/-- A text without carriage returns that does not end in a newline is read as it is. -/
lemma splitLists_writeLists (hne : lists ≠ [])
    (hpaths : ∀ paths ∈ lists, ∀ path ∈ paths, IsPath path) (hreturn : '\r' ∉ writeLists lists)
    (hnewline : (writeLists lists).getLast? ≠ some '\n') :
    splitLists (translateNewlines (writeLists lists)) lists.length = .ok lists := by
  have hlast : ∀ c ∈ (writeLists lists).getLast?, Text.isReturnOrNewline c = false := by
    intro c hc
    rw [Text.isReturnOrNewline, Bool.or_eq_false_iff, beq_eq_false_iff_ne, beq_eq_false_iff_ne]
    refine ⟨?_, ?_⟩
    · rintro rfl
      exact hreturn (List.mem_of_getLast? hc)
    · rintro rfl
      exact hnewline hc
  have hdrop : Text.dropLineEnd (writeLists lists) = writeLists lists := by
    have hend : Text.dropEndWhile Text.isReturnOrNewline (writeLists lists ++ []) =
        writeLists lists := Text.dropEndWhile_append (by simp) hlast
    rwa [List.append_nil] at hend
  rw [splitLists, Text.translateNewlines_eq_self hreturn, hdrop, listsOf_writeLists hne hpaths]
  exact if_pos rfl

/-- **Lists that dub prints.**  If dub prints as many lists as it is asked for, these are the lists
that are read exactly if no path has a carriage return in it, no newline ends a path that stands at
the very end, and what is printed besides is text. -/
theorem list_eq_ok_iff (program : String) (directory : Location)
    (hprints : PrintsLists h (listArguments settings fields) lists stderr)
    (hcount : fields.length = lists.length) :
    (((Provider.dub program directory).list settings fields).apply h).1 = .ok lists ↔
      ReadAsPrinted lists stderr := by
  rw [list_apply, ReadAsPrinted.iff_text hprints]
  by_cases hlegible : IsText stderr
  · rw [and_iff_right hlegible]
    obtain ⟨err, rfl⟩ := hlegible
    have hreply : (h.dub (listArguments settings fields)).Prints
        (translateNewlines (writeLists lists)) :=
      ⟨_, err, hprints.reply, by rw [String.toList_ofList]⟩
    rw [answerOf_of_prints program hreply, hcount]
    constructor
    · intro hread
      have hfound : listsOf (piecesOf (Text.dropLineEnd (translateNewlines (writeLists lists)))) =
          lists := by
        rw [Except.bind, splitLists] at hread
        split at hread
        · exact Except.ok.inj hread
        · cases hread
      refine Text.unaltered_of_filter_eq '\x00' (by decide) (by decide) ?_
      rw [← flatten_listsOf_piecesOf, hfound, filter_writeLists hprints.nonempty hprints.paths]
    · rintro ⟨hreturn, hnewline⟩
      exact splitLists_writeLists hprints.nonempty hprints.paths hreturn hnewline
  · have hillegible : ¬ (h.dub (listArguments settings fields)).Legible := by
      rw [hprints.reply]
      exact fun hboth => hlegible hboth.2
    obtain ⟨f, hf⟩ := answerOf_of_not_legible program hillegible
    rw [hf]
    exact iff_of_false (by rintro ⟨⟩) fun hall => hlegible hall.1

/-! Two answers of dub to the question for the paths of a project. -/

/-- Lists of which one is empty, with blanks and newlines in their paths. -/
def spacedLists : List (List String) :=
  [["/p/a b\nc", "\n"], [], ["/p/ü.d "]]

/-- Lists in which a path has a carriage return in it. -/
def brokenLists : List (List String) :=
  [["/p/a\rb"], [], ["/p/app.d"]]

/-- A host on which dub prints lists. -/
def listingHost (lists : List (List String)) : Host :=
  askedHost (encode (String.ofList (writeLists lists))) []

lemma printsLists_listingHost (lists : List (List String)) (hne : lists ≠ [])
    (hpaths : ∀ paths ∈ lists, ∀ path ∈ paths, IsPath path) :
    PrintsLists (listingHost lists) (listArguments askedSettings pathFields) lists [] :=
  ⟨hne, hpaths, rfl⟩

theorem list_eq_ok_of_spacedLists :
    PrintsLists (listingHost spacedLists) (listArguments askedSettings pathFields) spacedLists [] ∧
      pathFields.length = spacedLists.length ∧
      (((Provider.dub "dub" ["p"]).list askedSettings pathFields).apply
        (listingHost spacedLists)).1 = .ok spacedLists := by
  have hprints := printsLists_listingHost spacedLists (by decide)
    (by simp [spacedLists, IsPath])
  have hread : ReadAsPrinted spacedLists [] := by
    rw [ReadAsPrinted.iff_text hprints]
    refine ⟨⟨"", by rw [Text.Utf8.encode_eq]; rfl⟩, ?_⟩
    simp [spacedLists, writeLists, writePaths]
  exact ⟨hprints, rfl, (list_eq_ok_iff "dub" ["p"] hprints rfl).mpr hread⟩

/-- A path with a carriage return in it is not read as it is printed. -/
theorem list_ne_ok_of_brokenLists :
    PrintsLists (listingHost brokenLists) (listArguments askedSettings pathFields) brokenLists [] ∧
      pathFields.length = brokenLists.length ∧
      (((Provider.dub "dub" ["p"]).list askedSettings pathFields).apply
        (listingHost brokenLists)).1 ≠ .ok brokenLists := by
  have hprints := printsLists_listingHost brokenLists (by decide)
    (by simp [brokenLists, IsPath])
  refine ⟨hprints, rfl, fun hlist => ?_⟩
  have hread := (list_eq_ok_iff "dub" ["p"] hprints rfl).mp hlist
  exact hread.unbroken ["/p/a\rb"] List.mem_cons_self "/p/a\rb" List.mem_cons_self (by decide)

end Dub

end DubCheck
