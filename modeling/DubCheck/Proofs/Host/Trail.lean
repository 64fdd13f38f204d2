import DubCheck.Host.Basic
import Mathlib
/-!
# Where paths lead

A path that can be followed from a directory leads to the location that its parts name, read from
there: the trail that is left behind is the one to that location.  So two directories from which the
same path can be followed lead to the same place if the parts name the same location from both.

What the parts name is found by going some levels up and then down by some names.  How far up and
down does not depend on where this begins.

* `FileTree.follow_eq_trailTo`: the trail of a path that can be followed.
* `Path.follow_eq_above`: how the parts of a path lead up and down.
* `Host.denotes_iff_of_denotes`: when the text of a file, read from another directory, still means
  this file.
-/

namespace DubCheck

/-! ## Trails -/

namespace FileTree

variable {t : FileTree} {trail : Trail} {directory : Location} {p : Path}

lemma trailTo_concat (t : FileTree) (l : Location) (name : String) :
    t.trailTo (l ++ [name]) = t.extend (t.trailTo l) name := by
  rw [trailTo, List.foldl_append]
  rfl

/-- Leaving a location leads to the directory around it. -/
lemma tail_trailTo (t : FileTree) (l : Location) : (t.trailTo l).tail = t.trailTo l.dropLast := by
  rcases l.eq_nil_or_concat with rfl | ⟨front, name, rfl⟩
  · rfl
  · rw [List.concat_eq_append, List.dropLast_concat, trailTo_concat]
    rfl

lemma locationOf_trailTo (t : FileTree) (l : Location) : locationOf (t.trailTo l) = l := by
  induction l using List.reverseRecOn with
  | nil => rfl
  | append_singleton front name ih =>
    rw [trailTo_concat, locationOf, extend, List.map_cons, List.reverse_cons]
    exact congrArg (· ++ [name]) ih

/-- Parts that can be followed lead to the location that they name. -/
lemma walk_eq_trailTo {parts : List String} {start : Location}
    (h : t.walk (t.trailTo start) parts = .ok trail) :
    trail = t.trailTo (Path.follow start parts) := by
  induction parts generalizing start with
  | nil =>
    cases h
    rfl
  | cons part parts ih =>
    rw [walk] at h
    split at h
    · cases h
    · cases h
    · split at h
      · cases h
      · rw [Path.follow, List.foldl_cons]
        by_cases hup : part = ".."
        · rw [if_pos hup, tail_trailTo] at h
          rw [if_pos hup]
          exact ih h
        · rw [if_neg hup, ← trailTo_concat] at h
          rw [if_neg hup]
          exact ih h

/-- A path that can be followed leads to its location. -/
lemma follow_eq_trailTo (h : t.follow directory p = .ok trail) :
    trail = t.trailTo (p.resolve directory) := by
  rw [follow] at h
  split at h
  · cases h
  · split at h
    · cases h
    · cases habsolute : p.isAbsolute with
      | true =>
        rw [habsolute, if_pos rfl] at h
        have htrail : trail = t.trailTo (Path.follow [] p.parts) := walk_eq_trailTo h
        rw [htrail, Path.resolve, habsolute, if_pos rfl]
      | false =>
        rw [habsolute, if_neg Bool.false_ne_true] at h
        have htrail := walk_eq_trailTo h
        rw [htrail, Path.resolve, habsolute, if_neg Bool.false_ne_true]

/-- What a path leads to is at the end of its trail. -/
lemma exists_follow_of_status {node : FileNode} (h : t.status directory p = .ok node) :
    ∃ trail, t.follow directory p = .ok trail ∧ t.endOf trail = some node := by
  unfold status at h
  cases hfollow : t.follow directory p with
  | error fault =>
    rw [hfollow] at h
    cases h
  | ok trail =>
    refine ⟨trail, rfl, ?_⟩
    simp only [hfollow, bind, Except.bind] at h
    cases hend : t.endOf trail with
    | none =>
      rw [hend] at h
      cases h
    | some found =>
      rw [hend] at h
      cases h
      rfl

lemma status_of_look {node : FileNode} (h : t.look directory p = .ok (some node)) :
    t.status directory p = .ok node := by
  unfold look at h
  cases hstatus : t.status directory p with
  | error fault =>
    rw [hstatus] at h
    cases fault <;> cases h
  | ok found =>
    rw [hstatus] at h
    cases h
    rfl

/-- An absolute path is followed in the same way from everywhere. -/
lemma follow_of_isAbsolute (h : p.isAbsolute = true) (directory other : Location) :
    t.follow directory p = t.follow other p := by
  simp only [follow, h, if_true]

end FileTree

/-! ## Up and down -/

/-- The directory some levels above a location.  Above the root there is only the root. -/
def Location.above (levels : Nat) (l : Location) : Location :=
  l.take (l.length - levels)

/-- A way through directories: some levels up, and then down by some names. -/
structure Way where
  /-- How many levels it goes up. -/
  up : Nat
  /-- The names that it goes down by. -/
  down : List String
deriving DecidableEq, Repr

/-- The way with another part: `..` takes back the last name, or leads up. -/
def Way.extend (w : Way) (part : String) : Way :=
  if part = ".." then
    if w.down.isEmpty then { w with up := w.up + 1 } else { w with down := w.down.dropLast }
  else { w with down := w.down ++ [part] }

/-- The way of a path. -/
def Path.way (parts : List String) : Way :=
  parts.foldl Way.extend ⟨0, []⟩

lemma Location.dropLast_above (levels : Nat) (l : Location) :
    (l.above levels).dropLast = l.above (levels + 1) := by
  rw [Location.above, Location.above, List.dropLast_eq_take, List.take_take, List.length_take]
  congr 1
  omega

/-- What parts name is found on their way. -/
lemma Path.follow_eq_above (start : Location) (parts : List String) :
    Path.follow start parts = start.above (Path.way parts).up ++ (Path.way parts).down := by
  induction parts using List.reverseRecOn with
  | nil => simp [Path.follow, Path.way, Location.above]
  | append_singleton parts part ih =>
    have hfollow : Path.follow start (parts ++ [part]) =
        if part = ".." then (Path.follow start parts).dropLast
        else Path.follow start parts ++ [part] := by
      rw [Path.follow, List.foldl_append]
      rfl
    have hway : Path.way (parts ++ [part]) = (Path.way parts).extend part := by
      rw [Path.way, List.foldl_append]
      rfl
    rw [hfollow, hway, ih, Way.extend]
    -- `..` takes back the last name, and leads up where there is none.
    by_cases hup : part = ".."
    · rw [if_pos hup, if_pos hup]
      cases hdown : (Path.way parts).down with
      | nil => simp [Location.dropLast_above]
      | cons name names =>
        rw [List.dropLast_append_of_ne_nil (List.cons_ne_nil name names)]
        rfl
    · rw [if_neg hup, if_neg hup, List.append_assoc]

/-- Two directories lead to the same location by the same way just if they are in the same directory
after going up. -/
lemma Path.follow_eq_iff (start other : Location) (parts : List String) :
    Path.follow start parts = Path.follow other parts ↔
      start.above (Path.way parts).up = other.above (Path.way parts).up := by
  rw [Path.follow_eq_above, Path.follow_eq_above, List.append_cancel_right_eq]

/-! ## Files -/

namespace Host

variable {h : Host} {directory other place : Location} {text : String}

/-- A text, read from a directory, denotes the file at a location. -/
def Denotes (h : Host) (directory : Location) (text : String) (place : Location) : Prop :=
  ∃ trail, h.files.follow directory (Path.ofText text) = .ok trail ∧
    FileTree.locationOf trail = place ∧
      ∃ bytes executable, h.files.endOf trail = some (.file bytes executable)

/-- A path at which a file is found denotes a file. -/
lemma denotes_of_lookForFile (hfound : h.lookForFile (Path.ofText text) = .ok true) :
    h.Denotes h.directory text ((Path.ofText text).resolve h.directory) := by
  unfold lookForFile Host.look at hfound
  cases hlook : h.files.look h.directory (Path.ofText text) with
  | error fault =>
    rw [hlook] at hfound
    cases hfound
  | ok found =>
    rw [hlook] at hfound
    rcases found with _ | (entries | ⟨bytes, executable⟩)
    · cases hfound
    · cases hfound
    · obtain ⟨trail, hfollow, hend⟩ :=
        FileTree.exists_follow_of_status (FileTree.status_of_look hlook)
      have htrail := FileTree.follow_eq_trailTo hfollow
      exact ⟨trail, hfollow, by rw [htrail, FileTree.locationOf_trailTo], bytes, executable, hend⟩

/-- What can be followed denotes the file at its location, if there is one. -/
lemma denotes_iff : h.Denotes directory text place ↔
    (∃ trail, h.files.follow directory (Path.ofText text) = .ok trail) ∧
      (Path.ofText text).resolve directory = place ∧ ∃ bytes executable,
        h.files.endOf (h.files.trailTo place) = some (.file bytes executable) := by
  constructor
  · rintro ⟨trail, hfollow, rfl, hfile⟩
    have htrail := FileTree.follow_eq_trailTo hfollow
    have hplace := FileTree.locationOf_trailTo h.files ((Path.ofText text).resolve directory)
    rw [← htrail] at hplace
    refine ⟨⟨trail, hfollow⟩, hplace.symm, ?_⟩
    rw [hplace, ← htrail]
    exact hfile
  · rintro ⟨⟨trail, hfollow⟩, rfl, hfile⟩
    have htrail := FileTree.follow_eq_trailTo hfollow
    refine ⟨trail, hfollow, ?_, ?_⟩
    · rw [htrail, FileTree.locationOf_trailTo]
    · rw [htrail]
      exact hfile

/-- What denotes a file denotes the same file from another directory exactly if it is an absolute
path, or if the two directories have the same directory above them where the way of the path turns
down and the path can be followed from the other one. -/
theorem denotes_iff_of_denotes (hd : h.Denotes directory text place) :
    h.Denotes other text place ↔ (Path.ofText text).isAbsolute = true ∨
      directory.above (Path.way (Path.ofText text).parts).up =
          other.above (Path.way (Path.ofText text).parts).up ∧
        ∃ trail, h.files.follow other (Path.ofText text) = .ok trail := by
  obtain ⟨hfollow, hplace, hfile⟩ := denotes_iff.mp hd
  rw [denotes_iff]
  cases habsolute : (Path.ofText text).isAbsolute with
  | true =>
    refine iff_of_true ⟨?_, ?_, hfile⟩ (Or.inl rfl)
    · rw [FileTree.follow_of_isAbsolute habsolute other directory]
      exact hfollow
    · rw [← hplace, Path.resolve, Path.resolve, habsolute, if_pos rfl, if_pos rfl]
  | false =>
    have hsame : (Path.ofText text).resolve other = place ↔
        directory.above (Path.way (Path.ofText text).parts).up =
          other.above (Path.way (Path.ofText text).parts).up := by
      rw [← hplace, Path.resolve, Path.resolve, habsolute, if_neg Bool.false_ne_true,
        if_neg Bool.false_ne_true, Path.follow_eq_iff, eq_comm]
    rw [hsame]
    constructor
    · exact fun ⟨hother, habove, _⟩ => Or.inr ⟨habove, hother⟩
    · rintro (⟨⟨⟩⟩ | ⟨habove, hother⟩)
      exact ⟨hother, habove, hfile⟩

end Host

end DubCheck
