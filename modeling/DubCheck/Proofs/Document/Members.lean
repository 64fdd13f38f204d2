import DubCheck.Document.Reader
import Mathlib
/-!
# Values under keys

What `insertPair` does to the keys of a list of pairs and to what is found under them.  A value is
put under a key in place of another one, so no key comes twice in an object that is read
(`distinctKeys_of_read`).
-/

namespace DubCheck

variable {α : Type} {key : String} {value : α} {pairs found : List (String × α)}

lemma lookup_cons_eq (name : String) :
    ((key, value) :: found).lookup name = if name = key then some value else found.lookup name := by
  rw [List.lookup_cons]
  by_cases h : name = key
  · simp [h]
  · rw [if_neg h, beq_false_of_ne h]

/-- A value that is put under a key is found there, and what is under other keys stays. -/
lemma lookup_insertPair (name : String) :
    (insertPair key value found).lookup name =
      if name = key then some value else found.lookup name := by
  induction found with
  | nil => rw [insertPair, lookup_cons_eq]
  | cons entry found ih =>
    obtain ⟨k, v⟩ := entry
    rw [insertPair]
    split
    · rename_i hk
      rw [lookup_cons_eq, lookup_cons_eq, hk]
      split <;> rfl
    · rename_i hk
      rw [lookup_cons_eq, lookup_cons_eq, ih]
      split
      · rename_i hname
        rw [if_neg (hname ▸ hk)]
      · rfl

lemma lookup_eq_none_of_not_mem (h : key ∉ found.map (·.1)) : found.lookup key = none := by
  rw [List.lookup_eq_none_iff]
  intro entry hentry
  have hne : key ≠ entry.1 := by
    rintro rfl
    exact h (List.mem_map_of_mem hentry)
  exact bne_iff_ne.mpr hne

lemma any_of_lookup (h : found.lookup key = some value) :
    (found.any fun entry => entry.1 == key) = true := by
  obtain ⟨before, after, rfl, -⟩ := List.lookup_eq_some_iff.mp h
  simp

lemma insertPair_of_not_mem (h : key ∉ found.map (·.1)) :
    insertPair key value found = found ++ [(key, value)] := by
  induction found with
  | nil => rfl
  | cons entry found ih =>
    rw [List.map_cons, List.mem_cons, not_or] at h
    rw [insertPair, if_neg (Ne.symm h.1), ih h.2, List.cons_append]

/-- Where pairs are kept by their keys, the value under a key stays or goes with it. -/
lemma lookup_filter_key (keep : String → Bool) (name : String) :
    (found.filter fun entry => keep entry.1).lookup name =
      if keep name then found.lookup name else none := by
  induction found with
  | nil => rw [List.filter_nil, List.lookup_nil, ite_self]
  | cons entry found ih =>
    obtain ⟨k, v⟩ := entry
    rw [List.filter_cons, lookup_cons_eq]
    by_cases hname : name = k
    · rw [if_pos hname, hname]
      split
      · rw [lookup_cons_eq, if_pos rfl]
      · rename_i hkeep
        rw [← hname, ih, if_neg (hname ▸ hkeep)]
    · rw [if_neg hname]
      split
      · rw [lookup_cons_eq, if_neg hname, ih]
      · exact ih

/-- A value takes the place of the one that is under its key. -/
lemma keys_insertPair_of_mem (h : key ∈ found.map (·.1)) :
    (insertPair key value found).map (·.1) = found.map (·.1) := by
  induction found with
  | nil => cases h
  | cons entry found ih =>
    obtain ⟨k, v⟩ := entry
    rw [insertPair]
    split
    · rename_i hk
      rw [List.map_cons, List.map_cons, hk]
    · rename_i hk
      have hmem : key ∈ found.map (·.1) := (List.mem_cons.mp h).resolve_left (Ne.symm hk)
      rw [List.map_cons, List.map_cons, ih hmem]

lemma nodup_insertPair (key : String) (value : α) (h : (found.map (·.1)).Nodup) :
    ((insertPair key value found).map (·.1)).Nodup := by
  by_cases hmem : key ∈ found.map (·.1)
  · rwa [keys_insertPair_of_mem hmem]
  · rw [insertPair_of_not_mem hmem, List.map_append, List.nodup_append]
    refine ⟨h, List.nodup_singleton key, ?_⟩
    rintro k hk _ hkey rfl
    obtain rfl : k = key := List.mem_singleton.mp hkey
    exact hmem hk

/-- Pairs under different new keys are put in one after another. -/
lemma foldl_insertPair (h : ((found ++ pairs).map (·.1)).Nodup) :
    pairs.foldl (fun found a => insertPair a.1 a.2 found) found = found ++ pairs := by
  induction pairs generalizing found with
  | nil => rw [List.foldl_nil, List.append_nil]
  | cons a pairs ih =>
    have hnew : a.1 ∉ found.map (·.1) := by
      intro hmem
      rw [List.map_append, List.nodup_append] at h
      exact h.2.2 a.1 hmem a.1 List.mem_cons_self rfl
    rw [List.foldl_cons, insertPair_of_not_mem hnew, ih, List.append_assoc, List.singleton_append]
    rwa [List.append_assoc, List.singleton_append]

/-! ## Objects that are read -/

namespace Document

/-- No key of an object comes twice. -/
def DistinctKeys : Document → Prop
  | .object members => (members.map (·.1)).Nodup
  | _ => True

/-- A property of all that is read, whatever is left. -/
def Yields (P : α → Prop) (r : Except Fault (α × List Char)) : Prop :=
  ∀ a rest, r = .ok (a, rest) → P a

namespace Yields

variable {β : Type} {P : α → Prop} {Q : β → Prop}

lemma ok {a : α} {rest : List Char} (h : P a) : Yields P (.ok (a, rest)) := by
  rintro _ _ ⟨⟩
  exact h

lemma error (fault : Fault) : Yields P (.error fault) := by
  rintro _ _ ⟨⟩

lemma bind {r : Except Fault (α × List Char)} {f : α × List Char → Except Fault (β × List Char)}
    (hr : Yields P r) (hf : ∀ a rest, P a → Yields Q (f (a, rest))) : Yields Q (r >>= f) := by
  cases r with
  | error fault => exact error fault
  | ok found => exact hf found.1 found.2 (hr _ _ rfl)

end Yields

lemma yields_true (r : Except Fault (α × List Char)) : Yields (fun _ => True) r :=
  fun _ _ _ => trivial

lemma yields_readMembers (item : List Char → Except Fault (Document × List Char)) (fuel : Nat)
    {members : List (String × Document)} (h : (members.map (·.1)).Nodup) (cs : List Char) :
    Yields (fun members => (members.map (·.1)).Nodup) (readMembers item fuel members cs) := by
  induction fuel generalizing members cs with
  | zero => exact .error _
  | succ fuel ih =>
    unfold readMembers
    dsimp only
    split
    · refine (yields_true _).bind fun key rest _ => ?_
      dsimp only
      split
      · refine (yields_true _).bind fun d rest _ => ?_
        have hinsert := nodup_insertPair key d h
        dsimp only
        split
        · exact .ok hinsert
        · exact ih hinsert _
        · exact .error _
      · exact .error _
    · exact .error _

lemma yields_readMagnitude (start : List Char) (negative : Bool) (cs : List Char) :
    Yields DistinctKeys (readMagnitude start negative cs) := by
  unfold readMagnitude
  split
  · exact .error _
  · dsimp only
    split
    · split
      · exact .ok trivial
      · exact .error _
    · exact .ok trivial

lemma yields_readScalar (cs : List Char) : Yields DistinctKeys (readScalar cs) := by
  unfold readScalar
  split
  · rename_i found hfound
    obtain ⟨⟨word, d⟩, hmem, hword⟩ := List.exists_of_findSome?_eq_some hfound
    obtain ⟨left, -, rfl⟩ := Option.map_eq_some_iff.mp hword
    have hnamed : ∀ entry ∈ namedValues, DistinctKeys entry.2 := by
      simp [namedValues, DistinctKeys]
    exact .ok (hnamed _ hmem)
  · split <;> exact yields_readMagnitude _ _ _

lemma yields_readValue (size n : Nat) (cs : List Char) :
    Yields DistinctKeys (readValue size n cs) := by
  unfold readValue
  split
  · exact (yields_true _).bind fun _ _ _ => .ok trivial
  · exact .error _
  · exact .error _
  · split
    · exact .ok trivial
    · exact (yields_true _).bind fun _ _ _ => .ok trivial
  · split
    · exact .ok List.nodup_nil
    · have hnone : (([] : List (String × Document)).map (·.1)).Nodup := List.nodup_nil
      exact (yields_readMembers _ size hnone _).bind fun _ _ h => .ok h
  · exact yields_readScalar cs

/-- No key comes twice in an object that is read. -/
theorem distinctKeys_of_read {cs : List Char} {d : Document} (h : read cs = .ok d) :
    d.DistinctKeys := by
  rw [read] at h
  split_ifs at h
  · cases h
  · have hvalue := yields_readValue cs.length maxNesting (skipBlanks cs)
    cases hread : readValue cs.length maxNesting (skipBlanks cs) with
    | error fault =>
      simp only [hread] at h
      cases h
    | ok found =>
      simp only [hread] at h
      dsimp only [bind, Except.bind] at h
      split at h <;> cases h
      exact hvalue _ _ hread

end Document

end DubCheck
