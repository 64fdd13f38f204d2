import DubCheck.Compiler.Resolver
import DubCheck.Proofs.Failure
import DubCheck.Proofs.Text.Search
/-!
# What comes of looking for a compiler

A compiler that is found carries the name it was asked for by.  One that is not found is refused
for a reason of its own, except that the system may refuse to look where a path leads.
-/

namespace DubCheck.Resolver

variable {r : Resolver} {h : Host} {name : String}

lemma resolve_eq (r : Resolver) (h : Host) (name : String) :
    r.resolve h name =
      if name.isEmpty then .error (.compiler .unnamed)
      else match Family.ofProgram? name with
        | none => .error (.compiler (.unknown name))
        | some family =>
          match r.locate h name with
          | .error e => .error e
          | .ok none => .error (.compiler (.absent name))
          | .ok (some path) => .ok ⟨family, name, path⟩ := by
  unfold resolve
  by_cases hname : name.isEmpty
  · simp only [hname, if_true]
    rfl
  · simp only [hname, if_false, Bool.false_eq_true]
    cases Family.ofProgram? name with
    | none => rfl
    | some family => rcases r.locate h name with e | (_ | path) <;> rfl

lemma locate_eq (r : Resolver) (h : Host) (name : String) :
    r.locate h name =
      if name.contains '/' then (h.lookForFile (Path.ofText name)).map fun found =>
        if found then some ((Path.ofText name).resolve h.directory).text else none
      else .ok (r.search? h name) := by
  unfold locate
  by_cases hslash : name.contains '/'
  · simp only [hslash, if_true]
    rcases h.lookForFile (Path.ofText name) with e | (_ | _) <;> rfl
  · simp only [hslash, if_false, Bool.false_eq_true]
    rfl

/-- Looking for a file fails only where the system refuses to look. -/
lemma lookForFile_eq_error {p : Path} {e : Failure} (he : h.lookForFile p = .error e) :
    ∃ fault path, e = .system fault path := by
  unfold Host.lookForFile Host.look at he
  cases hlook : h.files.look h.directory p with
  | ok found =>
    rw [hlook] at he
    cases he
  | error fault =>
    rw [hlook] at he
    cases he
    exact ⟨fault, p.text, rfl⟩

lemma locate_eq_error {e : Failure} (he : r.locate h name = .error e) :
    ∃ fault path, e = .system fault path := by
  rw [locate_eq] at he
  split at he
  · exact lookForFile_eq_error (map_eq_error_iff.mp he)
  · cases he

/-- A compiler that is found carries the name it was asked for by. -/
lemma binary_of_resolve {c : Compiler} (hc : r.resolve h name = .ok c) : c.binary = name := by
  rw [resolve_eq] at hc
  split at hc
  · cases hc
  · split at hc
    · cases hc
    · split at hc
      · cases hc
      · cases hc
      · cases hc
        rfl

/-- A compiler that is not found is refused for a reason of its own, or the system refuses to look
where a path leads. -/
lemma resolve_eq_error {e : Failure} (he : r.resolve h name = .error e) :
    (∃ reason, e = .compiler reason) ∨ ∃ fault path, e = .system fault path := by
  rw [resolve_eq] at he
  split at he
  · cases he
    exact Or.inl ⟨_, rfl⟩
  · split at he
    · cases he
      exact Or.inl ⟨_, rfl⟩
    · split at he
      · rename_i e' hlocate
        cases he
        exact Or.inr (locate_eq_error hlocate)
      · cases he
        exact Or.inl ⟨_, rfl⟩
      · cases he

lemma resolve_ne_interrupted (name : String) : r.resolve h name ≠ .error .interrupted := by
  intro he
  rcases resolve_eq_error he with ⟨_, ⟨⟩⟩ | ⟨_, _, ⟨⟩⟩

/-- A compiler is found, or there is none for a reason, or the system refuses to look for it. -/
lemma resolve_cases (r : Resolver) (h : Host) (name : String) :
    (∃ c, r.resolve h name = .ok c) ∨ (∃ reason, r.resolve h name = .error (.compiler reason)) ∨
      ∃ fault path, r.resolve h name = .error (.system fault path) := by
  cases hc : r.resolve h name with
  | ok c => exact Or.inl ⟨c, rfl⟩
  | error e =>
    rcases resolve_eq_error hc with ⟨reason, rfl⟩ | ⟨fault, path, rfl⟩
    · exact Or.inr (Or.inl ⟨reason, rfl⟩)
    · exact Or.inr (Or.inr ⟨fault, path, rfl⟩)

/-- Neither the log nor the record of runs is read when a compiler is looked for. -/
lemma resolve_logged (r : Resolver) (h : Host) (log : List Note) (runs : List Dub.Run)
    (name : String) : r.resolve { h with log := log, runs := runs } name = r.resolve h name := by
  have hlocate : r.locate { h with log := log, runs := runs } name = r.locate h name := by
    rw [locate_eq, locate_eq]
    rfl
  rw [resolve_eq, resolve_eq, hlocate]

/-! ## Names that are too long -/

/-- The path of a program in a directory of a long name. -/
lemma ofText_of_long_name {part : String} (hslash : '/' ∉ part.toList)
    (hsize : 255 < part.utf8ByteSize) :
    Path.ofText ("/" ++ part ++ "/dmd") = ⟨.slash, [part, "dmd"]⟩ := by
  have hlist : ("/" ++ part ++ "/dmd").toList =
      [] ++ '/' :: (part.toList ++ '/' :: ['d', 'm', 'd']) := by
    simp [String.toList_append]
  have hroot : Path.rootOf ("/" ++ part ++ "/dmd").toList = .slash := by
    rw [hlist]
    cases hp : part.toList with
    | nil =>
      rw [String.toList_eq_nil_iff.mp hp] at hsize
      cases hsize
    | cons c cs =>
      rw [hp, List.mem_cons, not_or] at hslash
      unfold Path.rootOf
      split <;> simp_all
  have hkept : part ≠ "" ∧ part ≠ "." := by
    constructor <;>
    · rintro rfl
      revert hsize
      decide
  have hparts : Path.partsOf ("/" ++ part ++ "/dmd").toList = [part, "dmd"] := by
    unfold Path.partsOf
    rw [hlist, Text.splitOn_append_cons List.not_mem_nil, Text.splitOn_append_cons hslash,
      Text.splitOn_of_not_mem (by decide)]
    simp [hkept]
  unfold Path.ofText
  rw [hroot, hparts]

/-- On the way to a compiler the system refuses a name that is too long. -/
lemma resolve_of_long_name {part : String} (hslash : '/' ∉ part.toList)
    (hnul : '\x00' ∉ part.toList) (hsize : 255 < part.utf8ByteSize) (r : Resolver) (h : Host) :
    r.resolve h ("/" ++ part ++ "/dmd") =
      .error (.system .nameTooLong ("/" ++ part ++ "/dmd")) := by
  have hpath := ofText_of_long_name hslash hsize
  have htext : (⟨.slash, [part, "dmd"]⟩ : Path).text = "/" ++ part ++ "/dmd" := by
    simp [Path.text, PathRoot.text, String.append_assoc]
  have hname : ("/" ++ part ++ "/dmd").isEmpty = false := by
    simp
  have hcontains : ("/" ++ part ++ "/dmd").contains '/' = true := by
    simp [String.contains_char_eq]
  have hfamily : Family.ofProgram? ("/" ++ part ++ "/dmd") = some .dmd := by
    unfold Family.ofProgram?
    rw [hpath]
    change (let name := Family.withoutEnding ".exe".toList (Text.lower "dmd").toList;
      Family.programs.lookup (String.ofList (name.takeWhile (· != '-')))) = _
    cbv
  have hstatus : h.files.status h.directory ⟨.slash, [part, "dmd"]⟩ = .error .nameTooLong := by
    have hn : (⟨.slash, [part, "dmd"]⟩ : Path).hasNul = false := by
      simp [Path.hasNul, String.contains_char_eq, hnul]
    have hwalk : h.files.walk [] [part, "dmd"] = .error .nameTooLong := by
      unfold FileTree.walk
      exact if_pos hsize
    unfold FileTree.status FileTree.follow
    rw [hn, if_neg Bool.false_ne_true]
    split
    · rfl
    · exact congrArg (· >>= _) hwalk
  have hlook : h.lookForFile ⟨.slash, [part, "dmd"]⟩ =
      .error (.system .nameTooLong ("/" ++ part ++ "/dmd")) := by
    unfold Host.lookForFile Host.look FileTree.look
    rw [hstatus, htext]
    rfl
  rw [resolve_eq, hname, hfamily, locate_eq, hcontains, hpath, hlook]
  rfl

/-- One letter can make a name too long. -/
lemma resolve_of_long_word {n : Nat} (hn : 255 < n) (r : Resolver) (h : Host) :
    r.resolve h ("/" ++ String.ofList (List.replicate n 'a') ++ "/dmd") =
      .error (.system .nameTooLong ("/" ++ String.ofList (List.replicate n 'a') ++ "/dmd")) := by
  have hmem : ∀ c, c ≠ 'a' → c ∉ (String.ofList (List.replicate n 'a')).toList := by
    intro c hc hmem
    rw [String.toList_ofList] at hmem
    exact hc (List.eq_of_mem_replicate hmem)
  have hsize : ∀ m, (String.ofList (List.replicate m 'a')).utf8ByteSize = m := by
    intro m
    induction m with
    | zero => rfl
    | succ m ih =>
      rw [List.replicate_succ, String.ofList_cons, String.utf8ByteSize_append,
        String.utf8ByteSize_singleton, ih, Nat.add_comm]
      rfl
  exact resolve_of_long_name (hmem _ (by decide)) (hmem _ (by decide)) (by rwa [hsize]) r h

end DubCheck.Resolver
