import DubCheck.Proofs.Compiler.Resolver
import DubCheck.Workspace.Project
/-!
# What can be selected

A project *offers* the configurations that its recipe declares, the arch types of its compiler, its
build types, and every compiler that is found.  Three things can keep it from telling whether it
offers a value, or whether its active configuration is declared, and then it is *blocked*: the
implicit configuration of the recipe cannot be determined, the system refuses to follow the path of
a compiler, or the names of the configurations cannot be listed in a message.

* `rejection_of_offers`, `rejection_of_not_offers`: what `Project.rejection` says.
* `check_of_declares`, `check_of_error`, `check_of_not_declares`: what `Project.check` says.
-/

namespace DubCheck

namespace Recipe

variable {r : Recipe} {h : Host} {name : Document}

/-- The recipe declares a configuration of the given name, or it declares none and this is the
implicit one. -/
def Declares (r : Recipe) (h : Host) (name : Document) : Prop :=
  ∃ names, r.configurationNames h = .ok names ∧ ∃ n ∈ names, n.same name

lemma hasConfiguration_of_error {e : Failure} (hn : r.configurationNames h = .error e) :
    r.hasConfiguration h name = .error e := by
  unfold hasConfiguration
  rw [hn]
  rfl

lemma hasConfiguration_of_ok {names : List Document} (hn : r.configurationNames h = .ok names) :
    r.hasConfiguration h name = .ok (names.any (·.same name)) := by
  unfold hasConfiguration
  rw [hn]
  rfl

lemma declares_iff {names : List Document} (hn : r.configurationNames h = .ok names) :
    r.Declares h name ↔ names.any (·.same name) = true := by
  constructor
  · rintro ⟨names', hn', n, hmem, hsame⟩
    rw [hn] at hn'
    cases hn'
    exact List.any_eq_true.mpr ⟨n, hmem, hsame⟩
  · intro hany
    obtain ⟨n, hmem, hsame⟩ := List.any_eq_true.mp hany
    exact ⟨names, hn, n, hmem, hsame⟩

lemma hasConfiguration_of_declares (hd : r.Declares h name) :
    r.hasConfiguration h name = .ok true := by
  obtain ⟨names, hn, -⟩ := id hd
  rw [hasConfiguration_of_ok hn, (declares_iff hn).mp hd]

lemma hasConfiguration_of_not_declares {names : List Document}
    (hn : r.configurationNames h = .ok names) (hd : ¬ r.Declares h name) :
    r.hasConfiguration h name = .ok false := by
  rw [declares_iff hn, Bool.not_eq_true] at hd
  rw [hasConfiguration_of_ok hn, hd]

lemma exists_lookForFile_of_anyM {paths : List Path} {e : Failure}
    (he : paths.anyM h.lookForFile = .error e) : ∃ p ∈ paths, h.lookForFile p = .error e := by
  induction paths with
  | nil => cases he
  | cons p paths ih =>
    rw [List.anyM_cons] at he
    rcases bind_eq_error_iff.mp he with hp | ⟨found, -, he⟩
    · exact ⟨p, List.mem_cons_self, hp⟩
    · cases found with
      | true => cases he
      | false =>
        obtain ⟨q, hq, hlook⟩ := ih he
        exact ⟨q, List.mem_cons_of_mem p hq, hlook⟩

/-- The implicit configuration is not known only if what the package builds cannot be looked up, or
the system refuses to look for a file. -/
lemma implicitConfiguration_eq_error {e : Failure} (he : r.implicitConfiguration h = .error e) :
    (∃ reason, e = .shape reason) ∨ ∃ fault path, e = .system fault path := by
  rcases bind_eq_error_iff.mp he with ht | ⟨target, -, he⟩
  · obtain ⟨reason, -, rfl⟩ := mapError_eq_error_iff.mp ht
    exact Or.inl ⟨reason, rfl⟩
  · split at he
    · cases he
    · rcases bind_eq_error_iff.mp he with hany | ⟨_, _, ⟨⟩⟩
      obtain ⟨p, -, hp⟩ := exists_lookForFile_of_anyM hany
      exact Or.inr (Resolver.lookForFile_eq_error hp)

lemma configurationNames_eq_error {e : Failure} (hn : r.configurationNames h = .error e) :
    (∃ reason, e = .shape reason) ∨ ∃ fault path, e = .system fault path := by
  unfold configurationNames at hn
  split at hn
  · rcases bind_eq_error_iff.mp hn with hi | ⟨_, _, ⟨⟩⟩
    exact implicitConfiguration_eq_error hi
  · cases hn

end Recipe

namespace Project

variable {p : Project} {resolver : Resolver} {h : Host} {pick : Pick}

/-- A value that can be selected. -/
def Offers (p : Project) (resolver : Resolver) (h : Host) : Pick → Prop
  | .configuration name => p.recipe.Declares h name
  | .archType name => name ∈ p.selection.archTypes resolver
  | .buildType name => name ∈ p.recipe.buildTypes
  | .compiler name => ∃ c, resolver.resolve h name = .ok c

/-- Something keeps a project from telling whether it offers a value, or whether its active
configuration is declared. -/
inductive Blocked (p : Project) (resolver : Resolver) (h : Host) : Pick → Failure → Prop where
  /-- The implicit configuration cannot be determined, and a configuration is asked for. -/
  | names {name : Document} {e : Failure} :
    p.recipe.configurationNames h = .error e → Blocked p resolver h (.configuration name) e
  /-- The system refuses to follow the path of a compiler. -/
  | search {name : String} {fault : SystemFault} {path : String} :
    resolver.resolve h name = .error (.system fault path) →
      Blocked p resolver h (.compiler name) (.system fault path)
  /-- The implicit configuration cannot be determined, and the active one is to be checked. -/
  | active {pick : Pick} {e : Failure} :
    p.Offers resolver h pick → ¬ pick.isConfiguration → p.recipe.configurationNames h = .error e →
      Blocked p resolver h pick e
  /-- The active configuration is not declared, and those that are cannot be listed. -/
  | listing {pick : Pick} {names : List Document} {e : ShapeError} :
    p.Offers resolver h pick → ¬ pick.isConfiguration → p.recipe.configurationNames h = .ok names →
      ¬ p.recipe.Declares h p.selection.configuration → Document.joined names = .error e →
      Blocked p resolver h pick (.shape e)

lemma rejection_of_offers (ho : p.Offers resolver h pick) :
    p.rejection resolver h pick = .ok none := by
  cases pick with
  | configuration name =>
    unfold rejection
    simp only [Recipe.hasConfiguration_of_declares ho]
    rfl
  | archType name =>
    unfold rejection
    simp only [if_pos (List.contains_iff_mem.mpr ho)]
  | buildType name =>
    unfold rejection
    simp only [if_pos (List.contains_iff_mem.mpr ho)]
  | compiler name =>
    obtain ⟨c, hc⟩ := ho
    unfold rejection
    simp only [hc]

/-- A value that is not offered is rejected for a reason, unless the project is blocked. -/
lemma rejection_of_not_offers (ho : ¬ p.Offers resolver h pick) :
    (∃ text, p.rejection resolver h pick = .ok (some text)) ∨
      ∃ e, p.Blocked resolver h pick e := by
  cases pick with
  | configuration name =>
    cases hn : p.recipe.configurationNames h with
    | error e => exact Or.inr ⟨e, .names hn⟩
    | ok names =>
      left
      unfold rejection
      simp only [Recipe.hasConfiguration_of_not_declares hn ho]
      exact ⟨_, rfl⟩
  | archType name =>
    left
    unfold rejection
    simp only [if_neg (mt List.contains_iff_mem.mp ho)]
    exact ⟨_, rfl⟩
  | buildType name =>
    left
    unfold rejection
    simp only [if_neg (mt List.contains_iff_mem.mp ho)]
    exact ⟨_, rfl⟩
  | compiler name =>
    rcases resolver.resolve_cases h name with hc | ⟨reason, hc⟩ | ⟨fault, path, hc⟩
    · exact absurd hc ho
    · left
      unfold rejection
      exact ⟨compilerNote name reason, by simp only [hc]⟩
    · exact Or.inr ⟨_, .search hc⟩

lemma check_of_declares (hd : p.recipe.Declares h p.selection.configuration) :
    p.check h = .ok () := by
  unfold check isValid
  rw [Recipe.hasConfiguration_of_declares hd]
  rfl

lemma check_of_error {e : Failure} (hn : p.recipe.configurationNames h = .error e) :
    p.check h = .error e := by
  unfold check isValid
  rw [Recipe.hasConfiguration_of_error hn]
  rfl

/-- An active configuration that is not declared is reported together with the names of those that
are, unless these are no texts. -/
lemma check_of_not_declares {names : List Document}
    (hn : p.recipe.configurationNames h = .ok names)
    (hd : ¬ p.recipe.Declares h p.selection.configuration) :
    p.check h =
      match Document.joined names with
      | .error e => .error (.shape e)
      | .ok text =>
        .error (.invalidConfiguration p.selection.configuration.display (orNone text)) := by
  unfold check isValid
  rw [Recipe.hasConfiguration_of_not_declares hn hd, hn]
  change ((Document.joined names).mapError Failure.shape >>= fun text => throw
    (.invalidConfiguration p.selection.configuration.display (orNone text))) = _
  cases Document.joined names <;> rfl

end Project

end DubCheck
