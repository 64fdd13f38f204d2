import DubCheck.Proofs.Project.Coherence
/-!
# Interruptions of a selection

A value is selected before the paths that go with it are asked for.  If they cannot be found, there
are no paths, and the selection has not failed.  Only an interruption of the question makes it fail
at this point: the value stays selected then, and the paths stay those of the former selection.

* `select_of_interrupted`: what an interruption leaves behind.
* `failsSafely_iff`: a selection that fails leaves everything as it was, unless it was interrupted
  on the way to another value.
-/

namespace DubCheck

namespace Project

variable {provider : Dub.Provider} {resolver : Resolver} {pick : Pick} {w : Workbench}

/-- If selecting a value fails, all selections and all paths are what they were. -/
def FailsSafely (provider : Dub.Provider) (resolver : Resolver) (pick : Pick) (w : Workbench) :
    Prop :=
  ∀ e w', (select provider resolver pick).apply w = (.error e, w') →
    w'.project.selection = w.project.selection ∧ w'.project.paths = w.project.paths

/-- A value can be selected, and the question for the paths that go with it is interrupted. -/
structure Interrupted (provider : Dub.Provider) (resolver : Resolver) (pick : Pick)
    (w : Workbench) : Prop where
  takes : w.project.Takes resolver w.host pick
  asked : ∃ settings, (w.project.selection.set pick).settings resolver w.host = .ok settings ∧
    ((provider.list { settings with syntaxOnly := true, combined := true } pathFields).apply
      w.host).1 = .error .interrupted

/-! ## The question -/

lemma askCourse_of_settings {settings : Dub.Settings}
    (hs : w.project.selection.settings resolver w.host = .ok settings) :
    askCourse resolver w = .asks { settings with syntaxOnly := true, combined := true } w := by
  unfold askCourse
  rw [hs]

/-- Asking for the paths fails only if the question is put and interrupted. -/
lemma asked_of_askCourse_error {e : Failure}
    (he : ((askCourse resolver w).follow provider).1 = .error e) :
    ∃ settings, w.project.selection.settings resolver w.host = .ok settings ∧
      ((provider.list { settings with syntaxOnly := true, combined := true } pathFields).apply
        w.host).1 = .error .interrupted := by
  -- What is done with the paths, or with the failure to find them, does not fail by itself.
  have hconclude : ∀ {answer : Except Failure (List (List String))} {w' : Workbench},
      (conclude (answer.bind PathSet.ofLists) w').1 = .error e → answer = .error .interrupted := by
    intro answer w' hfail
    by_contra hne
    obtain ⟨level, text, h⟩ := conclude_bind_ofLists hne w'
    rw [h] at hfail
    cases hfail
  cases hs : w.project.selection.settings resolver w.host with
  | error e' =>
    unfold askCourse at he
    rw [hs] at he
    have hinterrupted : (.error e' : Except Failure (List (List String))) = .error .interrupted :=
      hconclude he
    cases hinterrupted
    exact absurd hs Selection.settings_ne_interrupted
  | ok settings =>
    rw [askCourse_of_settings hs] at he
    exact ⟨settings, rfl, hconclude he⟩

/-! ## What is left behind -/

/-- An interruption leaves the new selection behind, and the old paths. -/
lemma select_of_interrupted (h : Interrupted provider resolver pick w) :
    ∃ host, (select provider resolver pick).apply w = (.error .interrupted,
      ⟨host, { w.project with selection := w.project.selection.set pick }⟩) := by
  obtain ⟨settings, hs, hasked⟩ := h.asked
  have hcourse := askCourse_of_settings (w := withPick pick w) hs
  rw [select_apply, selectCourse_of_takes h.takes, hcourse]
  have hhost : (withPick pick w).host = w.host := rfl
  simp only [Course.follow, hhost]
  generalize (provider.list { settings with syntaxOnly := true, combined := true }
    pathFields).apply w.host = reply at hasked ⊢
  obtain ⟨answer, host⟩ := reply
  cases hasked
  exact ⟨host, rfl⟩

/-- A value that can be selected is selected, unless somebody interrupts. -/
lemma interrupted_of_takes {e : Failure} (ht : w.project.Takes resolver w.host pick)
    (he : ((select provider resolver pick).apply w).1 = .error e) :
    Interrupted provider resolver pick w := by
  rw [select_apply, selectCourse_of_takes ht] at he
  exact ⟨ht, asked_of_askCourse_error (w := withPick pick w) he⟩

/-- A selection that fails has been interrupted, or it has not touched the project. -/
lemma interrupted_or_project_eq {e : Failure} {w' : Workbench}
    (he : (select provider resolver pick).apply w = (.error e, w')) :
    Interrupted provider resolver pick w ∨ w'.project = w.project := by
  by_cases ht : w.project.Takes resolver w.host pick
  · exact Or.inl (interrupted_of_takes ht (congrArg Prod.fst he))
  · obtain ⟨result, host, -, hcourse⟩ := selectCourse_of_not_takes ht
    rw [select_apply, hcourse] at he
    cases he
    exact Or.inr rfl

/-- **Failed selections.**  That a failure leaves all selections and paths as they were holds
exactly unless the selection is interrupted on the way to a value that is not selected yet.  An
interruption leaves the new selection behind, and the paths of the old one. -/
theorem failsSafely_iff (provider : Dub.Provider) (resolver : Resolver) (pick : Pick)
    (w : Workbench) :
    (FailsSafely provider resolver pick w ↔
      (Interrupted provider resolver pick w →
        w.project.selection.set pick = w.project.selection)) ∧
    (Interrupted provider resolver pick w → ∃ host,
      (select provider resolver pick).apply w = (.error .interrupted,
        ⟨host, { w.project with selection := w.project.selection.set pick }⟩)) := by
  refine ⟨⟨fun hsafe hint => ?_, fun hsame e w' he => ?_⟩, select_of_interrupted⟩
  · obtain ⟨host, h⟩ := select_of_interrupted hint
    exact (hsafe _ _ h).1
  · rcases interrupted_or_project_eq he with hint | hproject
    · obtain ⟨host, h⟩ := select_of_interrupted hint
      rw [h] at he
      cases he
      exact ⟨hsame hint, rfl⟩
    · rw [hproject]
      exact ⟨rfl, rfl⟩

/-! A project with paths, and a provider that is interrupted while it looks at release builds. -/

/-- A provider that is interrupted while it looks at release builds. -/
def interruptedProvider : Dub.Provider where
  list settings _ :=
    if settings.buildType = "release" then throw .interrupted
    else pure [["source"], [], ["source/app.d"]]
  describe _ := throw .notStarted

/-- A project whose paths have been listed. -/
def listedProject : Project where
  recipe := sampleRecipe
  selection := { configuration := .string "app", compiler := "dmd" }
  paths := ⟨["source"], [], ["source/app.d"]⟩

/-- If the release build type is selected and the question for its paths is interrupted, it stays
selected. -/
theorem not_failsSafely_of_release :
    ¬ FailsSafely interruptedProvider {} (.buildType "release") ⟨sampleHost, listedProject⟩ := by
  have hfound : ({} : Resolver).resolve sampleHost "dmd" = .ok ⟨.dmd, "dmd", "/bin/dmd"⟩ := by
    cbv
  have hd : (Document.string "app").display = "app" := by cbv
  have hs : (listedProject.selection.set (.buildType "release")).settings {} sampleHost =
      .ok { configuration := "app", buildType := "release", compiler := ⟨.dmd, "dmd", "/bin/dmd"⟩,
            archType := some "x86_64" } := by
    rw [Selection.settings_eq]
    simp only [Selection.set, listedProject, hfound, Except.map, hd]
  have htakes : listedProject.Takes {} sampleHost (.buildType "release") := by
    refine ⟨?_, Or.inr ⟨[.string "app"], rfl, _, List.mem_singleton_self _, by cbv⟩⟩
    change "release" ∈ sampleRecipe.buildTypes
    decide
  have hint : Interrupted interruptedProvider {} (.buildType "release")
      ⟨sampleHost, listedProject⟩ := ⟨htakes, _, hs, rfl⟩
  intro hsafe
  have hsame := ((failsSafely_iff _ _ _ _).1.mp hsafe) hint
  have hbuild : "release" = "debug" := congrArg Selection.buildType hsame
  exact absurd hbuild (by decide)

end Project

end DubCheck
