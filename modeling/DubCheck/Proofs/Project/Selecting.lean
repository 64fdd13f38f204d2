import DubCheck.Proofs.Project.Course
/-!
# What comes of selecting a value

There are three ways for a selection to go.  A value that is not offered is rejected, and no
selection and no path changes.  A value other than a configuration fails while the active
configuration is not declared, and again nothing changes.  Otherwise one selection becomes the
value, and all paths are replaced by what comes of one question at most.

* `Selects`, `SelectsLawfully`: the third way, and the law that there are only these three.
* `selectsLawfully_iff`: the law holds exactly where the project is not blocked.  Where it is, the
  failure that blocks it is passed on, and nothing changes.
* `not_selectsLawfully_of_long_path`: the path of a compiler that is too long is not rejected.
-/

namespace DubCheck

namespace Project

variable {resolver : Resolver} {pick : Pick} {w : Workbench}

/-- The value becomes one of the selections, and the other three stay.  If no compiler of the name
that is then selected is found, there are no paths and nobody is asked for any.  Otherwise one
question is asked, which carries the selections, and what comes of the answer replaces the paths. -/
def Selects (resolver : Resolver) (pick : Pick) (w : Workbench) : Prop :=
  let s := w.project.selection.set pick
  (∀ e, resolver.resolve w.host s.compiler = .error e → ∃ level text, ∀ provider,
    (select provider resolver pick).apply w =
      (.ok false,
        ⟨w.host.noted level text, { w.project with selection := s, paths := {} }⟩)) ∧
  ∀ c, resolver.resolve w.host s.compiler = .ok c → ∃ settings, settings.Carries s ∧
    ∀ provider answer host, (provider.list settings pathFields).apply w.host = (answer, host) →
      answer ≠ .error .interrupted → ∃ level text,
        (select provider resolver pick).apply w =
          (.ok (PathSet.ofAnswer answer).hasPaths,
            ⟨host.noted level text,
              { w.project with selection := s, paths := PathSet.ofAnswer answer }⟩)

/-- Selecting a value goes one of three ways, and which one it is depends on whether the value is
offered and on whether the active configuration is declared. -/
structure SelectsLawfully (resolver : Resolver) (pick : Pick) (w : Workbench) : Prop where
  /-- What is not offered is rejected. -/
  rejected : ¬ w.project.Offers resolver w.host pick → ∃ text, ∀ provider,
    (select provider resolver pick).apply w =
      (.ok false, { w with host := w.host.noted .info text })
  /-- Only a configuration can be selected while the active one is not declared. -/
  invalid : w.project.Offers resolver w.host pick → ¬ pick.isConfiguration →
    ¬ w.project.recipe.Declares w.host w.project.selection.configuration →
    ∃ active available, ∀ provider,
      (select provider resolver pick).apply w = (.error (.invalidConfiguration active available), w)
  /-- Everything else is selected. -/
  selected : w.project.Offers resolver w.host pick →
    (pick.isConfiguration ∨
      w.project.recipe.Declares w.host w.project.selection.configuration) →
    Selects resolver pick w

/-! ## Blocked projects -/

lemma select_of_blocked {e : Failure} (hb : w.project.Blocked resolver w.host pick e)
    (provider : Dub.Provider) : (select provider resolver pick).apply w = (.error e, w) := by
  rw [select_apply, selectCourse_of_blocked hb]
  rfl

/-- A project is blocked only by documents of the wrong shape and by refusals of the system. -/
lemma Blocked.cause {p : Project} {h : Host} {e : Failure} (hb : p.Blocked resolver h pick e) :
    (∃ reason, e = .shape reason) ∨ ∃ fault path, e = .system fault path := by
  cases hb with
  | names hn => exact Recipe.configurationNames_eq_error hn
  | search _ => exact Or.inr ⟨_, _, rfl⟩
  | active _ _ hn => exact Recipe.configurationNames_eq_error hn
  | listing _ _ _ _ _ => exact Or.inl ⟨_, rfl⟩

/-- Nothing blocks a project that offers the value and has a valid configuration to go with it. -/
lemma Blocked.not_valid {p : Project} {h : Host} {e : Failure} (hb : p.Blocked resolver h pick e)
    (ho : p.Offers resolver h pick) :
    ¬ (pick.isConfiguration ∨ p.recipe.Declares h p.selection.configuration) := by
  have undeclared : ∀ {name e}, p.recipe.configurationNames h = .error e →
      ¬ p.recipe.Declares h name := by
    rintro name e hn ⟨names, hn', -⟩
    rw [hn] at hn'
    cases hn'
  cases hb with
  | names hn => exact absurd ho (undeclared hn)
  | search hc =>
    obtain ⟨c, hc'⟩ := ho
    rw [hc] at hc'
    cases hc'
  | active _ hp hn => exact not_or.mpr ⟨hp, undeclared hn⟩
  | listing _ hp _ hd _ => exact not_or.mpr ⟨hp, hd⟩

/-! ## The third way -/

lemma selects_of_offers (ho : w.project.Offers resolver w.host pick)
    (hd : pick.isConfiguration ∨
      w.project.recipe.Declares w.host w.project.selection.configuration) :
    Selects resolver pick w := by
  have hcourse := selectCourse_of_offers ho hd
  refine ⟨fun e he => ?_, fun c hc => ?_⟩
  · obtain ⟨level, text, hask⟩ := askCourse_of_resolve_error (w := withPick pick w) he
    refine ⟨level, text, fun provider => ?_⟩
    rw [select_apply, hcourse, hask]
    rfl
  · obtain ⟨settings, hcarries, hask⟩ := askCourse_of_resolve_ok (w := withPick pick w) hc
    refine ⟨settings, hcarries, fun provider answer host hanswer hne => ?_⟩
    obtain ⟨level, text, hend⟩ :=
      conclude_bind_ofLists hne { withPick pick w with host := host }
    have hhost : (provider.list settings pathFields).apply (withPick pick w).host =
        (answer, host) := hanswer
    refine ⟨level, text, ?_⟩
    rw [select_apply, hcourse, hask]
    simp only [Course.follow, hhost]
    exact hend

/-! ## The law -/

/-- **What comes of selecting a value.**  Selecting goes one of the three ways exactly if the
project is not blocked.  If it is, the failure that blocks it is passed on, nobody is asked anything
and nothing changes. -/
theorem selectsLawfully_iff (resolver : Resolver) (pick : Pick) (w : Workbench) :
    (SelectsLawfully resolver pick w ↔ ∀ e, ¬ w.project.Blocked resolver w.host pick e) ∧
      ∀ e, w.project.Blocked resolver w.host pick e → ∀ provider,
        (select provider resolver pick).apply w = (.error e, w) := by
  refine ⟨⟨fun hl e hb => ?_, fun hb => ⟨fun ho => ?_, fun ho hp hd => ?_, selects_of_offers⟩⟩,
    fun e hb provider => select_of_blocked hb provider⟩
  · -- The outcome is that of the block, which none of the first two ways has, and the third way is
    -- not open to a blocked project.
    have provider : Dub.Provider := ⟨fun _ _ => throw .notStarted, fun _ => throw .notStarted⟩
    have hfail := select_of_blocked hb provider
    by_cases ho : w.project.Offers resolver w.host pick
    · obtain ⟨hp, hd⟩ := not_or.mp (hb.not_valid ho)
      obtain ⟨active, available, hinvalid⟩ := hl.invalid ho hp hd
      rw [hinvalid provider] at hfail
      cases hfail
      rcases hb.cause with ⟨_, he⟩ | ⟨_, _, he⟩ <;> cases he
    · obtain ⟨text, hreject⟩ := hl.rejected ho
      rw [hreject provider] at hfail
      cases hfail
  · rcases selectCourse_of_not_offers ho with ⟨text, hcourse⟩ | ⟨e, he⟩
    · refine ⟨text, fun provider => ?_⟩
      rw [select_apply, hcourse]
      rfl
    · exact absurd he (hb e)
  · rcases selectCourse_of_not_declares ho hp hd with ⟨active, available, hcourse⟩ | ⟨e, he⟩
    · refine ⟨active, available, fun provider => ?_⟩
      rw [select_apply, hcourse]
      rfl
    · exact absurd he (hb e)

/-! A compiler is asked for by a path with a name in it that is too long. -/

/-- The path of a compiler in a directory whose name is too long. -/
def longPath : String :=
  "/" ++ String.ofList (List.replicate 256 'a') ++ "/dmd"

/-- A host without any files. -/
def emptyHost : Host where
  files := {}
  directory := []
  environment := []
  machine := "x86_64"
  dub := fun _ => .finished [] [] 0

/-- A program without configurations. -/
def programProject : Project where
  recipe := {
    directory := ⟨.slash, ["p"]⟩
    file := ⟨.slash, ["p", "dub.json"]⟩
    targetType := .string "executable" }
  selection := { configuration := .string "application", compiler := "dmd" }

/-- The path of a compiler that is too long is not rejected: the refusal of the system is passed
on. -/
theorem not_selectsLawfully_of_long_path :
    ¬ SelectsLawfully {} (.compiler longPath) ⟨emptyHost, programProject⟩ ∧
      ∀ provider, (select provider {} (.compiler longPath)).apply ⟨emptyHost, programProject⟩ =
        (.error (.system .nameTooLong longPath), ⟨emptyHost, programProject⟩) := by
  have hresolve : ({} : Resolver).resolve emptyHost longPath =
      .error (.system .nameTooLong longPath) := by
    have hsize : ∀ n, (String.ofList (List.replicate n 'a')).utf8ByteSize = n := by
      intro n
      induction n with
      | zero => rfl
      | succ n ih =>
        rw [List.replicate_succ, String.ofList_cons, String.utf8ByteSize_append,
          String.utf8ByteSize_singleton, ih, Nat.add_comm]
        rfl
    have hmem : ∀ c ∈ (String.ofList (List.replicate 256 'a')).toList, c = 'a' := by
      intro c hc
      rw [String.toList_ofList] at hc
      exact List.eq_of_mem_replicate hc
    refine Resolver.resolve_of_long_name (fun hc => ?_) (fun hc => ?_) ?_ _ _
    · cases hmem _ hc
    · cases hmem _ hc
    · rw [hsize]
      decide
  have hfail := select_of_blocked (w := ⟨emptyHost, programProject⟩) (.search hresolve)
  refine ⟨fun hl => ?_, hfail⟩
  have ho : ¬ programProject.Offers {} emptyHost (.compiler longPath) := by
    rintro ⟨c, hc⟩
    rw [hresolve] at hc
    cases hc
  have provider : Dub.Provider := ⟨fun _ _ => throw .notStarted, fun _ => throw .notStarted⟩
  obtain ⟨text, hreject⟩ := hl.rejected ho
  have h := hfail provider
  rw [hreject provider] at h
  cases h

end Project

end DubCheck
