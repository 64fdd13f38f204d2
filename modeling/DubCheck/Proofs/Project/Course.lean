import DubCheck.Proofs.Project.Availability
/-!
# How an operation on a project goes

Selecting a value and asking for the paths again read the recipe, the files and the selection, and
then put at most one question to the provider.  A `Course` says how far an operation gets by itself:
it ends, or it asks the provider with certain settings and has only the answer left to wait for.
No provider occurs in a course, so what an operation does before its question cannot depend on one,
and an operation whose course ends asks nothing.

* `Selection.carries_of_settings`: what a provider is told about a selection.
* `conclude_bind_ofLists`: whatever the answer is, all paths are replaced by what comes of it.
* `refresh_apply` and `select_apply`: the two operations are their courses, followed with the
  provider at hand.
* `selectCourse_cases`: selecting a value either ends and leaves the project as it is, or goes on to
  the question with the value selected.
-/

namespace DubCheck

/-! ## What a provider is told -/

/-- The settings carry a selection: its configuration, arch type and build type, and a compiler of
the selected name. -/
structure Dub.Settings.Carries (settings : Dub.Settings) (s : Selection) : Prop where
  configuration : settings.configuration = s.configuration.display
  archType : settings.archType = some s.archType
  buildType : settings.buildType = s.buildType
  compiler : settings.compiler.binary = s.compiler

namespace Selection

variable {s : Selection} {resolver : Resolver} {h : Host}

lemma settings_eq (s : Selection) (resolver : Resolver) (h : Host) :
    s.settings resolver h = (resolver.resolve h s.compiler).map fun c =>
      { configuration := s.configuration.display, buildType := s.buildType, compiler := c,
        archType := some s.archType } := by
  unfold settings
  cases resolver.resolve h s.compiler <;> rfl

lemma carries_of_settings {settings : Dub.Settings} (hs : s.settings resolver h = .ok settings) :
    settings.Carries s := by
  rw [settings_eq] at hs
  obtain ⟨c, hc, rfl⟩ := map_eq_ok_iff.mp hs
  exact ⟨rfl, rfl, rfl, Resolver.binary_of_resolve hc⟩

/-- Nobody is interrupted while a compiler is looked for. -/
lemma settings_ne_interrupted : s.settings resolver h ≠ .error .interrupted := by
  rw [settings_eq, Ne, map_eq_error_iff]
  exact Resolver.resolve_ne_interrupted _

end Selection

/-! ## What comes of an answer -/

/-- The paths that come of an answer: its three lists without the empty paths in them.  Anything
but three lists gives no paths. -/
def PathSet.ofAnswer : Except Failure (List (List String)) → PathSet
  | .ok [imports, stringImports, sources] =>
    ⟨imports.filter (· ≠ ""), stringImports.filter (· ≠ ""), sources.filter (· ≠ "")⟩
  | _ => {}

/-- An answer gives no paths, or it is three lists. -/
lemma PathSet.ofAnswer_cases (answer : Except Failure (List (List String))) :
    PathSet.ofAnswer answer = {} ∨
      ∃ imports stringImports sources, answer = .ok [imports, stringImports, sources] ∧
        PathSet.ofAnswer answer =
          ⟨imports.filter (· ≠ ""), stringImports.filter (· ≠ ""), sources.filter (· ≠ "")⟩ := by
  unfold PathSet.ofAnswer
  split
  · exact Or.inr ⟨_, _, _, rfl, rfl⟩
  · exact Or.inl rfl

lemma PathSet.ofLists_eq (lists : List (List String)) :
    PathSet.ofLists lists = .ok (PathSet.ofAnswer (.ok lists)) ∨
      PathSet.ofLists lists = .error (.pathLists pathFields.length lists.length) ∧
        PathSet.ofAnswer (.ok lists) = {} := by
  have nonempty : (fun s : String => !s.isEmpty) = fun s => decide (s ≠ "") := by
    funext s
    by_cases h : s = "" <;> simp [h]
  match lists with
  | [] | [_] | [_, _] | _ :: _ :: _ :: _ :: _ => exact Or.inr ⟨rfl, rfl⟩
  | [imports, stringImports, sources] =>
    left
    simp only [PathSet.ofLists, PathSet.ofAnswer, nonempty]

namespace Project

/-- What is done with the paths that have been found, or with the failure to find them.  Only an
interruption leaves the old paths in place. -/
def conclude (found : Except Failure PathSet) (w : Workbench) : Except Failure Bool × Workbench :=
  match found with
  | .error .interrupted => (.error .interrupted, w)
  | .error e =>
    (.ok false,
      ⟨w.host.noted .warning ("Exception while listing import paths: " ++ e.message),
        { w.project with paths := {} }⟩)
  | .ok paths =>
    (.ok paths.hasPaths,
      ⟨w.host.noted .info (pathsNote w.project.selection paths),
        { w.project with paths := paths }⟩)

/-- Unless it is an interruption, every answer replaces all paths, and the result is whether there
is anything to import from. -/
lemma conclude_bind_ofLists {answer : Except Failure (List (List String))}
    (h : answer ≠ .error .interrupted) (w : Workbench) :
    ∃ level text, conclude (answer.bind PathSet.ofLists) w =
      (.ok (PathSet.ofAnswer answer).hasPaths,
        ⟨w.host.noted level text, { w.project with paths := PathSet.ofAnswer answer }⟩) := by
  cases answer with
  | error e =>
    refine ⟨.warning, "Exception while listing import paths: " ++ e.message, ?_⟩
    cases e <;> first | rfl | exact absurd rfl h
  | ok lists =>
    rcases PathSet.ofLists_eq lists with hlists | ⟨hlists, hempty⟩
    · exact ⟨.info, _, by simp only [Except.bind, hlists]; rfl⟩
    · exact ⟨.warning, _, by simp only [Except.bind, hlists, hempty]; rfl⟩

/-! ## Courses -/

/-- A question that has been put to a provider, and what came of it. -/
structure Exchange where
  /-- The settings of the question. -/
  settings : Dub.Settings
  /-- The answer. -/
  answer : Except Failure (List (List String))

/-- How far an operation gets without a provider. -/
inductive Course where
  /-- It ends in the given way. -/
  | ends (result : Except Failure Bool × Workbench)
  /-- It asks for the paths with the given settings, in the given situation. -/
  | asks (settings : Dub.Settings) (w : Workbench)

namespace Course

/-- The rest of an operation, with a provider that answers its question. -/
def follow (provider : Dub.Provider) : Course → Except Failure Bool × Workbench
  | .ends result => result
  | .asks settings w =>
    let (answer, host) := (provider.list settings pathFields).apply w.host
    conclude (answer.bind PathSet.ofLists) { w with host := host }

/-- The question that is put to a provider, if there is one, and its answer. -/
def exchange? (provider : Dub.Provider) : Course → Option Exchange
  | .ends _ => none
  | .asks settings w => some ⟨settings, ((provider.list settings pathFields).apply w.host).1⟩

end Course

/-- How asking for the paths goes once the active configuration has been checked. -/
def askCourse (resolver : Resolver) (w : Workbench) : Course :=
  match w.project.selection.settings resolver w.host with
  | .error e => .ends (conclude (.error e) w)
  | .ok settings => .asks { settings with syntaxOnly := true, combined := true } w

/-- How asking for the paths again goes. -/
def refreshCourse (resolver : Resolver) (w : Workbench) : Course :=
  match w.project.check w.host with
  | .error e => .ends (.error e, w)
  | .ok () => askCourse resolver w

/-- The situation after a value has been selected, before the paths are asked for. -/
def withPick (pick : Pick) (w : Workbench) : Workbench :=
  { w with project := { w.project with selection := w.project.selection.set pick } }

/-- How selecting a value goes. -/
def selectCourse (resolver : Resolver) (pick : Pick) (w : Workbench) : Course :=
  match w.project.rejection resolver w.host pick with
  | .error e => .ends (.error e, w)
  | .ok (some text) => .ends (.ok false, { w with host := w.host.noted .info text })
  | .ok none =>
    match if pick.isConfiguration then .ok () else w.project.check w.host with
    | .error e => .ends (.error e, w)
    | .ok () => refreshCourse resolver (withPick pick w)

/-! ## The operations follow their courses -/

@[simp] lemma validate_apply (w : Workbench) :
    validate.apply w = (w.project.check w.host, w) := by
  simp [validate, Act.apply_bind]

/-- Asking for the paths and concluding is the course that begins after the check. -/
lemma conclude_queryPaths (provider : Dub.Provider) (resolver : Resolver) (w : Workbench) :
    conclude ((queryPaths provider resolver).apply w).1 ((queryPaths provider resolver).apply w).2 =
      (askCourse resolver w).follow provider := by
  unfold askCourse
  simp only [queryPaths, Act.apply_bind, Act.apply_get, Act.apply_ofExcept]
  cases w.project.selection.settings resolver w.host with
  | error e => rfl
  | ok settings =>
    simp only [Workbench.onHost, Act.apply_onPart, Course.follow]
    rcases (provider.list { settings with syntaxOnly := true, combined := true }
      pathFields).apply w.host with ⟨e | lists, host⟩ <;> rfl

/-- Asking for the paths again is its course, followed with the provider. -/
theorem refresh_apply (provider : Dub.Provider) (resolver : Resolver) (w : Workbench) :
    (refresh provider resolver).apply w = (refreshCourse resolver w).follow provider := by
  unfold refreshCourse
  simp only [refresh, Act.apply_bind, validate_apply, Act.apply_outcome]
  cases w.project.check w.host with
  | error e => rfl
  | ok u =>
    rw [← conclude_queryPaths]
    simp only
    rcases (queryPaths provider resolver).apply w with ⟨e | paths, t⟩
    · cases e <;> rfl
    · rfl

/-- Selecting a value is its course, followed with the provider. -/
theorem select_apply (provider : Dub.Provider) (resolver : Resolver) (pick : Pick)
    (w : Workbench) :
    (select provider resolver pick).apply w = (selectCourse resolver pick w).follow provider := by
  simp only [select, selectCourse, Act.apply_bind, Act.apply_get, Act.apply_ofExcept]
  -- Whether the value is rejected cannot be told, it is not, or it is.
  rcases w.project.rejection resolver w.host pick with e | (_ | text)
  · rfl
  · cases pick.isConfiguration with
    | true =>
      simp only [Act.apply_bind, Bool.not_true, Bool.false_eq_true, if_false, if_true,
        Act.apply_modify, refresh_apply]
      rfl
    | false =>
      simp only [Act.apply_bind, Bool.not_false, if_true, validate_apply, Bool.false_eq_true,
        if_false]
      cases w.project.check w.host with
      | error e => rfl
      | ok u =>
        simp only [Act.apply_modify, refresh_apply]
        rfl
  · rfl

/-! ## The ways in which selecting a value can go -/

variable {resolver : Resolver} {pick : Pick} {w : Workbench}

/-- Without a compiler nobody is asked, and there are no paths. -/
lemma askCourse_of_resolve_error {e : Failure}
    (he : resolver.resolve w.host w.project.selection.compiler = .error e) :
    ∃ level text, askCourse resolver w =
      .ends (.ok false, ⟨w.host.noted level text, { w.project with paths := {} }⟩) := by
  have hs : w.project.selection.settings resolver w.host = .error e := by
    rw [Selection.settings_eq, he]
    rfl
  have hne : (.error e : Except Failure (List (List String))) ≠ .error .interrupted := by
    rintro ⟨⟩
    exact Selection.settings_ne_interrupted hs
  obtain ⟨level, text, h⟩ := conclude_bind_ofLists hne w
  refine ⟨level, text, ?_⟩
  unfold askCourse
  rw [hs]
  exact congrArg Course.ends h

/-- With a compiler the question is about what is selected. -/
lemma askCourse_of_resolve_ok {c : Compiler}
    (hc : resolver.resolve w.host w.project.selection.compiler = .ok c) :
    ∃ settings, settings.Carries w.project.selection ∧
      askCourse resolver w = .asks settings w := by
  cases hs : w.project.selection.settings resolver w.host with
  | error e =>
    rw [Selection.settings_eq, hc] at hs
    cases hs
  | ok settings =>
    have h := Selection.carries_of_settings hs
    refine ⟨{ settings with syntaxOnly := true, combined := true },
      ⟨h.configuration, h.archType, h.buildType, h.compiler⟩, ?_⟩
    unfold askCourse
    rw [hs]

lemma refreshCourse_of_declares
    (hd : w.project.recipe.Declares w.host w.project.selection.configuration) :
    refreshCourse resolver w = askCourse resolver w := by
  unfold refreshCourse
  rw [check_of_declares hd]

/-- A configuration that is offered is declared once it is active, and the other values leave the
active configuration as it is. -/
lemma declares_withPick (ho : w.project.Offers resolver w.host pick)
    (hd : pick.isConfiguration ∨
      w.project.recipe.Declares w.host w.project.selection.configuration) :
    (withPick pick w).project.recipe.Declares w.host
      (withPick pick w).project.selection.configuration := by
  cases pick with
  | configuration name => exact ho
  | archType name | buildType name | compiler name => exact hd.resolve_left Bool.false_ne_true

/-- A blocked project ends with the failure that blocks it, and nothing has changed. -/
lemma selectCourse_of_blocked {e : Failure} (hb : w.project.Blocked resolver w.host pick e) :
    selectCourse resolver pick w = .ends (.error e, w) := by
  cases hb with
  | names hn =>
    unfold selectCourse rejection
    simp only [Recipe.hasConfiguration_of_error hn]
    rfl
  | search hc =>
    unfold selectCourse rejection
    simp only [hc]
  | active ho hp hn =>
    unfold selectCourse
    rw [rejection_of_offers ho]
    simp only [hp, Bool.false_eq_true, if_false, check_of_error hn]
  | listing ho hp hn hd hj =>
    unfold selectCourse
    rw [rejection_of_offers ho]
    simp only [hp, Bool.false_eq_true, if_false, check_of_not_declares hn hd, hj]

lemma selectCourse_of_not_offers (ho : ¬ w.project.Offers resolver w.host pick) :
    (∃ text, selectCourse resolver pick w =
        .ends (.ok false, { w with host := w.host.noted .info text })) ∨
      ∃ e, w.project.Blocked resolver w.host pick e := by
  rcases rejection_of_not_offers ho with ⟨text, hr⟩ | hb
  · left
    unfold selectCourse
    exact ⟨text, by rw [hr]⟩
  · exact Or.inr hb

lemma selectCourse_of_not_declares (ho : w.project.Offers resolver w.host pick)
    (hp : ¬ pick.isConfiguration)
    (hd : ¬ w.project.recipe.Declares w.host w.project.selection.configuration) :
    (∃ active available, selectCourse resolver pick w =
        .ends (.error (.invalidConfiguration active available), w)) ∨
      ∃ e, w.project.Blocked resolver w.host pick e := by
  cases hn : w.project.recipe.configurationNames w.host with
  | error e => exact Or.inr ⟨e, .active ho hp hn⟩
  | ok names =>
    cases hj : Document.joined names with
    | error e => exact Or.inr ⟨.shape e, .listing ho hp hn hd hj⟩
    | ok text =>
      left
      unfold selectCourse
      rw [rejection_of_offers ho]
      simp only [hp, Bool.false_eq_true, if_false, check_of_not_declares hn hd, hj]
      exact ⟨_, _, rfl⟩

lemma selectCourse_of_offers (ho : w.project.Offers resolver w.host pick)
    (hd : pick.isConfiguration ∨
      w.project.recipe.Declares w.host w.project.selection.configuration) :
    selectCourse resolver pick w = askCourse resolver (withPick pick w) := by
  have hcheck : (if pick.isConfiguration then .ok () else w.project.check w.host) = .ok () := by
    rcases hd with hp | hd
    · rw [if_pos hp]
    · rw [check_of_declares hd, ite_self]
  unfold selectCourse
  rw [rejection_of_offers ho, hcheck]
  exact refreshCourse_of_declares (declares_withPick ho hd)

/-- A value that can be selected now: the project offers it, and unless it is a configuration, the
active configuration is declared. -/
structure Takes (p : Project) (resolver : Resolver) (h : Host) (pick : Pick) : Prop where
  offered : p.Offers resolver h pick
  valid : pick.isConfiguration ∨ p.recipe.Declares h p.selection.configuration

lemma selectCourse_of_takes (h : w.project.Takes resolver w.host pick) :
    selectCourse resolver pick w = askCourse resolver (withPick pick w) :=
  selectCourse_of_offers h.offered h.valid

/-- A value that cannot be selected leaves the project as it is, and its host but for a note. -/
lemma selectCourse_of_not_takes (h : ¬ w.project.Takes resolver w.host pick) :
    ∃ result host, (host = w.host ∨ ∃ text, host = w.host.noted .info text) ∧
      selectCourse resolver pick w = .ends (result, { w with host := host }) := by
  have hblocked : (∃ e, w.project.Blocked resolver w.host pick e) →
      ∃ result host, (host = w.host ∨ ∃ text, host = w.host.noted .info text) ∧
        selectCourse resolver pick w = .ends (result, { w with host := host }) := by
    rintro ⟨e, hb⟩
    exact ⟨_, _, Or.inl rfl, selectCourse_of_blocked hb⟩
  by_cases ho : w.project.Offers resolver w.host pick
  · have hd : ¬ (pick.isConfiguration ∨
        w.project.recipe.Declares w.host w.project.selection.configuration) := fun hd => h ⟨ho, hd⟩
    rw [not_or] at hd
    rcases selectCourse_of_not_declares ho hd.1 hd.2 with ⟨_, _, hcourse⟩ | hb
    · exact ⟨_, _, Or.inl rfl, hcourse⟩
    · exact hblocked hb
  · rcases selectCourse_of_not_offers ho with ⟨text, hcourse⟩ | hb
    · exact ⟨_, _, Or.inr ⟨text, rfl⟩, hcourse⟩
    · exact hblocked hb

/-- Selecting a value either ends and leaves the project as it is, or goes on to the question with
the value selected. -/
theorem selectCourse_cases (resolver : Resolver) (pick : Pick) (w : Workbench) :
    (∃ result host, selectCourse resolver pick w = .ends (result, { w with host := host })) ∨
      selectCourse resolver pick w = askCourse resolver (withPick pick w) := by
  by_cases h : w.project.Takes resolver w.host pick
  · exact Or.inr (selectCourse_of_takes h)
  · obtain ⟨result, host, -, hcourse⟩ := selectCourse_of_not_takes h
    exact Or.inl ⟨result, host, hcourse⟩

end Project

end DubCheck
