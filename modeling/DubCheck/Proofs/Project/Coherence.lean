import DubCheck.Proofs.Project.Course
/-!
# Selections and paths belong together

A project is worked on by calls, one after another.  Every call finds a host of its own, so that
files, environment and dub may change between two calls, and brings its own provider and resolver.
What the providers have been asked, and what they have answered, is kept beside the project as its
`Record`.

The paths of a project are *coherent* with its record if there are none, or if they come of the
latest answer and that answer was given for the selection that is active now.

* `Record.Coherent.after_of_answered`: one call keeps the paths coherent, if nobody interrupts its
  question.
* `coherent_of_calls`: so does every sequence of calls, from a project that has no paths.
-/

namespace DubCheck

/-- A provider that nobody interrupts. -/
def Dub.Provider.Uninterrupted (provider : Dub.Provider) : Prop :=
  ∀ settings fields h, ((provider.list settings fields).apply h).1 ≠ .error .interrupted

namespace Project

/-- An operation on a project. -/
inductive Operation where
  /-- Select a value. -/
  | select (pick : Pick)
  /-- Ask for the paths again. -/
  | refresh
  /-- Give the project another recipe. -/
  | reload (recipe : Recipe)

/-- A call of an operation. -/
structure Call where
  /-- What is done. -/
  operation : Operation
  /-- The host that the call finds. -/
  host : Host
  /-- Who answers questions about the project. -/
  provider : Dub.Provider
  /-- How compilers are found. -/
  resolver : Resolver

namespace Call

/-- The project after a call. -/
def after (c : Call) (p : Project) : Project :=
  match c.operation with
  | .select pick => ((select c.provider c.resolver pick).apply ⟨c.host, p⟩).2.project
  | .refresh => ((refresh c.provider c.resolver).apply ⟨c.host, p⟩).2.project
  | .reload recipe => ((reload recipe).apply ⟨c.host, p⟩).2.project

/-- The question that a call puts to its provider, if there is one, and its answer. -/
def exchange? (c : Call) (p : Project) : Option Exchange :=
  match c.operation with
  | .select pick => (selectCourse c.resolver pick ⟨c.host, p⟩).exchange? c.provider
  | .refresh => (refreshCourse c.resolver ⟨c.host, p⟩).exchange? c.provider
  | .reload _ => none

/-- Nobody interrupts the question of a call, if it puts one. -/
def Answered (c : Call) (p : Project) : Prop :=
  ∀ x, c.exchange? p = some x → x.answer ≠ .error .interrupted

end Call

/-- A project, and what providers have been asked about it. -/
structure Record where
  /-- The project. -/
  project : Project
  /-- The questions with their answers, the latest one last. -/
  exchanges : List Exchange := []

namespace Record

/-- The record after a call. -/
def after (r : Record) (c : Call) : Record where
  project := c.after r.project
  exchanges := r.exchanges ++ (c.exchange? r.project).toList

/-- The paths belong to the selection: there are none, or they are the nonempty paths in the three
lists of the latest answer, which was given for what is selected. -/
def Coherent (r : Record) : Prop :=
  r.project.paths = {} ∨
    ∃ x imports stringImports sources, r.exchanges.getLast? = some x ∧
      x.settings.Carries r.project.selection ∧
      x.answer = .ok [imports, stringImports, sources] ∧
      r.project.paths =
        ⟨imports.filter (· ≠ ""), stringImports.filter (· ≠ ""), sources.filter (· ≠ "")⟩

end Record

/-! ## What a course does to a project -/

/-- Where an operation ends without a question, there are no paths left or nothing has changed.
Where it asks, it asks for what is then selected. -/
def Course.Keeps (p : Project) : Course → Prop
  | .ends (_, w) => w.project.paths = {} ∨
      w.project.paths = p.paths ∧ w.project.selection = p.selection
  | .asks settings w => settings.Carries w.project.selection

lemma askCourse_keeps (resolver : Resolver) (w : Workbench) (p : Project) :
    (askCourse resolver w).Keeps p := by
  cases hc : resolver.resolve w.host w.project.selection.compiler with
  | error e =>
    obtain ⟨level, text, h⟩ := askCourse_of_resolve_error hc
    rw [h]
    exact Or.inl rfl
  | ok c =>
    obtain ⟨settings, hcarries, h⟩ := askCourse_of_resolve_ok hc
    rw [h]
    exact hcarries

lemma refreshCourse_keeps (resolver : Resolver) (w : Workbench) :
    (refreshCourse resolver w).Keeps w.project := by
  unfold refreshCourse
  split
  · exact Or.inr ⟨rfl, rfl⟩
  · exact askCourse_keeps resolver w w.project

lemma selectCourse_keeps (resolver : Resolver) (pick : Pick) (w : Workbench) :
    (selectCourse resolver pick w).Keeps w.project := by
  rcases selectCourse_cases resolver pick w with ⟨result, host, h⟩ | h
  · rw [h]
    exact Or.inr ⟨rfl, rfl⟩
  · rw [h]
    exact askCourse_keeps resolver (withPick pick w) w.project

/-! ## Every call keeps the paths coherent -/

/-- An operation that follows a course keeps the paths coherent with what providers have been
asked, its own question included. -/
lemma Record.Coherent.follow {r : Record} (hr : r.Coherent) {provider : Dub.Provider}
    {course : Course} (hc : course.Keeps r.project)
    (ha : ∀ x, course.exchange? provider = some x → x.answer ≠ .error .interrupted) :
    Record.Coherent ⟨(course.follow provider).2.project,
      r.exchanges ++ (course.exchange? provider).toList⟩ := by
  cases course with
  | ends result =>
    -- Nothing was asked: either the paths are gone, or all is as it was.
    rcases hc with hempty | ⟨hpaths, hselection⟩
    · exact Or.inl hempty
    · rcases hr with hempty | ⟨x, imports, stringImports, sources, hlast, hcarries, hanswer, hx⟩
      · exact Or.inl (hpaths.trans hempty)
      · right
        refine ⟨x, imports, stringImports, sources, ?_, ?_, hanswer, hpaths.trans hx⟩
        · simpa only [Course.exchange?, Option.toList_none, List.append_nil] using hlast
        · rw [← hselection] at hcarries
          exact hcarries
  | asks settings w =>
    -- The answer is now the latest one, and it is about what is selected.
    have hanswer := ha _ rfl
    simp only [Course.follow, Course.exchange?, Option.toList_some]
    generalize (provider.list settings pathFields).apply w.host = reply at hanswer ⊢
    obtain ⟨answer, host⟩ := reply
    obtain ⟨level, text, h⟩ := conclude_bind_ofLists hanswer { w with host := host }
    simp only [h]
    rcases PathSet.ofAnswer_cases answer with
      hempty | ⟨imports, stringImports, sources, hthree, hpaths⟩
    · exact Or.inl hempty
    · right
      exact ⟨_, imports, stringImports, sources, List.getLast?_concat .., hc, hthree, hpaths⟩

/-- One call keeps the paths coherent, unless somebody interrupts its question. -/
lemma Record.Coherent.after_of_answered {r : Record} (hr : r.Coherent) {c : Call}
    (hc : c.Answered r.project) : (r.after c).Coherent := by
  unfold Call.Answered at hc
  cases hop : c.operation with
  | select pick =>
    simp only [Call.exchange?, hop] at hc
    have h := hr.follow (selectCourse_keeps c.resolver pick ⟨c.host, r.project⟩) hc
    rw [← select_apply] at h
    simpa only [Record.after, Call.after, Call.exchange?, hop] using h
  | refresh =>
    simp only [Call.exchange?, hop] at hc
    have h := hr.follow (refreshCourse_keeps c.resolver ⟨c.host, r.project⟩) hc
    rw [← refresh_apply] at h
    simpa only [Record.after, Call.after, Call.exchange?, hop] using h
  | reload recipe =>
    let course : Course := .ends (.ok false, ⟨c.host, { r.project with recipe := recipe }⟩)
    have hkeeps : course.Keeps r.project := Or.inr ⟨rfl, rfl⟩
    have hanswer : ∀ x, course.exchange? c.provider = some x → x.answer ≠ .error .interrupted := by
      rintro x ⟨⟩
    have h := hr.follow hkeeps hanswer
    simp only [Record.after, Call.after, Call.exchange?, hop]
    exact h

/-- A provider that nobody interrupts answers every call. -/
lemma Call.answered_of_uninterrupted {c : Call} (hc : c.provider.Uninterrupted) (p : Project) :
    c.Answered p := by
  have hcourse : ∀ (course : Course) (x : Exchange), course.exchange? c.provider = some x →
      x.answer ≠ .error .interrupted := by
    intro course x hx
    cases course with
    | ends result => cases hx
    | asks settings w =>
      cases hx
      exact hc settings pathFields w.host
  unfold Answered exchange?
  cases c.operation with
  | select pick => exact hcourse _
  | refresh => exact hcourse _
  | reload recipe => rintro x ⟨⟩

/-- One call keeps the paths coherent. -/
lemma Record.Coherent.after {r : Record} (hr : r.Coherent) {c : Call}
    (hc : c.provider.Uninterrupted) : (r.after c).Coherent :=
  hr.after_of_answered (Call.answered_of_uninterrupted hc r.project)

/-- **Paths belong to the selection.**  Whatever is called on a project that has no paths to begin
with, in whatever order, with whatever files, providers and resolvers, and however the calls end
short of an interruption: its paths are none, or those that the latest answer gave for what is
selected now. -/
theorem coherent_of_calls {p : Project} (hp : p.paths = {}) {calls : List Call}
    (hcalls : ∀ c ∈ calls, c.provider.Uninterrupted) :
    (calls.foldl Record.after ⟨p, []⟩).Coherent := by
  -- The induction is on the calls, over all records that the earlier calls may have left.
  have hrun : ∀ r : Record, r.Coherent → (calls.foldl Record.after r).Coherent := by
    induction calls with
    | nil => exact fun r hr => hr
    | cons c calls ih =>
      intro r hr
      rw [List.forall_mem_cons] at hcalls
      exact ih hcalls.2 (r.after c) (hr.after hcalls.1)
  exact hrun ⟨p, []⟩ (Or.inl hp)

/-! A project whose only configuration is selected, on a host that has a compiler, and whose recipe
is then replaced. -/

/-- A host with a compiler on its search path. -/
def sampleHost : Host where
  files := ⟨[("bin", .directory [("dmd", .file [] true)])]⟩
  directory := []
  environment := [("PATH", "/bin")]
  machine := "x86_64"
  dub := fun _ => .finished [] [] 0

/-- A provider that always gives the same answer, which has an empty path in it. -/
def sampleProvider : Dub.Provider where
  list _ _ := pure [["source", ""], [], ["source/app.d"]]
  describe _ := throw .notStarted

/-- A recipe with one configuration. -/
def sampleRecipe : Recipe where
  directory := ⟨.slash, ["p"]⟩
  file := ⟨.slash, ["p", "dub.json"]⟩
  configurations := [{ name := .string "app" }]

/-- A project that has no paths yet. -/
def sampleProject : Project where
  recipe := sampleRecipe
  selection := { configuration := .string "", compiler := "dmd" }

/-- Select the configuration, then replace the recipe. -/
def sampleCalls : List Call :=
  [⟨.select (.configuration (.string "app")), sampleHost, sampleProvider, {}⟩,
    ⟨.reload { sampleRecipe with configurations := [] }, sampleHost, sampleProvider, {}⟩]

lemma sampleCalls_paths :
    (sampleCalls.foldl Record.after ⟨sampleProject, []⟩).project.paths =
      ⟨["source"], [], ["source/app.d"]⟩ := by
  have ho : sampleProject.Offers {} sampleHost (.configuration (.string "app")) :=
    ⟨[.string "app"], rfl, _, List.mem_singleton_self _, by cbv⟩
  have hcourse := selectCourse_of_offers (w := ⟨sampleHost, sampleProject⟩) ho (Or.inl rfl)
  have hfound : ({} : Resolver).resolve sampleHost "dmd" = .ok ⟨.dmd, "dmd", "/bin/dmd"⟩ := by
    cbv
  have hask : askCourse {} (withPick (.configuration (.string "app")) ⟨sampleHost, sampleProject⟩) =
      .asks ⟨"app", "debug", ⟨.dmd, "dmd", "/bin/dmd"⟩, some "x86_64", true, false, true, false, []⟩
        (withPick (.configuration (.string "app")) ⟨sampleHost, sampleProject⟩) := by
    unfold askCourse
    rw [Selection.settings_eq]
    have hd : (Document.string "app").display = "app" := by cbv
    simp only [withPick, Selection.set, sampleProject, hfound, Except.map, hd]
  simp only [sampleCalls, List.foldl, Record.after, Call.after, select_apply, hcourse, hask]
  rfl

theorem coherent_of_sampleCalls :
    sampleProject.paths = {} ∧ (∀ c ∈ sampleCalls, c.provider.Uninterrupted) ∧
      (sampleCalls.foldl Record.after ⟨sampleProject, []⟩).Coherent ∧
      (sampleCalls.foldl Record.after ⟨sampleProject, []⟩).project.paths =
        ⟨["source"], [], ["source/app.d"]⟩ := by
  have hp : sampleProvider.Uninterrupted := by
    rintro settings fields h ⟨⟩
  have hcalls : ∀ c ∈ sampleCalls, c.provider.Uninterrupted := by
    intro c hc
    rcases List.mem_cons.mp hc with rfl | hc
    · exact hp
    · rw [List.mem_singleton.mp hc]
      exact hp
  exact ⟨rfl, hcalls, coherent_of_calls rfl hcalls, sampleCalls_paths⟩

end Project

end DubCheck
