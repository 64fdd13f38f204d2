import DubCheck.Proofs.Workspace.Moves
/-!
# Arch types and compilers

Which arch types there are depends on the compiler.  An arch type can only be selected if the
compiler that is selected knows it, but a compiler can be selected whatever the arch type is.  So
the arch type that is selected is one that there is, and dub is never told another one, as long as
no compiler is selected that does not know the arch type of the moment.

* `Session.available_after_iff`: which moves leave an arch type selected that there is.
* `Session.archLawful_iff`: what this means for all moves since a project is started up.
-/

namespace DubCheck.Session

variable {s t : Session} {setup : Option Setup}

/-! ## Arch types that there are -/

lemma archTypes_apply (s : Session) :
    archTypes.apply s =
      (s.selection?.elim (.error .notStarted) fun x => .ok (x.archTypes s.workspace.resolver),
        s) := by
  simp only [archTypes, Act.apply_bind, project_apply, selection?]
  cases s.loaded? <;> rfl

/-- The arch type that is selected is one of those that there are. -/
def Available (s : Session) : Prop :=
  ∀ x, s.selection? = some x → ∃ names, (archTypes.apply s).1 = .ok names ∧ x.archType ∈ names

lemma available_iff : s.Available ↔ ∀ x, s.setup? = some x →
    x.selection.archType ∈ x.selection.archTypes s.workspace.resolver := by
  simp only [Available, archTypes_apply, selection?_eq, Option.map_eq_some_iff]
  constructor
  · intro h x hx
    obtain ⟨names, hnames, hmem⟩ := h x.selection ⟨x, hx, rfl⟩
    rw [hx] at hnames
    cases hnames
    exact hmem
  · rintro h _ ⟨x, hx, rfl⟩
    rw [hx]
    exact ⟨_, rfl, h x hx⟩

lemma Moved.available_iff (h : Moved setup s t) : t.Available ↔
    ∀ x, setup = some x → x.selection.archType ∈ x.selection.archTypes s.workspace.resolver := by
  rw [Session.available_iff, h.becomes, h.stays.resolver]

lemma Moved.available_iff_of_some {recipe : Recipe} {x : Selection}
    (h : Moved (some ⟨recipe, x⟩) s t) :
    t.Available ↔ x.archType ∈ x.archTypes s.workspace.resolver := by
  rw [h.available_iff]
  constructor
  · intro hall
    exact hall ⟨recipe, x⟩ rfl
  · rintro hx _ ⟨⟩
    exact hx

/-- A compiler that is going to be selected knows the arch type that is selected. -/
def Suits (s : Session) : Move → Prop
  | .select (.compiler name) => ∀ l, s.loaded? = some l →
      l.project.Takes s.workspace.resolver s.host (.compiler name) →
        l.project.selection.archType ∈
          DubCheck.archTypes (Family.ofProgram? name) s.workspace.resolver.os
  | _ => True

/-- Nothing has to suit a value that is not selected. -/
lemma suits_of_not_takes {pick : Pick} (h : ∀ l, s.loaded? = some l →
    ¬ l.project.Takes s.workspace.resolver s.host pick) : s.Suits (.select pick) := by
  cases pick with
  | compiler name => exact fun l hl htakes => absurd htakes (h l hl)
  | _ => trivial

lemma mem_archTypes_default (family : Option Family) (os : String) :
    "x86_64" ∈ DubCheck.archTypes family os :=
  List.mem_append_left _ (List.mem_append_left _ List.mem_cons_self)

/-- A value that is selected leaves an arch type selected that there is, unless it is a compiler
that does not know it. -/
lemma mem_archTypes_set_iff {l : Loaded} (hl : s.loaded? = some l) {pick : Pick}
    (h : l.project.Takes s.workspace.resolver s.host pick)
    (hmem : l.project.selection.archType ∈ l.project.selection.archTypes s.workspace.resolver) :
    (l.project.selection.set pick).archType ∈
        (l.project.selection.set pick).archTypes s.workspace.resolver ↔
      s.Suits (.select pick) := by
  cases pick with
  | configuration name | buildType name => exact iff_of_true hmem trivial
  | archType name => exact iff_of_true h.offered trivial
  | compiler name =>
    constructor
    · rintro hset l' hl' -
      rw [hl] at hl'
      cases hl'
      exact hset
    · intro hsuits
      exact hsuits l hl h

/-- **One move.**  If an arch type is selected that there is, this is so after a move exactly if the
move does not select a compiler that does not know it. -/
theorem available_after_iff (hs : s.AsksDub) (h : s.Available) (move : Move) :
    (s.after move).Available ↔ s.Suits move := by
  obtain ⟨program, directory, hprovider, hengine⟩ := hs
  have hactive := available_iff.mp h
  cases move with
  | startup =>
    rcases startup_moved hprovider with hmoved | ⟨_, _, hmoved⟩
    · exact iff_of_true (hmoved.available_iff.mpr hactive) trivial
    · refine iff_of_true (hmoved.available_iff.mpr ?_) trivial
      rintro _ ⟨⟩
      exact mem_archTypes_default _ _
  | check => exact iff_of_true ((check_moved hengine).available_iff.mpr hactive) trivial
  | change f => exact iff_of_true (available_iff.mpr hactive) trivial
  | select pick =>
    cases hl : s.loaded? with
    | none =>
      refine iff_of_true ((select_moved_of_none hl).available_iff.mpr hactive) ?_
      refine suits_of_not_takes fun l hl' => ?_
      rw [hl] at hl'
      cases hl'
    | some l =>
      by_cases htakes : l.project.Takes s.workspace.resolver s.host pick
      · have hmem := hactive _ (setup?_of_loaded hl)
        rw [after, (select_moved_of_takes hprovider hl htakes).available_iff_of_some]
        exact mem_archTypes_set_iff hl htakes hmem
      · have hmoved := select_moved_of_not_takes hprovider hl htakes
        refine iff_of_true (hmoved.available_iff.mpr hactive) (suits_of_not_takes fun l' hl' => ?_)
        rw [hl] at hl'
        cases hl'
        exact htakes

/-! ## All moves -/

/-- The arch type that is selected is one that there is, and dub has not been told another one. -/
structure ArchLawful (s : Session) : Prop where
  available : s.Available
  told : ∀ run ∈ s.host.runs, ∃ x : Selection,
    x.archType ∈ x.archTypes s.workspace.resolver ∧ x.arguments <:+: run.command

/-- A move that leaves an arch type selected that there is tells dub no other one. -/
lemma ArchLawful.after (hs : s.AsksDub) (h : s.ArchLawful) {move : Move}
    (hsuits : s.Suits move) : (s.after move).ArchLawful := by
  have havailable := (available_after_iff hs h.available move).mpr hsuits
  obtain ⟨hstays, runs, hruns, htell⟩ := runsFor_after hs move
  refine ⟨havailable, ?_⟩
  rw [hruns, List.forall_mem_append, hstays.resolver]
  refine ⟨h.told, fun run hrun => ?_⟩
  obtain ⟨x, hx, settings, hcarries, hselectors⟩ := htell run hrun
  rw [selection?_eq, Option.map_eq_some_iff] at hx
  obtain ⟨y, hy, rfl⟩ := hx
  have hmem := available_iff.mp havailable y hy
  rw [hstays.resolver] at hmem
  refine ⟨y.selection, hmem, ?_⟩
  rwa [← hcarries.selectors (ne_empty_of_mem_archTypes hmem)]

/-- A workspace that asks dub, and in which nothing has been started up. -/
structure Unstarted (s : Session) : Prop where
  asksDub : s.AsksDub
  current : s.workspace.current = none
  runs : s.host.runs = []

lemma Unstarted.archLawful (hs : s.Unstarted) : s.ArchLawful := by
  refine ⟨available_iff.mpr fun x hx => ?_, by simp [hs.runs]⟩
  rw [setup?, loaded?, hs.current] at hx
  cases hx

lemma AsksDub.foldl_after (hs : s.AsksDub) (moves : List Move) :
    (moves.foldl after s).AsksDub := by
  induction moves generalizing s with
  | nil => exact hs
  | cons move moves ih => exact ih (hs.stays (runsFor_after hs move).stays)

/-- **The arch type is one that there is.**  Since a project is started up, an arch type has been
selected at every time that there is, and dub has been told no other one, exactly if no compiler was
ever selected that does not know the arch type of the moment. -/
theorem archLawful_iff (hs : s.Unstarted) (moves : List Move) :
    (∀ before, before <+: moves → (before.foldl after s).ArchLawful) ↔
      ∀ before move, before ++ [move] <+: moves → (before.foldl after s).Suits move := by
  have hasks := fun before => hs.asksDub.foldl_after before
  constructor
  · intro h before move hprefix
    have hafter := (h _ hprefix).available
    have hbefore := h before ((List.prefix_append before [move]).trans hprefix)
    rw [List.foldl_append, List.foldl_cons, List.foldl_nil] at hafter
    exact (available_after_iff (hasks before) hbefore.available move).mp hafter
  · intro h before
    -- The induction is on the moves that have been made.
    induction before using List.reverseRecOn with
    | nil => exact fun _ => hs.archLawful
    | append_singleton before move ih =>
      intro hprefix
      rw [List.foldl_append, List.foldl_cons, List.foldl_nil]
      have hbefore := ih ((List.prefix_append before [move]).trans hprefix)
      exact hbefore.after (hasks before) (h before move hprefix)

/-! ## A sample -/

/-- A new session for an empty recipe, with two compilers and a dub that has nothing to say. -/
def armSession : Session where
  host := {
    files := ⟨[("p", .directory [("dub.sdl", .file [] false)]),
      ("bin", .directory [("dmd", .file [] true), ("gdc", .file [] true)])]⟩
    directory := []
    environment := [("PATH", "/bin")]
    machine := "x86_64"
    dub := fun _ => .finished [] [] 0 }
  workspace := Workspace.new ["p"]
    { homeDirectory := ⟨.slash, ["h"]⟩, dub := "dub", logLevel := "INFO",
      preferredCompiler := none } {}

lemma unstarted_armSession : armSession.Unstarted :=
  ⟨⟨_, _, rfl, rfl⟩, rfl, rfl⟩

/-- What the recipe is loaded as. -/
def armRecipe : Recipe where
  directory := ⟨.slash, ["p"]⟩
  file := ⟨.slash, ["p", "dub.sdl"]⟩

/-- What is selected at startup. -/
def armSelection : Selection where
  configuration := .string "library"
  compiler := "dmd"

/-- The session has been started up and some values have been selected, but no configuration, and
nothing else has changed but the log and the runs of dub. -/
structure ArmStarted (x : Selection) (t : Session) : Prop where
  stays : armSession.Stays t
  becomes : t.setup? = some ⟨armRecipe, x⟩
  configuration : x.configuration = .string "library"
  host : ∃ log runs, t.host = { armSession.host with log := log, runs := runs }

lemma armStarted_startup : ArmStarted armSelection (armSession.after .startup) := by
  have hload : Recipe.load armSession.host (Path.ofLocation armSession.workspace.directory) =
      .ok armRecipe := by
    cbv
  have hcompiler : armSession.workspace.resolver.defaultCompiler armSession.host
      armSession.workspace.settings.preferredCompiler = "dmd" := by
    cbv
  have hdmd : armSession.workspace.resolver.resolve armSession.host "dmd" =
      .ok ⟨.dmd, "dmd", "/bin/dmd"⟩ := by
    cbv
  have hplatform : ∃ platform, (platformOf (armSession.workspace.resolver.defaultCompiler
      armSession.host armSession.workspace.settings.preferredCompiler)).apply armSession =
        (.ok platform, armSession) := by
    simp only [hcompiler, platformOf, Act.apply_bind, Act.apply_get, hdmd]
    exact ⟨_, rfl⟩
  obtain ⟨platform, hplatform⟩ := hplatform
  have hfound : armRecipe.defaultConfiguration armSession.host platform =
      .ok (some (.string "library")) := by
    cbv
  have hmoved := startup_moved_of_found rfl hload hplatform hfound
  obtain ⟨log, runs, hhost, -⟩ := hmoved.host
  refine ⟨hmoved.stays, ?_, rfl, log, _, hhost⟩
  rw [after, hmoved.becomes, projectOf, hcompiler]
  rfl

/-- The second compiler is selected and then an arch type that only this one knows. -/
theorem archLawful_of_armSession :
    armSession.Unstarted ∧ ∀ before,
      before <+: [.startup, .select (.compiler "gdc"), .select (.archType "arm"), .check] →
        (before.foldl after armSession).ArchLawful := by
  refine ⟨unstarted_armSession, (archLawful_iff unstarted_armSession _).mpr ?_⟩
  rintro before move ⟨rest, hmoves⟩
  have hgdc : (armSession.after .startup).Suits (.select (.compiler "gdc")) := by
    intro l hl _
    have hsetup := (setup?_of_loaded hl).symm.trans armStarted_startup.becomes
    have hselection : l.project.selection = armSelection :=
      congrArg Setup.selection (Option.some.inj hsetup)
    rw [hselection]
    exact mem_archTypes_default _ _
  -- Which move it is, is told by the number of moves before it.
  rcases before with _ | ⟨_, _ | ⟨_, _ | ⟨_, _ | ⟨_, before⟩⟩⟩⟩
  · cases hmoves
    trivial
  · cases hmoves
    exact hgdc
  · cases hmoves
    trivial
  · cases hmoves
    trivial
  · simp at hmoves

lemma declares_library (log : List Note) (runs : List Dub.Run) :
    armRecipe.Declares { armSession.host with log := log, runs := runs } (.string "library") := by
  refine ⟨[.string "library"], ?_, .string "library", List.mem_singleton_self _, ?_⟩
  · cbv
  · cbv

lemma ArmStarted.select {x : Selection} {t : Session} (h : ArmStarted x t) (pick : Pick)
    (hpick : (x.set pick).configuration = x.configuration)
    (hoffers : ∀ p : Project, p.selection = x → ∀ log runs,
      p.Offers {} { armSession.host with log := log, runs := runs } pick) :
    ArmStarted (x.set pick) (t.after (.select pick)) := by
  obtain ⟨hstays, hbecomes, hconfiguration, log, runs, hhost⟩ := h
  obtain ⟨l, hl, heq⟩ := Option.map_eq_some_iff.mp hbecomes
  obtain ⟨hrecipe, hselection⟩ := Setup.mk.inj heq
  have htakes : l.project.Takes t.workspace.resolver t.host pick := by
    rw [hhost, hstays.resolver]
    refine ⟨hoffers l.project hselection log runs, Or.inr ?_⟩
    rw [hrecipe, hselection, hconfiguration]
    exact declares_library log runs
  have hmoved := select_moved_of_takes hstays.provider hl htakes
  rw [hrecipe, hselection] at hmoved
  obtain ⟨log', runs', hhost', -⟩ := hmoved.host
  refine ⟨hstays.trans hmoved.stays, hmoved.becomes, hpick.trans hconfiguration, log',
    t.host.runs ++ runs', ?_⟩
  rw [after, hhost', hhost]

/-- An arch type is selected that the first compiler does not know, and then the first compiler. -/
def armMoves : List Move :=
  [.startup, .select (.compiler "gdc"), .select (.archType "arm"), .select (.compiler "dmd")]

theorem not_archLawful_of_armMoves :
    ¬ ∀ before, before <+: armMoves → (before.foldl after armSession).ArchLawful := by
  intro h
  have hgdc := armStarted_startup.select (.compiler "gdc") rfl
    fun p _ log runs => ⟨⟨.gdc, "gdc", "/bin/gdc"⟩, by cbv⟩
  have harm := hgdc.select (.archType "arm") rfl fun p hp log runs => by
    rw [Project.Offers, hp]
    decide +kernel
  have hdmd := harm.select (.compiler "dmd") rfl
    fun p _ log runs => ⟨⟨.dmd, "dmd", "/bin/dmd"⟩, by cbv⟩
  have hmem := available_iff.mp (h armMoves List.prefix_rfl).available _ hdmd.becomes
  have hresolver : (armMoves.foldl after armSession).workspace.resolver = {} := hdmd.stays.resolver
  rw [hresolver] at hmem
  revert hmem
  decide +kernel

end DubCheck.Session
