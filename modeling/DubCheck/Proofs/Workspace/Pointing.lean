import DubCheck.Proofs.Host.Trail
import DubCheck.Proofs.Workspace.Moves
/-!
# The compiler that dub is pointed at

A compiler that is asked for by a path is looked for from the working directory.  dub is told the
same text, but it is run in the directory of the project, and reads the text from there.  So it may
be pointed at another file than the one that has been found, or at none.

* `Resolver.exists_denotes_of_resolve`: what a compiler that has been found by a path denotes.
* `Dub.Settings.names_list`, `Dub.Settings.names_describe`, `Dub.Settings.names_build`: which
  compiler dub is told.
* `Session.pointsAt_iff`: when dub is pointed at the compiler that has been found.
-/

namespace DubCheck

/-- A path is accepted only if it leads to a file from the working directory, and this is where the
compiler is said to be. -/
lemma Resolver.exists_denotes_of_resolve {r : Resolver} {h : Host} {name : String} {c : Compiler}
    (hc : r.resolve h name = .ok c) (hslash : name.contains '/' = true) :
    ∃ place, c.path = Location.text place ∧ h.Denotes h.directory name place := by
  refine ⟨(Path.ofText name).resolve h.directory, ?_⟩
  rw [resolve_eq, locate_eq, if_pos hslash] at hc
  split at hc
  · cases hc
  · split at hc
    · cases hc
    · cases hlook : h.lookForFile (Path.ofText name) with
      | error e =>
        rw [hlook] at hc
        cases hc
      | ok found =>
        rw [hlook] at hc
        cases found with
        | false => cases hc
        | true =>
          cases hc
          exact ⟨rfl, Host.denotes_of_lookForFile hlook⟩

namespace Dub

/-! ## What dub is told -/

/-- A run of dub is told a compiler. -/
def Run.Names (run : Run) (name : String) : Prop :=
  "--compiler=" ++ name ∈ run.command.drop 1

/-- Options of which neither begins with the other one are different with all values. -/
lemma append_ne_append {p q : String} (hpq : ¬ p.toList <+: q.toList)
    (hqp : ¬ q.toList <+: p.toList) (a b : String) : p ++ a ≠ q ++ b := by
  intro heq
  have hlist : p.toList ++ a.toList = q.toList ++ b.toList := by
    rw [← String.toList_append, ← String.toList_append, heq]
  have hp : p.toList <+: q.toList ++ b.toList := ⟨a.toList, hlist⟩
  rcases List.prefix_or_prefix_of_prefix hp (List.prefix_append q.toList b.toList) with h | h
  · exact hpq h
  · exact hqp h

lemma ne_of_not_begins {option : String} (h : ¬ "--compiler=".toList <+: option.toList)
    (name : String) : "--compiler=" ++ name ≠ option := by
  rintro rfl
  rw [String.toList_append] at h
  exact h (List.prefix_append _ _)

namespace Settings

variable {settings : Settings} {name : String}

/-- The compiler is told among what is selected, by the name it was asked for by. -/
lemma mem_selectors_iff :
    "--compiler=" ++ name ∈ settings.selectors ↔ name = settings.compiler.binary := by
  have hconfiguration : ∀ value, "--compiler=" ++ name ≠ "--config=" ++ value :=
    append_ne_append (by decide) (by decide) name
  have hbuild : ∀ value, "--compiler=" ++ name ≠ "--build=" ++ value :=
    append_ne_append (by decide) (by decide) name
  have harch : "--compiler=" ++ name ∉ archArgument settings.archType := by
    cases settings.archType with
    | none => exact List.not_mem_nil
    | some value =>
      rw [archArgument]
      split
      · exact List.not_mem_nil
      · rw [List.mem_singleton]
        exact append_ne_append (by decide) (by decide) name value
  rw [selectors, List.mem_append, or_iff_left harch]
  simp only [List.mem_cons, hconfiguration, hbuild, List.not_mem_nil, false_or, or_false,
    String.append_right_inj]

variable {program : String} {directory : Location}

lemma names_list (fields : List String) :
    (askRun program directory (listArguments settings fields)).Names name ↔
      name = settings.compiler.binary := by
  have hfields : "--compiler=" ++ name ∉ fields.map ("--data=" ++ ·) := by
    rintro hmem
    obtain ⟨field, -, heq⟩ := List.mem_map.mp hmem
    exact append_ne_append (by decide) (by decide) name field heq.symm
  have hfirst : "--compiler=" ++ name ∉ ["describe", "--data-list", "--data-0"] := by
    simp only [List.mem_cons, List.not_mem_nil, or_false, not_or]
    exact ⟨ne_of_not_begins (by decide) name, ne_of_not_begins (by decide) name,
      ne_of_not_begins (by decide) name⟩
  rw [Run.Names, askRun, List.drop_one, List.tail_cons, listArguments, List.mem_append,
    List.mem_append, or_iff_right (not_or.mpr ⟨hfirst, hfields⟩), mem_selectors_iff]

lemma names_describe :
    (askRun program directory ("describe" :: settings.selectors)).Names name ↔
      name = settings.compiler.binary := by
  rw [Run.Names, askRun, List.drop_one, List.tail_cons, List.mem_cons,
    or_iff_right (ne_of_not_begins (by decide) name), mem_selectors_iff]

lemma names_build {flags : Option String} {killed : Bool} :
    (buildRun program directory settings.buildArguments flags killed).Names name ↔
      name = settings.compiler.binary := by
  have hswitch : ∀ (on : Bool) (switch : String), ¬ "--compiler=".toList <+: switch.toList →
      "--compiler=" ++ name ∉ (if on then [switch] else []) := by
    intro on switch hswitch
    cases on with
    | false => exact List.not_mem_nil
    | true =>
      rw [if_pos rfl, List.mem_singleton]
      exact ne_of_not_begins hswitch name
  rw [Run.Names, buildRun, List.drop_one, List.tail_cons, buildArguments, List.mem_append,
    or_iff_left (hswitch _ _ (by decide)), List.mem_append, or_iff_left (hswitch _ _ (by decide)),
    List.mem_append, or_iff_left (hswitch _ _ (by decide)), List.mem_cons,
    or_iff_right (ne_of_not_begins (by decide) name), mem_selectors_iff]

end Settings

end Dub

/-! ## Where dub is pointed at -/

/-- A run of dub in a directory is told a compiler, and no other one. -/
structure Dub.Run.Told (directory : Location) (name : String) (run : Run) : Prop where
  started : run.directory = directory.text
  names : ∀ other, run.Names other ↔ other = name

namespace Host

variable {h k : Host} {directory : Location} {name : String}

/-- One run of dub has been made. -/
def Ran (h k : Host) (P : Dub.Run → Prop) : Prop :=
  ∃ run, k.runs = h.runs ++ [run] ∧ P run

/-- A run of dub in a directory is told one compiler, and read from there this is the file at a
location. -/
structure Points (h : Host) (directory place : Location) (run : Dub.Run) : Prop where
  started : run.directory = directory.text
  named : ∃ name, run.Names name
  denotes : ∀ name, run.Names name → h.Denotes directory name place

/-- What counts is where the name that is told leads to. -/
lemma Ran.points_iff (hran : h.Ran k (·.Told directory name)) (place : Location) :
    h.Ran k (h.Points directory place) ↔ h.Denotes directory name place := by
  -- The run that has been made is the one that is told the name.
  obtain ⟨run, hruns, htold⟩ := hran
  constructor
  · rintro ⟨run', hruns', hpoints⟩
    rw [hruns] at hruns'
    obtain rfl := List.singleton_inj.mp (List.append_cancel_left hruns')
    exact hpoints.denotes name ((htold.names name).mpr rfl)
  · intro hdenotes
    refine ⟨run, hruns, htold.started, ⟨name, (htold.names name).mpr rfl⟩, fun other hother => ?_⟩
    rw [(htold.names other).mp hother]
    exact hdenotes

end Host

namespace Session

variable {s : Session} {x : Selection} {c : Compiler} {program : String}
  {directory place : Location}

/-- Whenever dub is run for a selection, to list the paths of a project, to describe its packages or
to build it, it is pointed at the file at a location. -/
structure PointsAt (s : Session) (x : Selection) (directory place : Location) : Prop where
  paths : ∀ p : Project, p.selection = x →
    s.host.Ran ((Project.queryPaths s.workspace.provider s.workspace.resolver).apply
      ⟨s.host, p⟩).2.host (s.host.Points directory place)
  packages : ∀ settings, x.settings s.workspace.resolver s.host = .ok settings →
    s.host.Ran ((perform (.describe settings)).apply s).2.host (s.host.Points directory place)
  build : s.host.Ran ((runCheck x).apply s).2.host (s.host.Points directory place)

lemma ran_queryPaths (hs : s.workspace.provider = .dub program directory)
    (hc : s.workspace.resolver.resolve s.host x.compiler = .ok c) {p : Project}
    (hp : p.selection = x) :
    s.host.Ran ((Project.queryPaths s.workspace.provider s.workspace.resolver).apply
      ⟨s.host, p⟩).2.host (·.Told directory x.compiler) := by
  subst hp
  have hsettings : ∃ settings, p.selection.settings s.workspace.resolver s.host = .ok settings := by
    rw [Selection.settings_eq, hc]
    exact ⟨_, rfl⟩
  obtain ⟨settings, hsettings⟩ := hsettings
  let asked := { settings with syntaxOnly := true, combined := true }
  have hhost : ((Project.queryPaths s.workspace.provider s.workspace.resolver).apply
      ⟨s.host, p⟩).2.host = { s.host with runs := s.host.runs ++
        [Dub.askRun program directory (Dub.listArguments asked pathFields)] } := by
    simp only [Project.queryPaths, Act.apply_bind, Act.apply_get, Act.apply_ofExcept, hsettings,
      Workbench.onHost, Act.apply_onPart, hs, Dub.list_apply]
    cases (Dub.answerOf program (s.host.dub (Dub.listArguments asked pathFields))).bind
      (Dub.splitLists · pathFields.length) <;> rfl
  refine ⟨_, by rw [hhost], rfl, fun other => ?_⟩
  rw [Dub.Settings.names_list, (Selection.carries_of_settings hsettings).compiler]

lemma ran_describe (hs : s.workspace.provider = .dub program directory) {settings : Dub.Settings}
    (hsettings : x.settings s.workspace.resolver s.host = .ok settings) :
    s.host.Ran ((perform (.describe settings)).apply s).2.host (·.Told directory x.compiler) := by
  have hhost : ((perform (.describe settings)).apply s).2.host = { s.host with
      runs := s.host.runs ++
        [Dub.askRun program directory ("describe" :: settings.selectors)] } := by
    simp only [perform, Act.apply_bind, Act.apply_get, onHost, Act.apply_onPart, hs,
      Dub.describe_apply]
    cases (Dub.answerOf program (s.host.dub ("describe" :: settings.selectors))).bind
      Dub.readObject with
    | error e => rfl
    | ok description =>
      dsimp only
      cases Dub.packagesOf description <;> rfl
  refine ⟨_, by rw [hhost], rfl, fun other => ?_⟩
  rw [Dub.Settings.names_describe, (Selection.carries_of_settings hsettings).compiler]

lemma ran_runCheck (hs : s.workspace.engine = .dub program directory)
    (hc : s.workspace.resolver.resolve s.host x.compiler = .ok c) :
    s.host.Ran ((runCheck x).apply s).2.host (·.Told directory x.compiler) := by
  have htold : ∀ flags killed, (Dub.buildRun program directory
      (x.checkSettings c).buildArguments flags killed).Told directory x.compiler := by
    refine fun flags killed => ⟨rfl, fun other => ?_⟩
    rw [Dub.Settings.names_build]
    exact Eq.congr_right (Resolver.binary_of_resolve hc)
  by_cases hreply : s.host.dub (x.checkSettings c).buildArguments = .interrupted
  · obtain ⟨log, flags, hrun⟩ := runCheck_of_interrupted hs hc hreply
    rw [hrun]
    exact ⟨_, rfl, htold _ _⟩
  · obtain ⟨log, hrun⟩ := runCheck_of_compiler hs hc hreply
    rw [hrun]
    exact ⟨_, rfl, htold _ _⟩

/-- dub is pointed at a file just if the name that is told denotes the file from the directory of
the project. -/
lemma pointsAt_iff_denotes (hprovider : s.workspace.provider = .dub program directory)
    (hengine : s.workspace.engine = .dub program directory)
    (hc : s.workspace.resolver.resolve s.host x.compiler = .ok c) :
    s.PointsAt x directory place ↔ s.host.Denotes directory x.compiler place := by
  have hbuild := (ran_runCheck hengine hc).points_iff place
  constructor
  · exact fun hpoints => hbuild.mp hpoints.build
  · intro hdenotes
    refine ⟨fun p hp => ?_, fun settings hsettings => ?_, hbuild.mpr hdenotes⟩
    · exact ((ran_queryPaths hprovider hc hp).points_iff place).mpr hdenotes
    · exact ((ran_describe hprovider hsettings).points_iff place).mpr hdenotes

/-- **The compiler that dub is pointed at.**  A compiler that has been found by a path is a file,
which this path denotes from the working directory.  dub is pointed at it exactly if the path is
absolute, or if it leads up to the same directory from the working directory and from that of the
project, and can be followed from there too.  Only the parts of the path and of these directories
matter for this, because there are no symbolic links in a `FileTree`. -/
theorem pointsAt_iff (hprovider : s.workspace.provider = .dub program directory)
    (hengine : s.workspace.engine = .dub program directory)
    (hc : s.workspace.resolver.resolve s.host x.compiler = .ok c)
    (hslash : x.compiler.contains '/' = true) :
    let p := Path.ofText x.compiler
    ∃ place, c.path = Location.text place ∧ s.host.Denotes s.host.directory x.compiler place ∧
      (s.PointsAt x directory place ↔ p.isAbsolute = true ∨
        s.host.directory.above (Path.way p.parts).up = directory.above (Path.way p.parts).up ∧
          ∃ trail, s.host.files.follow directory p = .ok trail) := by
  obtain ⟨place, hpath, hdenotes⟩ := Resolver.exists_denotes_of_resolve hc hslash
  refine ⟨place, hpath, hdenotes, ?_⟩
  rw [pointsAt_iff_denotes hprovider hengine hc, Host.denotes_iff_of_denotes hdenotes]

/-! A compiler beside the directories of two projects. -/

/-- A host with a compiler that is not on the search path. -/
def toolHost (working : Location) : Host where
  files := ⟨[("home", .directory [("tools", .directory [("dmd", .file [] true)]),
    ("app", .directory []), ("lib", .directory [])])]⟩
  directory := working
  environment := []
  machine := "x86_64"
  dub := fun _ => .noProgram

/-- A session for a project, begun in a working directory. -/
def toolSession (working project : Location) : Session where
  host := toolHost working
  workspace := .new project ⟨⟨.slash, []⟩, "dub", "INFO", none⟩ {}

lemma provider_toolSession (working project : Location) :
    (toolSession working project).workspace.provider = .dub "dub" project := rfl

lemma engine_toolSession (working project : Location) :
    (toolSession working project).workspace.engine = .dub "dub" project := rfl

/-- What is selected, with a compiler of some name. -/
def toolSelection (name : String) : Selection where
  configuration := .string "app"
  compiler := name

theorem pointsAt_of_neighbours :
    let s := toolSession ["home", "lib"] ["home", "app"]
    ∃ c place, s.workspace.provider = .dub "dub" ["home", "app"] ∧
      s.workspace.engine = .dub "dub" ["home", "app"] ∧
      s.workspace.resolver.resolve s.host "../tools/dmd" = .ok c ∧
      "../tools/dmd".contains '/' = true ∧ c.path = Location.text place ∧
      s.PointsAt (toolSelection "../tools/dmd") ["home", "app"] place := by
  have hc : (toolSession ["home", "lib"] ["home", "app"]).workspace.resolver.resolve
      (toolSession ["home", "lib"] ["home", "app"]).host "../tools/dmd" =
        .ok ⟨.dmd, "../tools/dmd", "/home/tools/dmd"⟩ := by
    cbv
  have hslash : "../tools/dmd".contains '/' = true := by
    cbv
  obtain ⟨place, hpath, -, hpoints⟩ := pointsAt_iff (x := toolSelection "../tools/dmd")
    (provider_toolSession ["home", "lib"] ["home", "app"])
    (engine_toolSession ["home", "lib"] ["home", "app"]) hc hslash
  refine ⟨_, place, rfl, rfl, hc, hslash, hpath, hpoints.mpr (Or.inr ⟨?_, ?_⟩)⟩
  · cbv
  · let tools : FileNode := .directory [("dmd", .file [] true)]
    exact ⟨[("dmd", some (.file [] true)), ("tools", some tools), ("home", some (.directory
      [("tools", tools), ("app", .directory []), ("lib", .directory [])]))], by cbv⟩

/-- A compiler that is found below the working directory is not looked for there by dub. -/
theorem not_pointsAt_of_tools :
    let s := toolSession ["home"] ["home", "app"]
    ∃ c place, s.workspace.provider = .dub "dub" ["home", "app"] ∧
      s.workspace.engine = .dub "dub" ["home", "app"] ∧
      s.workspace.resolver.resolve s.host "tools/dmd" = .ok c ∧
      "tools/dmd".contains '/' = true ∧ c.path = Location.text place ∧
      s.host.Denotes s.host.directory "tools/dmd" place ∧
      ¬ s.PointsAt (toolSelection "tools/dmd") ["home", "app"] place := by
  have hc : (toolSession ["home"] ["home", "app"]).workspace.resolver.resolve
      (toolSession ["home"] ["home", "app"]).host "tools/dmd" =
        .ok ⟨.dmd, "tools/dmd", "/home/tools/dmd"⟩ := by
    cbv
  have hslash : "tools/dmd".contains '/' = true := by
    cbv
  obtain ⟨place, hpath, hdenotes, hpoints⟩ := pointsAt_iff (x := toolSelection "tools/dmd")
    (provider_toolSession ["home"] ["home", "app"]) (engine_toolSession ["home"] ["home", "app"])
    hc hslash
  refine ⟨_, place, rfl, rfl, hc, hslash, hpath, hdenotes, fun hpointed => ?_⟩
  have hrelative : (Path.ofText (toolSelection "tools/dmd").compiler).isAbsolute = false := by
    cbv
  have hway : (Path.way (Path.ofText (toolSelection "tools/dmd").compiler).parts).up = 0 := by
    cbv
  rw [hrelative, hway] at hpoints
  rcases hpoints.mp hpointed with ⟨⟨⟩⟩ | ⟨habove, -⟩
  revert habove
  decide

end Session

end DubCheck
