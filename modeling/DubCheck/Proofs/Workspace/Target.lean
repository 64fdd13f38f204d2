import DubCheck.Proofs.Recipe.Agreement
import DubCheck.Proofs.Recipe.Default
import DubCheck.Proofs.Workspace.Startup
/-!
# The platform that is built for

At startup a configuration is chosen that is for the platform of the machine.  What is built after
that is for the platform of the selection, and the arch type that is selected to begin with does not
depend on the machine.  So the configuration that is active after the startup need not be for the
platform that is built for.  It is, whatever the recipe says, exactly if each name of the machine's
architecture that a specification can ask for is also a name of that platform.

There is one exception, and it can come up on every machine.  If nothing can be chosen, or only a
configuration with a name that does not count, the empty name is active.  A configuration may have
this very name without being for any platform in question.

* `Platform.Covers.supports`: a configuration is also for a platform with more names.
* `Session.startsOnTarget_of_covers`: what is active after the startup is for such a platform.
* `Session.startsOnTarget_iff`: the machines on which this is so, and the exception.
* `Session.machinePlatform_eq_iff`: the machines on which there is only one platform.
-/

namespace DubCheck

/-! ## Platforms with more names -/

namespace Platform

variable {p q : Platform}

/-- A platform has all names of another one that a specification can ask for. -/
def Covers (q p : Platform) : Prop :=
  ∀ name ∈ p.names, '-' ∉ name.toList → name ∈ q.names

lemma hasAll_of_not_mem {name : String} (h : '-' ∉ name.toList) :
    p.hasAll name = p.names.contains name := by
  rw [hasAll, Text.splitOn_of_not_mem h]
  simp

namespace Covers

lemma hasAll (h : q.Covers p) {specification : String} (hp : p.hasAll specification = true) :
    q.hasAll specification = true := by
  obtain ⟨parts, hne, hparts, hjoin⟩ := hasAll_iff.mp hp
  refine hasAll_iff.mpr ⟨parts, hne, fun part hpart => ?_, hjoin⟩
  obtain ⟨hhyphen, hmem⟩ := hparts part hpart
  exact ⟨hhyphen, h _ hmem (by rwa [String.toList_ofList])⟩

lemma anyM_accepts (h : q.Covers p) {platforms : List Document}
    (hp : platforms.anyM p.accepts = .ok true) : platforms.anyM q.accepts = .ok true := by
  induction platforms with
  | nil => cases hp
  | cons d platforms ih =>
    rw [List.anyM_cons] at hp ⊢
    cases d with
    | string specification =>
      by_cases hq : q.hasAll specification = true
      · rw [accepts, hq]
        rfl
      · rw [accepts, Bool.eq_false_iff.mpr (mt h.hasAll hq)] at hp
        rw [accepts, Bool.eq_false_iff.mpr hq]
        exact ih hp
    | _ => cases hp

/-- A configuration that is for a platform is for every platform with more names. -/
theorem supports (h : q.Covers p) {c : Configuration} (hp : c.supports (some p) = .ok true) :
    c.supports (some q) = .ok true := by
  unfold Configuration.supports at hp ⊢
  dsimp only at hp ⊢
  split at hp
  · rename_i hempty
    rw [if_pos hempty]
  · rename_i hempty
    rw [if_neg hempty]
    exact h.anyM_accepts hp

end Covers

end Platform

/-- The platform that is chosen for is that of the machine. -/
lemma Resolver.platform_none (r : Resolver) (h : Host) (c : Compiler) :
    r.platform h c none = ⟨Platform.systemNames r.os,
      Platform.architectureNames (Platform.machineArchitecture h.machine), c.family.name⟩ :=
  rfl

/-- With the arch type that is selected to begin with, the machine does not matter. -/
lemma Resolver.platform_default (r : Resolver) (h : Host) (c : Compiler) :
    r.platform h c (some "x86_64") =
      ⟨Platform.systemNames r.os, ["x86_64"], c.family.name⟩ := by
  simp [platform, Platform.architectureNames]

lemma Selection.platform_of_resolve {s : Selection} {r : Resolver} {h : Host} {c : Compiler}
    (hc : r.resolve h s.compiler = .ok c) :
    s.platform r h = .ok (r.platform h c (some s.archType)) := by
  rw [platform, hc]
  rfl

namespace Session

variable {s t : Session} {found : Bool} {program : String} {directory : Location}

/-! ## The law -/

/-- If a configuration that is declared is active after the startup, it is for the platform that is
built for then. -/
def StartsOnTarget (s : Session) : Prop :=
  ∀ found t l, startup.apply s = (.ok found, t) → t.loaded? = some l →
    l.project.recipe.configurations ≠ [] →
    l.project.recipe.Declares t.host l.project.selection.configuration →
    ∃ target, l.project.selection.platform t.workspace.resolver t.host = .ok target ∧
      ∃ c ∈ l.project.recipe.configurations,
        c.name = l.project.selection.configuration ∧ c.supports (some target) = .ok true

/-- After the startup the empty name is active, which stands for none.  Configurations are declared
under this name all the same, but none of them is for the platform that is built for then. -/
def StartsNameless (s : Session) : Prop :=
  ∃ found t l, startup.apply s = (.ok found, t) ∧ t.loaded? = some l ∧
    l.project.recipe.configurations ≠ [] ∧ l.project.selection.configuration = .string "" ∧
    l.project.recipe.Declares t.host (.string "") ∧
    ∀ target, l.project.selection.platform t.workspace.resolver t.host = .ok target →
      ∀ c ∈ l.project.recipe.configurations,
        c.name = .string "" → c.supports (some target) ≠ .ok true

/-- Such a configuration is active although it is not for the platform that is built for. -/
lemma StartsNameless.not_startsOnTarget (h : s.StartsNameless) : ¬ s.StartsOnTarget := by
  obtain ⟨found, t, l, hstartup, hl, hne, hempty, hdeclares, hunsuited⟩ := h
  intro hlaw
  obtain ⟨target, hplatform, c, hc, hname, hsupports⟩ :=
    hlaw found t l hstartup hl hne (hempty ▸ hdeclares)
  exact hunsuited target hplatform c hc (hname.trans hempty) hsupports

/-- A session on some machine, for some operating system, that has a compiler of some family to
start with.  It asks dub. -/
structure StartsOn (s : Session) (machine os : String) (family : Family) : Prop where
  machine : s.host.machine = machine
  os : s.workspace.resolver.os = os
  compiler : ∃ c,
    s.workspace.resolver.resolve s.host s.startingCompiler = .ok c ∧ c.family = family
  provider : ∃ program directory, s.workspace.provider = .dub program directory

/-- The platform of the machine, for which a configuration is chosen at startup. -/
def machinePlatform (machine os : String) (family : Family) : Platform :=
  ⟨Platform.systemNames os, Platform.architectureNames (Platform.machineArchitecture machine),
    family.name⟩

/-- The platform that is built for as long as no other arch type is selected. -/
def targetPlatform (os : String) (family : Family) : Platform :=
  ⟨Platform.systemNames os, ["x86_64"], family.name⟩

variable {machine os : String} {family : Family} {l : Loaded}

/-- The two platforms are the same on the machines of one architecture only. -/
theorem machinePlatform_eq_iff : machinePlatform machine os family = targetPlatform os family ↔
    Platform.machineArchitecture machine = "x86_64" := by
  simp only [machinePlatform, targetPlatform, Platform.mk.injEq, true_and, and_true]
  unfold Platform.architectureNames
  split
  · rename_i h
    simp [h]
  · split
    · rename_i h
      simp [h]
    · simp

/-- The configuration is chosen for the platform of the machine. -/
lemma StartsOn.startingPlatform (hs : s.StartsOn machine os family) :
    s.startingPlatform = .ok (some (machinePlatform machine os family)) := by
  obtain ⟨c, hc, hfamily⟩ := hs.compiler
  rw [Session.startingPlatform, hc]
  dsimp only
  rw [Resolver.platform_none, hs.machine, hs.os, hfamily, machinePlatform]

/-- What is built after the startup is for another platform. -/
lemma StartsOn.target (hs : s.StartsOn machine os family) (h : startup.apply s = (.ok found, t))
    (hl : t.loaded? = some l) : l.project.selection.platform t.workspace.resolver t.host =
      .ok (targetPlatform os family) := by
  obtain ⟨c, hc, hfamily⟩ := hs.compiler
  obtain ⟨program, directory, hprovider⟩ := hs.provider
  obtain ⟨p, l', hstarting, hl', -, hselection, hresolver, log, runs, hhost⟩ :=
    loaded_of_startup hprovider h
  obtain ⟨recipe, platform, chosen, -, -, -, rfl⟩ := starting_eq_ok hstarting
  rw [hl] at hl'
  cases hl'
  have hresolve : t.workspace.resolver.resolve t.host
      (s.projectOf recipe chosen).selection.compiler = .ok c := by
    rw [hresolver, hhost, Resolver.resolve_logged]
    exact hc
  rw [hselection, Selection.platform_of_resolve hresolve, hresolver, projectOf,
    Resolver.platform_default, hs.os, hfamily, targetPlatform]

/-- If the platform that is built for has all names of that of the machine, the configuration that
is active after the startup is for it, unless it is active under the empty name only. -/
theorem startsOnTarget_of_covers
    (h : (targetPlatform os family).Covers (machinePlatform machine os family))
    (hs : s.StartsOn machine os family) (hnamed : ¬ s.StartsNameless) : s.StartsOnTarget := by
  intro found t l hstartup hl hne hdeclares
  refine ⟨_, hs.target hstartup hl, ?_⟩
  by_cases hempty : l.project.selection.configuration = .string ""
  · by_contra hunsuited
    refine hnamed ⟨found, t, l, hstartup, hl, hne, hempty, hempty ▸ hdeclares, ?_⟩
    rintro target htarget c hc hname hsupports
    rw [hs.target hstartup hl] at htarget
    cases htarget
    exact hunsuited ⟨c, hc, hname.trans hempty.symm, hsupports⟩
  · obtain ⟨program, directory, hprovider⟩ := hs.provider
    obtain ⟨p, l', hstarting, hl', hrecipe, hselection, -, -⟩ :=
      loaded_of_startup hprovider hstartup
    obtain ⟨recipe, platform, chosen, -, hplatform, hchosen, rfl⟩ := starting_eq_ok hstarting
    rw [hl] at hl'
    cases hl'
    rw [hs.startingPlatform] at hplatform
    cases hplatform
    rw [hselection] at hempty ⊢
    rw [hrecipe] at hne ⊢
    change recipe.configurations ≠ [] at hne
    rw [Recipe.defaultConfiguration, if_neg (mt List.isEmpty_iff.mp hne)] at hchosen
    have hfirst := mapError_eq_ok_iff.mp hchosen
    -- Something has been chosen whose name counts, since this name is not the empty one.
    cases chosen with
    | none => exact absurd rfl hempty
    | some d =>
      obtain ⟨v, hv, hname, hsupports⟩ := Recipe.exists_of_firstSupporting hfirst
      refine ⟨v, hv, ?_, h.supports hsupports⟩
      rw [projectOf, Option.filter_some] at hempty ⊢
      cases htruthy : d.truthy with
      | true => exact hname
      | false =>
        rw [htruthy] at hempty
        exact absurd rfl hempty

/-! ## Machines with another architecture -/

/-- A program of each family. -/
def programOf : Family → String
  | .dmd => "dmd"
  | .ldc => "ldc2"
  | .gdc => "gdc"

/-- A package with some configurations. -/
def variantOutline (variants : List Variant) : Outline where
  name := "p"
  configurations := variants
  distinct := List.nodup_nil

/-- A session on some machine, with a compiler of some family and a recipe of some bytes. -/
def bytesSession (machine os : String) (family : Family) (bytes : List UInt8) : Session where
  host := {
    files := ⟨[("p", .directory [("dub.json", .file bytes false)]),
      ("bin", .directory [(programOf family, .file [] true)])]⟩
    directory := []
    environment := [("PATH", "/bin")]
    machine := machine
    dub := fun _ => .finished [] [] 0 }
  workspace := Workspace.new ["p"]
    { homeDirectory := ⟨.slash, ["h"]⟩, dub := "dub", logLevel := "INFO",
      preferredCompiler := some (programOf family) } { os := os }

/-- A session with a package that has some configurations. -/
def variantSession (machine os : String) (family : Family) (variants : List Variant) : Session :=
  bytesSession machine os family
    (Text.Utf8.encode (Document.write (.object (variantOutline variants).members)))

/-- One configuration for a platform of some name, and one for all platforms. -/
def specialVariants (name : String) : List Variant :=
  [{ name := "special", platforms := [name] }, { name := "other" }]

/-- One configuration for a platform of some name, without a name of its own. -/
def namelessVariants (name : String) : List Variant :=
  [{ name := "", platforms := [name] }]

lemma holds_bytesSession (machine os : String) (family : Family) (text : String) :
    Recipe.Holds (bytesSession machine os family (Text.Utf8.encode text)).host ⟨.slash, ["p"]⟩
      "dub.json" text := by
  generalize hbytes : Text.Utf8.encode text = bytes
  exact ⟨by cbv, by rw [hbytes]; cbv⟩

lemma resolve_bytesSession (machine os : String) (family : Family) (bytes : List UInt8) :
    ∃ c, (bytesSession machine os family bytes).workspace.resolver.resolve
        (bytesSession machine os family bytes).host
        (bytesSession machine os family bytes).startingCompiler = .ok c ∧ c.family = family := by
  cases family with
  | dmd => exact ⟨⟨.dmd, "dmd", "/bin/dmd"⟩, by cbv, rfl⟩
  | ldc => exact ⟨⟨.ldc, "ldc2", "/bin/ldc2"⟩, by cbv, rfl⟩
  | gdc => exact ⟨⟨.gdc, "gdc", "/bin/gdc"⟩, by cbv, rfl⟩

variable {variants : List Variant}

lemma startsOn_variantSession (machine os : String) (family : Family) (variants : List Variant) :
    (variantSession machine os family variants).StartsOn machine os family where
  machine := rfl
  os := rfl
  compiler := resolve_bytesSession machine os family _
  provider := ⟨_, _, rfl⟩

/-- If the name that becomes active is declared, it is active after the startup. -/
lemma exists_startup_variantSession {chosen : Option Document}
    (hchosen : Recipe.firstSupporting (some (machinePlatform machine os family))
      (variants.map Variant.configuration) = .ok chosen)
    (name : String) (hname : (chosen.filter (·.truthy)).getD (.string "") = .string name)
    (hmem : ∃ v ∈ variants, v.name = name) :
    ∃ found t l, startup.apply (variantSession machine os family variants) = (.ok found, t) ∧
      t.loaded? = some l ∧
      l.project.recipe.configurations = variants.map Variant.configuration ∧
      l.project.recipe.configurations ≠ [] ∧
      l.project.selection.configuration = .string name ∧
      l.project.recipe.Declares t.host (.string name) := by
  have hs := startsOn_variantSession machine os family variants
  have hload := Recipe.load_of_writesDocument (holds_bytesSession machine os family _)
    (Recipe.writesDocument_write (variantOutline variants))
  have hstated := Recipe.says_of_statedBy (variantOutline variants).statedBy_statements
  obtain ⟨v, hv, rfl⟩ := hmem
  obtain ⟨recipe, hload, hconfigurations⟩ : ∃ recipe,
      Recipe.load (variantSession machine os family variants).host (Path.ofLocation
        (variantSession machine os family variants).workspace.directory) = .ok recipe ∧
      recipe.configurations = variants.map Variant.configuration :=
    ⟨_, hload, (hstated _ _).configurations⟩
  have hprovider : (variantSession machine os family variants).workspace.provider =
      .dub "dub" ["p"] := rfl
  have hquiet : (variantSession machine os family variants).host.Quiet := by
    rintro arguments ⟨⟩
  generalize variantSession machine os family variants = s at *
  have hne : recipe.configurations ≠ [] := by
    rw [hconfigurations]
    exact List.ne_nil_of_mem (List.mem_map_of_mem hv)
  have hfound : recipe.defaultConfiguration s.host (some (machinePlatform machine os family)) =
      .ok chosen := by
    rw [Recipe.defaultConfiguration, if_neg (mt List.isEmpty_iff.mp hne), hconfigurations, hchosen]
    rfl
  have hstarting := starting_of_found hload hs.startingPlatform hfound
  have hdeclares : ∀ h : Host, recipe.Declares h (.string v.name) := by
    refine fun h => ⟨_, Recipe.configurationNames_of_ne_nil hne h, .string v.name, ?_,
      Document.same_string_iff.mpr rfl⟩
    rw [hconfigurations, List.map_map]
    exact List.mem_map_of_mem hv
  have hactive : (s.projectOf recipe chosen).selection.configuration = .string v.name := hname
  obtain ⟨found, t, l, hstartup, hl, hrecipe, hselected, -, -⟩ :=
    exists_startup_loaded hprovider hquiet hstarting (by rw [hactive]; exact hdeclares _)
  refine ⟨found, t, l, hstartup, hl, ?_, ?_, ?_, ?_⟩
  · rw [hrecipe]
    exact hconfigurations
  · rw [hrecipe]
    exact hne
  · rw [hselected]
    exact hactive
  · rw [hrecipe]
    exact hdeclares _

/-- A configuration for a platform of one name suits a platform that has this name. -/
lemma supports_singleton {c : Configuration} {platform : Platform} {name : String}
    (hc : c.platforms = [.string name]) (hname : '-' ∉ name.toList) :
    c.supports (some platform) = .ok (platform.names.contains name) := by
  rw [Configuration.supports, hc, ← Platform.hasAll_of_not_mem hname, List.isEmpty_cons,
    if_neg Bool.false_ne_true, List.anyM_cons, Platform.accepts]
  cases platform.hasAll name <;> rfl

/-- A name that the machine's platform has and the other one has not makes a configuration active
that is not for what is built, and it is not active under the empty name. -/
lemma not_startsOnTarget_of_name {name : String} (hhyphen : '-' ∉ name.toList)
    (hmachine : name ∈ (machinePlatform machine os family).names)
    (htarget : name ∉ (targetPlatform os family).names) :
    let s := variantSession machine os family (specialVariants name)
    ¬ s.StartsNameless ∧ ¬ s.StartsOnTarget := by
  intro s
  have hs := startsOn_variantSession machine os family (specialVariants name)
  have hchosen : Recipe.firstSupporting (some (machinePlatform machine os family))
      ((specialVariants name).map Variant.configuration) = .ok (some (.string "special")) := by
    rw [specialVariants, List.map_cons, Recipe.firstSupporting, supports_singleton rfl hhyphen,
      List.contains_iff_mem.mpr hmachine]
    rfl
  obtain ⟨found, t, l, hstartup, hl, hconfigurations, hne, hselected, hdeclares⟩ :=
    exists_startup_variantSession hchosen "special" rfl ⟨_, List.mem_cons_self, rfl⟩
  constructor
  · rintro ⟨found', t', l', hstartup', hl', -, hempty, -⟩
    rw [hstartup] at hstartup'
    cases hstartup'
    rw [hl] at hl'
    cases hl'
    rw [hselected] at hempty
    exact absurd (Document.string.inj hempty) (by decide)
  · intro hlaw
    obtain ⟨target, hplatform, c, hc, hname, hsupports⟩ :=
      hlaw found t l hstartup hl hne (hselected ▸ hdeclares)
    rw [hs.target hstartup hl] at hplatform
    cases hplatform
    rw [hconfigurations, specialVariants] at hc
    rw [hselected] at hname
    simp only [List.map_cons, List.map_nil, List.mem_cons, List.not_mem_nil, or_false] at hc
    rcases hc with rfl | rfl
    · rw [supports_singleton rfl hhyphen] at hsupports
      exact htarget (List.contains_iff_mem.mp (Except.ok.inj hsupports))
    · exact absurd (Document.string.inj hname) (by decide)

/-- A configuration for a platform of a name that neither platform has is not chosen, but it is
active if it has the empty name. -/
lemma startsNameless_of_name {name : String} (hhyphen : '-' ∉ name.toList)
    (hmachine : name ∉ (machinePlatform machine os family).names)
    (htarget : name ∉ (targetPlatform os family).names) :
    (variantSession machine os family (namelessVariants name)).StartsNameless := by
  have hs := startsOn_variantSession machine os family (namelessVariants name)
  have hchosen : Recipe.firstSupporting (some (machinePlatform machine os family))
      ((namelessVariants name).map Variant.configuration) = .ok none := by
    rw [namelessVariants, List.map_cons, Recipe.firstSupporting, supports_singleton rfl hhyphen,
      Bool.eq_false_iff.mpr (mt List.contains_iff_mem.mp hmachine)]
    rfl
  obtain ⟨found, t, l, hstartup, hl, hconfigurations, hne, hselected, hdeclares⟩ :=
    exists_startup_variantSession hchosen "" rfl ⟨_, List.mem_cons_self, rfl⟩
  refine ⟨found, t, l, hstartup, hl, hne, hselected, hdeclares, ?_⟩
  intro target hplatform c hc _ hsupports
  rw [hs.target hstartup hl] at hplatform
  cases hplatform
  rw [hconfigurations, namelessVariants] at hc
  simp only [List.map_cons, List.map_nil, List.mem_singleton] at hc
  rw [hc, supports_singleton rfl hhyphen] at hsupports
  exact htarget (List.contains_iff_mem.mp (Except.ok.inj hsupports))

/-- There is always another name. -/
lemma exists_name_not_mem (names : List String) :
    ∃ name : String, '-' ∉ name.toList ∧ name ∉ names := by
  refine ⟨String.ofList (List.replicate ((names.map String.length).sum + 1) 'x'), ?_, fun h => ?_⟩
  · simp
  · have hle := List.le_sum_of_mem (List.mem_map_of_mem (f := String.length) h)
    simp at hle

/-- **The platform that is built for.**  Whatever the recipe says, the configuration that is active
after the startup is for the platform that is built for, exactly if each name of the machine's
architecture that a specification can ask for is a name of that platform.  The only exception is a
configuration with the empty name, which can be active on every machine without being for what is
built. -/
theorem startsOnTarget_iff (machine os : String) (family : Family) :
    ((∀ s : Session, s.StartsOn machine os family → (s.StartsOnTarget ↔ ¬ s.StartsNameless)) ↔
      ∀ name ∈ Platform.architectureNames (Platform.machineArchitecture machine),
        '-' ∉ name.toList →
          name ∈ Platform.systemNames os ∨ name = "x86_64" ∨ name = family.name) ∧
      ∃ s : Session, s.StartsOn machine os family ∧ s.StartsNameless := by
  have hcovers : (targetPlatform os family).Covers (machinePlatform machine os family) ↔
      ∀ name ∈ Platform.architectureNames (Platform.machineArchitecture machine),
        '-' ∉ name.toList →
          name ∈ Platform.systemNames os ∨ name = "x86_64" ∨ name = family.name := by
    simp only [Platform.Covers, Platform.names, machinePlatform, targetPlatform, List.mem_append,
      List.mem_singleton, or_assoc]
    constructor
    · exact fun h name hname => h name (Or.inr (Or.inl hname))
    · rintro h name (hname | hname | hname) hhyphen
      · exact Or.inl hname
      · exact h name hname hhyphen
      · exact Or.inr (Or.inr hname)
  rw [← hcovers]
  refine ⟨⟨fun h name hmachine hhyphen => ?_, fun h s hs =>
    ⟨fun hlaw hnameless => hnameless.not_startsOnTarget hlaw, startsOnTarget_of_covers h hs⟩⟩, ?_⟩
  · by_contra htarget
    obtain ⟨hnamed, hlaw⟩ := not_startsOnTarget_of_name hhyphen hmachine htarget
    exact hlaw ((h _ (startsOn_variantSession machine os family _)).mpr hnamed)
  · obtain ⟨name, hhyphen, hname⟩ := exists_name_not_mem
      ((machinePlatform machine os family).names ++ (targetPlatform os family).names)
    rw [List.mem_append, not_or] at hname
    exact ⟨_, startsOn_variantSession machine os family _,
      startsNameless_of_name hhyphen hname.1 hname.2⟩

/-- On a machine with another architecture a configuration for it becomes active, and what is built
is for `x86_64`. -/
theorem not_startsOnTarget_of_aarch64 :
    let s := variantSession "aarch64" "linux" .dmd (specialVariants "aarch64")
    s.StartsOn "aarch64" "linux" .dmd ∧ ¬ s.StartsNameless ∧ ¬ s.StartsOnTarget := by
  have harchitecture : Platform.machineArchitecture "aarch64" = "aarch64" := by
    have hlower : Text.lower "aarch64" = "aarch64" := by
      cbv
    unfold Platform.machineArchitecture
    rw [hlower]
    cbv
  have hmachine : (machinePlatform "aarch64" "linux" .dmd).names =
      ["linux", "posix", "aarch64", "dmd"] := by
    unfold machinePlatform
    rw [harchitecture]
    cbv
  have htarget : (targetPlatform "linux" .dmd).names = ["linux", "posix", "x86_64", "dmd"] := by
    cbv
  refine ⟨startsOn_variantSession _ _ _ _, not_startsOnTarget_of_name (by decide) ?_ ?_⟩
  · rw [hmachine]
    decide
  · rw [htarget]
    decide

end Session

end DubCheck
