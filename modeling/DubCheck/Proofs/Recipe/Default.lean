import DubCheck.Proofs.Project.Availability
import DubCheck.Proofs.Text.Search
/-!
# Default configurations

A configuration suits a platform if it is for all platforms, or if the platform has all names that
one of its specifications joins with hyphens.  The default configuration of a package is the first
one that suits, and a package that declares none is an application or a library.

* `Platform.hasAll_iff`, `Configuration.supports_of_named`: what suits.
* `Recipe.isDefault_unique`: there is one default configuration at most.
* `Recipe.defaultConfiguration_cases`: the default configuration is found if there is one, unless
  the files of the package cannot be looked for.
-/

namespace DubCheck

lemma Document.same_string_iff {a b : String} :
    (Document.string a).same (.string b) = true ↔ a = b := by
  simp [Document.same, Document.sameLeaf]

/-! ## What suits a platform -/

/-- A platform has all names that a specification joins with hyphens. -/
def Platform.Matches (p : Platform) (specification : String) : Prop :=
  ∃ parts : List (List Char), parts ≠ [] ∧
    (∀ part ∈ parts, '-' ∉ part ∧ String.ofList part ∈ p.names) ∧
    ['-'].intercalate parts = specification.toList

lemma Platform.hasAll_iff {p : Platform} {specification : String} :
    p.hasAll specification = true ↔ p.Matches specification := by
  simp only [hasAll, List.all_eq_true, List.contains_iff_mem, Matches]
  constructor
  · intro h
    obtain ⟨hne, hparts, hjoin⟩ := Text.eq_splitOn_iff.mp
      (rfl : Text.splitOn '-' specification.toList = _)
    exact ⟨_, hne, fun part hpart => ⟨hparts part hpart, h part hpart⟩, hjoin⟩
  · rintro ⟨parts, hne, hparts, hjoin⟩
    rw [← Text.eq_splitOn_iff.mpr ⟨hne, fun part hpart => (hparts part hpart).1, hjoin⟩]
    exact fun part hpart => (hparts part hpart).2

namespace Configuration

variable {c : Configuration}

/-- A configuration is for all platforms, or one of its specifications is for this one.  Without a
platform every configuration will do. -/
def Suits (c : Configuration) (platform : Option Platform) : Prop :=
  ∀ p, platform = some p →
    c.platforms = [] ∨
      ∃ specification, .string specification ∈ c.platforms ∧ p.Matches specification

/-- The name of a configuration is a text that is not empty, and its specifications are texts. -/
structure Named (c : Configuration) : Prop where
  name : ∃ name, name ≠ "" ∧ c.name = .string name
  platforms : ∀ d ∈ c.platforms, ∃ specification, d = .string specification

lemma anyM_accepts {platforms : List Document}
    (h : ∀ d ∈ platforms, ∃ specification, d = .string specification) (p : Platform) :
    ∃ found, platforms.anyM p.accepts = .ok found ∧
      (found = true ↔ ∃ specification, .string specification ∈ platforms ∧
        p.Matches specification) := by
  induction platforms with
  | nil => exact ⟨false, rfl, by simp⟩
  | cons d platforms ih =>
    rw [List.forall_mem_cons] at h
    obtain ⟨⟨s, rfl⟩, hrest⟩ := h
    obtain ⟨found, hfound, hiff⟩ := ih hrest
    rw [List.anyM_cons]
    by_cases hs : p.Matches s
    · refine ⟨true, ?_, iff_of_true rfl ⟨s, List.mem_cons_self, hs⟩⟩
      rw [Platform.accepts, Platform.hasAll_iff.mpr hs]
      rfl
    · refine ⟨found, ?_, hiff.trans ?_⟩
      · rw [Platform.accepts, Bool.eq_false_iff.mpr (mt Platform.hasAll_iff.mp hs)]
        exact hfound
      · constructor
        · rintro ⟨t, ht, hmatches⟩
          exact ⟨t, List.mem_cons_of_mem _ ht, hmatches⟩
        · rintro ⟨t, ht, hmatches⟩
          rcases List.mem_cons.mp ht with heq | ht
          · cases heq
            exact absurd hmatches hs
          · exact ⟨t, ht, hmatches⟩

/-- Whether a configuration suits is found out. -/
lemma supports_of_named (h : c.Named) (platform : Option Platform) :
    ∃ suits, c.supports platform = .ok suits ∧ (suits = true ↔ c.Suits platform) := by
  cases platform with
  | none => exact ⟨true, rfl, iff_of_true rfl (by rintro p ⟨⟩)⟩
  | some p =>
    simp only [supports, Suits, Option.some.injEq, forall_eq']
    by_cases hempty : c.platforms = []
    · exact ⟨true, by rw [hempty]; rfl, iff_of_true rfl (Or.inl hempty)⟩
    · obtain ⟨found, hfound, hiff⟩ := anyM_accepts h.platforms p
      rw [if_neg (mt List.isEmpty_iff.mp hempty)]
      exact ⟨found, hfound, hiff.trans (or_iff_right hempty).symm⟩

end Configuration

/-! ## The default configuration -/

namespace Recipe

variable {r : Recipe} {h : Host} {platform : Option Platform} {name : String}

/-- The configurations of a recipe have names and specifications that are texts. -/
def Named (r : Recipe) : Prop :=
  ∀ c ∈ r.configurations, c.Named

/-- A package builds a program: it says so, or it has one of the files that make it one. -/
def IsApplication (r : Recipe) (h : Host) : Prop :=
  r.targetType.equals (.string "executable") = true ∨
    ∃ p ∈ r.applicationPaths, h.lookForFile p = .ok true

/-- The configuration that a package is built in if none is asked for. -/
inductive IsDefault (r : Recipe) (h : Host) (platform : Option Platform) : String → Prop where
  /-- The package declares no configuration and builds a program. -/
  | application :
    r.configurations = [] → r.IsApplication h → IsDefault r h platform "application"
  /-- The package declares no configuration and builds no program. -/
  | library :
    r.configurations = [] → ¬ r.IsApplication h → IsDefault r h platform "library"
  /-- The configuration suits the platform, and none that is declared before it does. -/
  | declared {before after : List Configuration} {c : Configuration} {name : String} :
    r.configurations = before ++ c :: after → c.name = .string name → c.Suits platform →
      (∀ d ∈ before, ¬ d.Suits platform) → IsDefault r h platform name

lemma firstSupporting_of_named {configurations : List Configuration}
    (h : ∀ c ∈ configurations, c.Named) (platform : Option Platform) :
    (∃ before c after, configurations = before ++ c :: after ∧
        firstSupporting platform configurations = .ok (some c.name) ∧ c.Suits platform ∧
        ∀ d ∈ before, ¬ d.Suits platform) ∨
      firstSupporting platform configurations = .ok none ∧
        ∀ c ∈ configurations, ¬ c.Suits platform := by
  induction configurations with
  | nil => exact Or.inr ⟨rfl, by simp⟩
  | cons c configurations ih =>
    rw [List.forall_mem_cons] at h
    obtain ⟨suits, hsupports, hiff⟩ := Configuration.supports_of_named h.1 platform
    rw [firstSupporting, hsupports]
    cases suits with
    | true => exact Or.inl ⟨[], c, configurations, rfl, rfl, hiff.mp rfl, by simp⟩
    | false =>
      have hnot : ¬ c.Suits platform := fun hs => Bool.false_ne_true (hiff.mpr hs)
      rcases ih h.2 with ⟨before, d, after, rfl, hfound, hd, hbefore⟩ | ⟨hnone, hall⟩
      · refine Or.inl ⟨c :: before, d, after, rfl, hfound, hd, ?_⟩
        rw [List.forall_mem_cons]
        exact ⟨hnot, hbefore⟩
      · refine Or.inr ⟨hnone, ?_⟩
        rw [List.forall_mem_cons]
        exact ⟨hnot, hall⟩

/-- Nobody has two default configurations. -/
theorem isDefault_unique {name' : String} (hd : r.IsDefault h platform name)
    (hd' : r.IsDefault h platform name') : name = name' := by
  have hnone : ∀ {before after : List Configuration} {c : Configuration},
      r.configurations = [] → r.configurations = before ++ c :: after → False := by
    intro before after c hempty hsplit
    rw [hempty] at hsplit
    simp at hsplit
  cases hd with
  | application hempty happ =>
    cases hd' with
    | application => rfl
    | library _ hlib => exact absurd happ hlib
    | declared hsplit => exact (hnone hempty hsplit).elim
  | library hempty hlib =>
    cases hd' with
    | application _ happ => exact absurd happ hlib
    | library => rfl
    | declared hsplit => exact (hnone hempty hsplit).elim
  | declared hsplit hname hsuits hbefore =>
    rename_i before after c
    cases hd' with
    | application hempty => exact (hnone hempty hsplit).elim
    | library hempty => exact (hnone hempty hsplit).elim
    | declared hsplit' hname' hsuits' hbefore' =>
      rename_i before' after' c'
      -- Neither of the two stands before the other.
      have hsame : c = c' := by
        rcases List.append_eq_append_iff.mp (hsplit.symm.trans hsplit') with
          ⟨gap, rfl, hgap⟩ | ⟨gap, rfl, hgap⟩
        · cases gap with
          | nil => exact (List.cons.inj hgap).1
          | cons d gap =>
            obtain ⟨rfl, -⟩ := List.cons.inj hgap
            exact absurd hsuits (hbefore' c (by simp))
        · cases gap with
          | nil => exact (List.cons.inj hgap).1.symm
          | cons d gap =>
            obtain ⟨rfl, -⟩ := List.cons.inj hgap
            exact absurd hsuits' (hbefore c' (by simp))
      rw [hsame, hname'] at hname
      exact (Document.string.inj hname).symm

lemma anyM_lookForFile_iff {paths : List Path} {found : Bool}
    (hany : paths.anyM h.lookForFile = .ok found) :
    found = true ↔ ∃ p ∈ paths, h.lookForFile p = .ok true := by
  induction paths with
  | nil =>
    cases hany
    simp
  | cons p paths ih =>
    rw [List.anyM_cons] at hany
    obtain ⟨here, hp, hany⟩ := bind_eq_ok_iff.mp hany
    cases here with
    | true =>
      cases hany
      exact iff_of_true rfl ⟨p, List.mem_cons_self, hp⟩
    | false =>
      refine (ih hany).trans ⟨?_, ?_⟩
      · rintro ⟨q, hq, hlook⟩
        exact ⟨q, List.mem_cons_of_mem p hq, hlook⟩
      · rintro ⟨q, hq, hlook⟩
        rcases List.mem_cons.mp hq with rfl | hq
        · rw [hp] at hlook
          cases hlook
        · exact ⟨q, hq, hlook⟩

/-- The implicit configuration says whether the package builds a program. -/
lemma isDefault_of_implicitConfiguration (hempty : r.configurations = [])
    (hi : r.implicitConfiguration h = .ok name) : r.IsDefault h platform name := by
  obtain ⟨target, ht, hi⟩ := bind_eq_ok_iff.mp hi
  have htarget : target = r.targetType := by
    unfold Document.hashable at ht
    split at ht
    · cases ht
    · exact (Except.ok.inj ht).symm
  rw [htarget] at hi
  split at hi
  · rename_i hexecutable
    cases hi
    exact .application hempty (Or.inl hexecutable)
  · rename_i hexecutable
    obtain ⟨found, hany, hi⟩ := bind_eq_ok_iff.mp hi
    have hiff := anyM_lookForFile_iff hany
    cases found with
    | true =>
      cases hi
      exact .application hempty (Or.inr (hiff.mp rfl))
    | false =>
      cases hi
      refine .library hempty ?_
      rintro (h | h)
      · exact hexecutable h
      · exact Bool.false_ne_true (hiff.mpr h)

/-- **The default configuration.**  It is found if there is one; only where a package declares no
configuration, looking for its files may fail. -/
theorem defaultConfiguration_cases (hnamed : r.Named) (h : Host) (platform : Option Platform) :
    (∃ name, r.defaultConfiguration h platform = .ok (some (.string name)) ∧
        r.IsDefault h platform name) ∨
      (r.defaultConfiguration h platform = .ok none ∧ r.configurations ≠ [] ∧
        ∀ name, ¬ r.IsDefault h platform name) ∨
      ∃ e, r.defaultConfiguration h platform = .error e ∧ r.configurations = [] ∧
        r.implicitConfiguration h = .error e := by
  unfold defaultConfiguration
  by_cases hempty : r.configurations = []
  · rw [if_pos (List.isEmpty_iff.mpr hempty)]
    cases hi : r.implicitConfiguration h with
    | error e => exact Or.inr (Or.inr ⟨e, rfl, hempty, rfl⟩)
    | ok name => exact Or.inl ⟨name, rfl, isDefault_of_implicitConfiguration hempty hi⟩
  · rw [if_neg (mt List.isEmpty_iff.mp hempty)]
    rcases firstSupporting_of_named hnamed platform with
      ⟨before, c, after, hsplit, hfound, hsuits, hbefore⟩ | ⟨hnone, hall⟩
    · obtain ⟨name, -, hname⟩ := (hnamed c (by simp [hsplit])).name
      rw [hfound, hname]
      exact Or.inl ⟨name, rfl, .declared hsplit hname hsuits hbefore⟩
    · rw [hnone]
      refine Or.inr (Or.inl ⟨rfl, hempty, ?_⟩)
      rintro name (⟨h, -⟩ | ⟨h, -⟩ | ⟨hsplit, -, hsuits, -⟩)
      · exact hempty h
      · exact hempty h
      · exact hall _ (by simp [hsplit]) hsuits

/-! ## What is declared -/

/-- What is found is for the platform. -/
lemma exists_of_firstSupporting {configurations : List Configuration} {d : Document}
    (hf : firstSupporting platform configurations = .ok (some d)) :
    ∃ c ∈ configurations, c.name = d ∧ c.supports platform = .ok true := by
  induction configurations with
  | nil => cases hf
  | cons c configurations ih =>
    rw [firstSupporting] at hf
    obtain ⟨suits, hs, hf⟩ := bind_eq_ok_iff.mp hf
    cases suits with
    | true =>
      cases hf
      exact ⟨c, List.mem_cons_self, rfl, hs⟩
    | false =>
      obtain ⟨c', hmem, hfound⟩ := ih hf
      exact ⟨c', List.mem_cons_of_mem c hmem, hfound⟩

/-- A default configuration that is found is declared. -/
lemma declares_of_defaultConfiguration
    (hf : r.defaultConfiguration h platform = .ok (some (.string name))) :
    r.Declares h (.string name) := by
  unfold defaultConfiguration at hf
  by_cases hempty : r.configurations = []
  · rw [if_pos (List.isEmpty_iff.mpr hempty)] at hf
    obtain ⟨implicit, hi, hf⟩ := bind_eq_ok_iff.mp hf
    cases hf
    refine ⟨[.string name], ?_, _, List.mem_singleton_self _, Document.same_string_iff.mpr rfl⟩
    rw [configurationNames, if_pos (List.isEmpty_iff.mpr hempty), hi]
    rfl
  · rw [if_neg (mt List.isEmpty_iff.mp hempty)] at hf
    obtain ⟨c, hmem, hname, -⟩ := exists_of_firstSupporting (mapError_eq_ok_iff.mp hf)
    refine ⟨r.configurations.map (·.name), ?_, _, List.mem_map_of_mem hmem, ?_⟩
    · rw [configurationNames, if_neg (mt List.isEmpty_iff.mp hempty)]
      rfl
    · rw [hname]
      exact Document.same_string_iff.mpr rfl

lemma configurationNames_of_ne_nil (hne : r.configurations ≠ []) (h : Host) :
    r.configurationNames h = .ok (r.configurations.map (·.name)) := by
  rw [configurationNames, if_neg (mt List.isEmpty_iff.mp hne)]
  rfl

/-- No configuration is called by an empty text. -/
lemma Named.not_declares_empty (hnamed : r.Named) (hne : r.configurations ≠ []) (h : Host) :
    ¬ r.Declares h (.string "") := by
  rintro ⟨names, hn, d, hmem, hsame⟩
  rw [configurationNames_of_ne_nil hne] at hn
  cases hn
  obtain ⟨c, hc, rfl⟩ := List.mem_map.mp hmem
  obtain ⟨name, hname, heq⟩ := (hnamed c hc).name
  rw [heq] at hsame
  exact hname (Document.same_string_iff.mp hsame)

lemma Named.ne_empty_of_isDefault (hnamed : r.Named) (hd : r.IsDefault h platform name) :
    name ≠ "" := by
  cases hd with
  | application => decide
  | library => decide
  | declared hsplit hname hsuits hbefore =>
    rename_i before after c
    obtain ⟨declared, hne, hdeclared⟩ := (hnamed c (by simp [hsplit])).name
    rw [hname] at hdeclared
    cases hdeclared
    exact hne

/-- Names that are texts can be listed in a message. -/
lemma Named.exists_joined (hnamed : r.Named) :
    ∃ text, Document.joined (r.configurations.map (·.name)) = .ok text := by
  have htexts : ∀ (configurations : List Configuration), (∀ c ∈ configurations, c.Named) →
      ∀ position, ∃ texts,
        Document.textsFrom position (configurations.map (·.name)) = .ok texts := by
    intro configurations
    induction configurations with
    | nil => exact fun _ _ => ⟨[], rfl⟩
    | cons c configurations ih =>
      intro h position
      rw [List.forall_mem_cons] at h
      obtain ⟨name, -, hname⟩ := h.1.name
      obtain ⟨texts, hrest⟩ := ih h.2 (position + 1)
      refine ⟨name :: texts, ?_⟩
      rw [List.map_cons, hname, Document.textsFrom, hrest]
      rfl
  obtain ⟨texts, h⟩ := htexts _ hnamed 0
  exact ⟨", ".intercalate texts, by rw [Document.joined, h]; rfl⟩

end Recipe

end DubCheck
