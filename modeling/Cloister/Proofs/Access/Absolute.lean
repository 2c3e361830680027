import Cloister.Proofs.Access.Absence
import Cloister.Proofs.Access.Emitted
import Cloister.Proofs.Access.Extent

/-! # Absolute paths

Valid settings, with absolute paths to read and an absolute program, lead to absolute paths only.
The entries that are placed beneath a directory may be anything.

* `Directive.Absolute`: a directive without relative paths.
* `Settings.isAbsolute_of_isValid`: what the checks of settings say of their paths.
* `Access.isAbsolute_of_target?`: all steps mount at absolute paths, if those of the settings are.
* `Access.Emitted.source_cases`: where the source of what is emitted comes from.
* `compile_absolute`: a compiled list has absolute paths only.
-/

namespace Cloister
set_option autoImplicit false

/-- Source and target of a directive are absolute, where it has them. -/
structure Directive.Absolute (d : Directive) : Prop where
  source : ∀ path, d.source = some path → Path.isAbsolute path = true
  target : ∀ path, d.target = some path → Path.isAbsolute path = true

/-! ## Paths of the settings -/

namespace Settings

variable {s : Settings} {path : String}

theorem isAbsolute_of_not_isRelative (h : isRelative path = false) (hne : path ≠ "") :
    Path.isAbsolute path = true := by
  simpa [isRelative, hne] using h

theorem isAbsolute_of_isValid (h : s.isValid = true)
    (hp : path ∈ [s.home, s.runtimeDir, s.xauthority]) (hne : path ≠ "") :
    Path.isAbsolute path = true := by
  have hproblems : s.problems = [] := List.isEmpty_iff.mp h
  have hnone (p : String) (problem : Problem)
      (he : (if isRelative p then [problem] else []) = []) : isRelative p = false := by
    simpa using he
  simp only [problems, List.append_eq_nil_iff] at hproblems
  obtain ⟨⟨⟨hhome, hruntime⟩, hxauthority⟩, -⟩ := hproblems
  refine isAbsolute_of_not_isRelative ?_ hne
  simp only [List.mem_cons, List.not_mem_nil, or_false] at hp
  rcases hp with rfl | rfl | rfl
  · exact hnone _ _ hhome
  · exact hnone _ _ hruntime
  · exact hnone _ _ hxauthority

/-- Beside the paths that may be read, the settings are checked for all paths that are shown
wherever they are. -/
theorem isAbsolute_of_mem_openPaths (h : s.isValid = true)
    (hread : ∀ r ∈ s.readAccess, Path.isAbsolute r = true) (hp : path ∈ s.openPaths)
    (hne : path ≠ "") : Path.isAbsolute path = true := by
  rcases List.mem_append.mp hp with hp | hp
  · exact hread path hp
  · exact isAbsolute_of_isValid h hp hne

end Settings

/-! ## Targets -/

/-- Inside absolute directories a step mounts at absolute paths. -/
theorem Step.Within.isAbsolute {bases : List String} {s : Step} {target : String}
    (h : s.Within bases) (hb : ∀ base ∈ bases, base ≠ "" → Path.isAbsolute base = true)
    (ht : s.target? = some target) (hne : target ≠ "") : Path.isAbsolute target = true := by
  obtain ⟨base, hbase, hbne, hcov⟩ := h target ht hne
  exact Path.isAbsolute_of_covers hcov (hb base hbase hbne)

namespace Access

variable {a : Access} {s : Step} {d : Directive} {target path : String}

theorem isAbsolute_of_mem_layoutPaths (h : path ∈ layoutPaths) : Path.isAbsolute path = true :=
  (by decide : ∀ p ∈ layoutPaths, Path.isAbsolute p = true) path h

/-- The rules mount at absolute paths, if those of the settings are absolute. -/
theorem isAbsolute_of_target?
    (hopen : ∀ p ∈ a.settings.openPaths, p ≠ "" → Path.isAbsolute p = true) (hs : s ∈ a.steps)
    (ht : s.target? = some target) (hne : target ≠ "") : Path.isAbsolute target = true := by
  have hsession : ∀ base ∈ a.sessionBases, base ≠ "" → Path.isAbsolute base = true := by
    intro base hbase hbne
    rcases List.mem_append.mp hbase with hbase | hbase
    · exact hopen base hbase hbne
    · exact (by decide : ∀ p ∈ [x11SocketDir, systemBus], Path.isAbsolute p = true) base hbase
  have hdevice : ∀ base ∈ [deviceDir], base ≠ "" → Path.isAbsolute base = true := by decide
  rw [steps_eq, List.mem_append] at hs
  rcases hs with hs | hs
  · have hlayout : target ∈ (a.namespaces ++ a.systemLayout).filterMap Step.target? :=
      List.mem_filterMap.mpr ⟨s, hs, ht⟩
    exact isAbsolute_of_mem_layoutPaths (a.targets_layout.subset hlayout)
  · rcases List.mem_append.mp hs with hs | hs
    · rcases List.mem_append.mp hs with hs | hs
      · exact (within_of_mem_earlySession hs).isAbsolute hsession ht hne
      · exact (within_of_mem_devices hs).isAbsolute hdevice ht hne
    · exact (within_of_mem_lateSession hs).isAbsolute hsession ht hne

/-! ## Sources -/

/-- What is emitted in any case has its target for a source, or a path that no settings change. -/
theorem Emitted.source_cases (h : a.Emitted d) (hsource : d.source = some path) :
    d.target = some path ∨ path = Directive.nullFile ∨ path ∈ rootLinks.map Prod.fst := by
  cases h with
  | root | devices => exact .inl hsource
  | maskFile => exact .inr (.inl (Option.some.inj hsource).symm)
  | symlink hlink =>
    cases hsource
    exact .inr (.inr (List.mem_map.mpr ⟨_, hlink, rfl⟩))
  | _ => cases hsource

theorem isAbsolute_of_source (host : Host)
    (htarget : ∀ p, d.target = some p → Path.isAbsolute p = true)
    (hs : s ∈ a.steps) (hd : d ∈ s.directives host) (hsource : d.source = some path) :
    Path.isAbsolute path = true := by
  rcases Step.mem_directives.mp hd with rfl | ⟨dir, rfl, rfl⟩ | ⟨rfl, -⟩
  · rcases (emitted_of_mem_steps hs).source_cases hsource with h | rfl | h
    · exact htarget path h
    · decide
    · exact (by decide : ∀ p ∈ rootLinks.map Prod.fst, Path.isAbsolute p = true) path h
  · cases hsource
  · have hoptional : d.Optional := regular_of_mem_steps hs
    exact htarget path (hoptional.source_eq_target ▸ hsource)

/-! ## All rules -/

theorem absolute_of_mem_content
    (hopen : ∀ p ∈ a.settings.openPaths, p ≠ "" → Path.isAbsolute p = true) {host : Host}
    (hd : d ∈ a.content host) : d.Absolute := by
  obtain ⟨s, hs, hd⟩ := List.mem_flatMap.mp hd
  have htarget (p : String) (hp : d.target = some p) : Path.isAbsolute p = true := by
    have hne : p ≠ "" := by
      rintro rfl
      exact (regular_of_mem_steps hs).target_ne hd hp
    exact isAbsolute_of_target? hopen hs (Step.target_of_mem_directives hd ▸ hp) hne
  exact ⟨fun p => isAbsolute_of_source host htarget hs hd, htarget⟩

theorem absolute_of_mem_closing
    (hopen : ∀ p ∈ a.settings.openPaths, p ≠ "" → Path.isAbsolute p = true)
    (hd : d ∈ a.closing) : d.Absolute := by
  rcases List.mem_append.mp hd with hd | hd
  · obtain ⟨p, hp, rfl⟩ := List.mem_map.mp hd
    refine ⟨nofun, ?_⟩
    rintro q ⟨⟩
    rcases a.mem_toList_locked.mp hp with rfl | hclear
    · decide
    · exact isAbsolute_of_target? hopen hclear rfl (regular_of_mem_steps hclear)
  · rw [List.mem_singleton.mp hd]
    exact ⟨nofun, nofun⟩

end Access

/-- Valid settings lead to absolute paths only, as long as the program and the paths that may be read
are absolute. Of the other entries of the settings nothing is asked. -/
theorem compile_absolute (s : Settings) (hs : s.isValid = true)
    (hread : ∀ r ∈ s.readAccess, Path.isAbsolute r = true) (host : Host) (path : String)
    (hpath : Path.isAbsolute path = true) :
    ∀ d ∈ (compile s host path).directives, d.Absolute := by
  have hopen : ∀ p ∈ (Access.ofSettings s).settings.openPaths, p ≠ "" →
      Path.isAbsolute p = true :=
    fun p hp hne => Settings.isAbsolute_of_mem_openPaths hs hread hp hne
  intro d hd
  rw [compile, Access.directives_compile, List.append_assoc] at hd
  rcases List.mem_append.mp hd with hd | hd
  · rcases List.mem_append.mp hd with hd | hd
    · exact Access.absolute_of_mem_content hopen hd
    · rw [Access.toList_program] at hd
      split at hd
      · rw [List.mem_singleton.mp hd]
        exact ⟨by rintro _ ⟨⟩; exact hpath, by rintro _ ⟨⟩; exact hpath⟩
      · cases hd
  · exact Access.absolute_of_mem_closing hopen hd

/-- Entries with slashes in front, with dot segments, or that lead out of their base directory, lead
to absolute paths or to none. -/
theorem compile_absolute_entries :
    let s : Settings :=
      { applicationParams := "nosandbox,nohidesockets,allowdconf,allowdbus", home := "/home//user/"
        runtimeDir := "/run/user/1000", xauthority := "//key", readAccess := ["/opt/../etc"]
        homeAccess := ["../other", "//a/..//b", ".", "-x"], deviceAccess := ["..", "snd/./seq"]
        socketAccess := ["/bus", "a/../../b", ""] }
    s.isValid = true ∧ ∀ d ∈ (compile s (fun _ => true) "/usr/bin/true").directives, d.Absolute := by
  intro s
  have hvalid : s.isValid = true := by decide
  have hread : ∀ r ∈ s.readAccess, Path.isAbsolute r = true := by decide
  exact ⟨hvalid, compile_absolute s hvalid hread (fun _ => true) "/usr/bin/true" (by decide)⟩

end Cloister
