import Cloister.Proofs.Access.Devices
import Cloister.Proofs.Access.Entries
import Cloister.Proofs.Path.Reduction

/-! # Entries and their reductions

An entry of a list counts for no more than its reduction: by its reduction it is refused, or placed
beneath its base directory. Where it is refused, and only there, a warning is given.

* `Path.filterMap_beneath_congr`: entries with the same reductions have the same places.
* `Settings.refusals`: the warnings that the entries of settings lead to.
* `entries_settled_by_reduction`: the places of entries, the warnings, and the compiled list.
-/

namespace Cloister
set_option autoImplicit false

/-- The places of entries depend on their reductions. -/
theorem Path.filterMap_beneath_congr {names names' : List String}
    (h : names.map reduction = names'.map reduction) (base : String) :
    names.filterMap (beneath base) = names'.filterMap (beneath base) := by
  have hreduced (ns : List String) : ns.filterMap (beneath base) =
      (ns.map reduction).filterMap fun cs => if Leaves cs then none else some (placed base cs) := by
    rw [List.filterMap_map]
    exact List.filterMap_congr fun name _ => beneath_eq_placed base name
  rw [hreduced, hreduced, h]

/-- One warning for each entry that leads out of a base directory. -/
def Path.refusals (base : String) (names : List String) : List Notice :=
  (names.filter fun name => Leaves (reduction name)).map (.outside base)

theorem Path.refusals_cons (base name : String) (names : List String) :
    refusals base (name :: names) =
      (if Leaves (reduction name) then [.outside base name] else []) ++ refusals base names := by
  rw [refusals, refusals]
  split <;> simp_all

theorem Path.refusals_append (base : String) (xs ys : List String) :
    refusals base (xs ++ ys) = refusals base xs ++ refusals base ys := by
  rw [refusals, refusals, refusals, List.filter_append, List.map_append]

/-- The warnings about the entries of settings, in order. Entries beneath a directory that is not
given are not looked at. -/
def Settings.refusals (s : Settings) : List Notice :=
  (if s.runtimeDir ≠ "" then Path.refusals s.runtimeDir s.socketAccess else []) ++
    Path.refusals "/dev" s.deviceAccess ++
    (if s.home ≠ "" then Path.refusals s.home s.homeAccess else [])

/-! ## Warnings -/

theorem Step.Beside.refusal?_eq_none {dir : String} {s : Step} (h : s.Beside dir) :
    s.refusal? = none := by
  cases h <;> rfl

namespace Access

variable {a : Access} {host : Host}

/-- The step of an entry is settled by its reduction. -/
theorem entry_eq (base name : String) (place : String → Step) :
    entry base name place =
      if Path.Leaves (Path.reduction name) then .refuse base name
      else place (Path.placed base (Path.reduction name)) := by
  rw [entry, Path.beneath_eq_placed]
  by_cases h : Path.Leaves (Path.reduction name)
  · simp only [if_pos h]
  · simp only [if_neg h]

theorem refusals_entries {base : String} {place : String → Step}
    (h : ∀ path, (place path).refusal? = none) (names : List String) :
    (names.map fun name => entry base name place).filterMap Step.refusal? =
      Path.refusals base names := by
  induction names with
  | nil => rfl
  | cons name names ih =>
    rw [List.map_cons, entry_eq, Path.refusals_cons, ← ih]
    by_cases hl : Path.Leaves (Path.reduction name)
    · rw [if_pos hl, if_pos hl]
      rfl
    · rw [if_neg hl, if_neg hl, List.filterMap_cons_none (h _)]
      rfl

/-- There is a warning for each name that leads out of the directory, and none for a place that was
met before. -/
theorem refusals_deviceGrants (met names : List String) :
    (deviceGrants met names).filterMap Step.refusal? = Path.refusals deviceDir names := by
  fun_induction deviceGrants met names with
  | case1 => rfl
  | case2 met name names hnone ih =>
    rw [Path.refusals_cons, if_pos ((Path.beneath_eq_none_iff _).mp hnone), ← ih]
    rfl
  | case3 met name names path hpath hmet ih =>
    rw [Path.refusals_cons, if_neg (Path.not_leaves_of_beneath hpath), ih, List.nil_append]
  | case4 met name names path hpath hmet ih =>
    rw [Path.refusals_cons, if_neg (Path.not_leaves_of_beneath hpath), ← ih]
    rfl

/-- The rules without entries give no warning. -/
theorem refusals_of_beside (dir : String) {steps : List Step} (h : ∀ s ∈ steps, s.Beside dir) :
    steps.filterMap Step.refusal? = [] := by
  rw [List.filterMap_eq_nil_iff]
  exact fun s hs => (h s hs).refusal?_eq_none

/-- A group of rules with entries at its end warns of these entries. -/
theorem refusals_only_entries (dir : String) {base : String} {b : Bool} {front : List Step}
    {place : String → Step} (hfront : ∀ s ∈ front, s.Beside dir)
    (hplace : ∀ path, (place path).Beside dir) (names : List String) :
    (only b (front ++ names.map fun name => entry base name place)).filterMap Step.refusal? =
      if b then Path.refusals base names else [] := by
  cases b with
  | false => rfl
  | true =>
    rw [only, if_pos rfl, if_pos rfl, List.filterMap_append, refusals_of_beside dir hfront,
      List.nil_append]
    exact refusals_entries (fun path => (hplace path).refusal?_eq_none) names

theorem refusals_runtimeSockets (a : Access) :
    a.runtimeSockets.filterMap Step.refusal? =
      if a.settings.runtimeDir ≠ "" then
        Path.refusals a.settings.runtimeDir a.settings.socketAccess else [] := by
  rw [runtimeSockets, refusals_only_entries a.settings.runtimeDir ?_ .read]
  · exact if_congr hasRuntimeDir_iff rfl rfl
  · intro s hs
    simp only [List.cons_append, List.mem_cons, List.mem_append, List.mem_flatMap, mem_only,
      List.not_mem_nil, or_false] at hs
    rcases hs with rfl | ⟨e, -, -, rfl⟩ | ⟨-, rfl⟩
    · exact beside_hideOrRead _ id
    · exact .read _
    · exact beside_write _

theorem refusals_homeDirectory (a : Access) :
    a.homeDirectory.filterMap Step.refusal? =
      if a.settings.home ≠ "" then Path.refusals a.settings.home a.settings.homeAccess else [] := by
  rw [homeDirectory, refusals_only_entries a.settings.home ?_ beside_write]
  · exact if_congr bne_iff_ne rfl rfl
  · intro s hs
    simp only [List.mem_cons, mem_only, List.not_mem_nil, or_false] at hs
    rcases hs with rfl | ⟨-, rfl⟩
    · exact beside_homeBase
    · exact beside_write _

theorem refusals_devices (a : Access) :
    a.devices.filterMap Step.refusal? = Path.refusals deviceDir a.settings.deviceAccess := by
  have hplaced : ∀ name ∈ ["dri", "usb", "shm"], ¬ Path.Leaves (Path.reduction name) := by
    decide +kernel
  have hgranted (b : Bool) {name : String} (hname : name ∈ ["dri", "usb", "shm"]) :
      Path.refusals deviceDir (if b then [name] else []) = [] := by
    cases b with
    | false => rfl
    | true =>
      rw [if_pos rfl, Path.refusals_cons, if_neg (hplaced name hname)]
      rfl
  have hdirectory : (if a.tokens.restricts .hideDevices then Step.emit (.minimalDev deviceDir)
      else .emit (.bindDevice deviceDir true)).refusal? = none := by
    split <;> rfl
  have hclear : (only (!a.tokens.allows .allowShm) [.clear sharedMemory]).filterMap
      Step.refusal? = [] := by
    cases a.tokens.allows .allowShm <;> rfl
  rw [devices, List.filterMap_append, List.filterMap_cons_none hdirectory, hclear,
    refusals_deviceGrants, deviceNames, Path.refusals_append, Path.refusals_append,
    Path.refusals_append, hgranted _ (by decide), hgranted _ (by decide), hgranted _ (by decide)]
  rfl

/-- All warnings of a compiled list are about entries. -/
theorem filter_isWarning_compile (s : Settings) (host : Host) (path : String) :
    (Cloister.compile s host path).notices.filter Notice.isWarning = s.refusals := by
  have hbefore (a : Access) :
      (a.closed.namespaces ++ a.closed.systemDirectories).filterMap Step.refusal? = [] := by
    refine refusals_of_beside "" fun s hs => ?_
    rcases List.mem_append.mp hs with hs | hs
    · exact beside_of_mem_namespaces (permissive_closed a) hs
    · exact beside_of_mem_systemDirectories hs
  have hafter (a : Access) :
      (a.displays ++ a.messageBus ++ [Step.read path]).filterMap Step.refusal? = [] := by
    refine refusals_of_beside "" fun s hs => ?_
    simp only [List.mem_append, List.mem_singleton] at hs
    rcases hs with (hs | hs) | rfl
    · exact beside_of_mem_displays hs
    · exact beside_of_mem_messageBus hs
    · exact .read path
  have hsteps (a : Access) : a.stepsWith path = a.namespaces ++ a.systemDirectories ++
      (a.runtimeSockets ++ a.devices ++ a.homeDirectory) ++
        (a.displays ++ a.messageBus ++ [Step.read path]) := by
    simp only [stepsWith, steps, List.append_assoc]
  rw [Cloister.compile, notices_compile_closed, notices_compile, filter_isWarning_flatMap, hsteps,
    List.filterMap_append, List.filterMap_append, hbefore, hafter, List.nil_append, List.append_nil,
    List.filterMap_append, List.filterMap_append, refusals_runtimeSockets, refusals_devices,
    refusals_homeDirectory, settings_closed, settings_ofSettings]
  rfl

/-! ## Other entries with the same reductions -/

variable {home devices sockets : List String}

theorem locked_withEntries (a : Access) :
    (a.withEntries home devices sockets).locked = a.locked :=
  (locked_withoutEntries (a.withEntries home devices sockets)).symm.trans (locked_withoutEntries a)

/-- A group of rules with entries at its end looks at their reductions only. -/
theorem flatMap_only_entries {b : Bool} {front : List Step} {base : String}
    {place : String → Step} {names names' : List String}
    (h : names.map Path.reduction = names'.map Path.reduction) :
    (only b (front ++ names.map fun name => entry base name place)).flatMap
        (Step.directives host) =
      (only b (front ++ names'.map fun name => entry base name place)).flatMap
        (Step.directives host) := by
  cases b with
  | false => rfl
  | true =>
    rw [only, if_pos rfl, only, if_pos rfl, List.flatMap_append, List.flatMap_append,
      flatMap_entries, flatMap_entries, Path.filterMap_beneath_congr h base]

theorem flatMap_devices_withEntries (a : Access)
    (h : devices.map Path.reduction = a.settings.deviceAccess.map Path.reduction) :
    (a.withEntries home devices sockets).devices.flatMap (Step.directives host) =
      a.devices.flatMap (Step.directives host) := by
  have hnames : (a.withEntries home devices sockets).deviceNames.map Path.reduction =
      a.deviceNames.map Path.reduction := by
    have hnew : (a.withEntries home devices sockets).settings.deviceAccess = devices := rfl
    rw [deviceNames, deviceNames, hnew, List.map_append, h, ← List.map_append]
    rfl
  rw [Access.devices, Access.devices, List.flatMap_append, List.flatMap_append,
    directives_deviceGrants, directives_deviceGrants, Path.filterMap_beneath_congr hnames]
  rfl

theorem content_withEntries (a : Access)
    (hhome : home.map Path.reduction = a.settings.homeAccess.map Path.reduction)
    (hdevices : devices.map Path.reduction = a.settings.deviceAccess.map Path.reduction)
    (hsockets : sockets.map Path.reduction = a.settings.socketAccess.map Path.reduction) :
    (a.withEntries home devices sockets).content host = a.content host := by
  have hruntime : (a.withEntries home devices sockets).runtimeSockets.flatMap
      (Step.directives host) = a.runtimeSockets.flatMap (Step.directives host) :=
    flatMap_only_entries hsockets
  have hdirectory : (a.withEntries home devices sockets).homeDirectory.flatMap
      (Step.directives host) = a.homeDirectory.flatMap (Step.directives host) :=
    flatMap_only_entries hhome
  rw [content, content, steps, steps]
  simp only [List.flatMap_append, hruntime, hdirectory, flatMap_devices_withEntries a hdevices]
  rfl

theorem directives_compile_withEntries {s : Settings} (host : Host) (path : String)
    (hhome : home.map Path.reduction = s.homeAccess.map Path.reduction)
    (hdevices : devices.map Path.reduction = s.deviceAccess.map Path.reduction)
    (hsockets : sockets.map Path.reduction = s.socketAccess.map Path.reduction) :
    (Cloister.compile (s.withEntries home devices sockets) host path).directives =
      (Cloister.compile s host path).directives := by
  rw [← settings_ofSettings s] at hhome hdevices hsockets
  rw [Cloister.compile, Cloister.compile, ofSettings_withEntries, directives_compile,
    directives_compile, locked_withEntries, content_withEntries _ hhome hdevices hsockets]

end Access

/-- By its reduction an entry is refused, with one warning and nothing else, or placed beneath its
base. Entries that have a place have the same one iff their reductions are equal. The warnings of a
compiled list are those about the entries that lead out, and the list stays the same if entries are
exchanged for others with the same reductions. -/
theorem entries_settled_by_reduction :
    (∀ base name : String,
      Path.beneath base name =
          (if Path.Leaves (Path.reduction name) then none
            else some (Path.placed base (Path.reduction name))) ∧
        ∀ (place : String → Step) (host : Host),
          (Access.entry base name place).notices host =
            if Path.Leaves (Path.reduction name) then [.outside base name]
            else (place (Path.placed base (Path.reduction name))).notices host) ∧
    (∀ base name name' : String,
      ¬ Path.Leaves (Path.reduction name) → ¬ Path.Leaves (Path.reduction name') →
        (Path.beneath base name = Path.beneath base name' ↔
          Path.reduction name = Path.reduction name')) ∧
    (∀ (s : Settings) (host : Host) (path : String),
      (compile s host path).notices.filter Notice.isWarning = s.refusals) ∧
    ∀ (s : Settings) (host : Host) (path : String) (home devices sockets : List String),
      home.map Path.reduction = s.homeAccess.map Path.reduction →
      devices.map Path.reduction = s.deviceAccess.map Path.reduction →
      sockets.map Path.reduction = s.socketAccess.map Path.reduction →
        (compile (s.withEntries home devices sockets) host path).directives =
          (compile s host path).directives := by
  refine ⟨fun base name => ⟨Path.beneath_eq_placed base name, fun place host => ?_⟩, ?_,
    Access.filter_isWarning_compile, ?_⟩
  · rw [Access.entry_eq]
    split <;> rfl
  · intro base name name' h h'
    rw [Path.beneath_eq_beneath_iff]
    exact or_iff_left fun hl => h hl.1
  · intro s host path home devices sockets hhome hdevices hsockets
    exact Access.directives_compile_withEntries host path hhome hdevices hsockets

/-- A name that starts with two dots is no way out. Slashes at the start, doubled or at the end make no
difference. -/
theorem entries_settled_by_reduction_spellings :
    let s : Settings :=
      { home := "/home/user", runtimeDir := "/run/user/1000", homeAccess := ["..foo", "a/../.."],
        deviceAccess := ["x/../dri/"], socketAccess := ["//app.sock", "///"] }
    Path.beneath "/dev/" "x/../dri/" = Path.beneath "/dev/" "./dri" ∧
      (compile (s.withEntries ["/..foo/.", ".."] ["./dri"] ["app.sock", "b/.."])
          (fun _ => true) "/usr/bin/true").directives =
        (compile s (fun _ => true) "/usr/bin/true").directives := by
  intro s
  obtain ⟨-, hsame, -, hcompile⟩ := entries_settled_by_reduction
  constructor
  · exact (hsame "/dev/" "x/../dri/" "./dri" (by decide +kernel) (by decide +kernel)).mpr
      (by decide +kernel)
  · exact hcompile s _ _ _ _ _ (by decide +kernel) (by decide +kernel) (by decide +kernel)

end Cloister
