import Cloister.Access.Program

/-! # Which steps the rules take

For each group of rules, the steps that it can take and when it takes them.

* `Access.entry_cases`, `Access.flatMap_entries`: entries of a list.
* `Access.mem_namespaces`, `Access.mem_systemLayout`, `Access.mem_services`: the system.
* `Access.mem_runtimeSockets`, `Access.mem_homeDirectory`: directories of the session.
* `Access.mem_devices`, `Access.mem_deviceGrants`, `Access.grant_mem_deviceGrants`: devices.
* `Access.mem_x11`, `Access.mem_wayland`, `Access.mem_messageBus`: displays and message buses.
-/

namespace Cloister.Access
set_option autoImplicit false

variable {a : Access} {s : Step}

@[simp] theorem mem_only {b : Bool} {steps : List Step} : s ∈ only b steps ↔ b = true ∧ s ∈ steps := by
  cases b <;> simp [only]

theorem mem_map_iff {α : Type} {f : α → Step} {xs : List α} :
    s ∈ xs.map f ↔ ∃ x ∈ xs, s = f x := by
  simp only [List.mem_map, eq_comm]

/-- What holds of the step at an entry's place and of its refusal holds of the entry. -/
theorem entry_cases {P : Step → Prop} {base name : String} {mount : String → Step}
    (hmount : ∀ path, Path.beneath base name = some path → P (mount path))
    (hrefuse : P (.refuse base name)) : P (entry base name mount) := by
  unfold entry
  split
  · rename_i path hpath
    exact hmount path hpath
  · exact hrefuse

/-- The entries of a list lead to what is shown at their places. -/
theorem flatMap_entries (host : Host) (base : String) (names : List String)
    (place : String → Step) :
    (names.map fun name => entry base name place).flatMap (Step.directives host) =
      (names.filterMap (Path.beneath base)).flatMap fun p => (place p).directives host := by
  induction names with
  | nil => rfl
  | cons name names ih =>
    rw [List.map_cons, List.flatMap_cons, ih, entry]
    cases hpath : Path.beneath base name with
    | none => rw [List.filterMap_cons_none hpath, Step.directives, List.nil_append]
    | some p => rw [List.filterMap_cons_some hpath, List.flatMap_cons]

theorem hasRuntimeDir_iff : a.hasRuntimeDir = true ↔ a.settings.runtimeDir ≠ "" := by
  simp [hasRuntimeDir]

/-! ## The system -/

theorem mem_namespaces :
    s ∈ a.namespaces ↔
      (a.context.permissive = true ∧ s = .emit (.bindDevice "/" true) ∨
        s = .emit (.dropCapability "ALL") ∨ s = .emit (.unshare "user") ∨
        s = .emit (.unshare "cgroup")) ∨
      (a.tokens.restricts .unshareUts = true ∧
        (s = .emit (.unshare "uts") ∨ s = .emit (.setHostname hostname))) ∨
      (a.tokens.restricts .unshareNetwork = true ∧ s = .emit (.unshare "net")) ∨
      (a.tokens.restricts .newSession = true ∧ s = .emit .newSession) ∨
      s = .emit (.mountProc "/proc") ∨
      (a.tokens.restricts .unshareProcesses = true ∧ s = .emit (.unshare "pid")) := by
  simp only [namespaces, List.mem_append, mem_only, List.mem_cons, List.not_mem_nil, or_false,
    or_assoc]

theorem mem_services :
    s ∈ a.services ↔
      if a.tokens.restricts .hideRun then
        s = .clear "/run" ∨ a.tokens.restricts .unshareNetwork = false ∧ s = .read resolverDir
      else s = .read "/run" := by
  unfold services
  split <;> simp

theorem systemLayout_eq (a : Access) :
    a.systemLayout =
      only (a.tokens.restricts .preventPreload) [.emit (.maskFile preloadFile)] ++
        programDirectories.map (fun e => a.hideOrRead e.1 e.2) ++
        libraryDirectories.map Step.read ++
        rootLinks.map (fun e => .emit (.symlink e.1 e.2)) ++
        [a.hideOrRead .hideEtc "/etc", a.temporary, a.hideOrRead .hideSys "/sys"] ++
        a.services ++ [a.hideOrRead .hideVar "/var"] := rfl

theorem mem_systemLayout :
    s ∈ a.systemLayout ↔
      (a.tokens.restricts .preventPreload = true ∧ s = .emit (.maskFile preloadFile)) ∨
      (∃ e ∈ programDirectories, s = a.hideOrRead e.1 e.2) ∨
      (∃ path ∈ libraryDirectories, s = .read path) ∨
      (∃ e ∈ rootLinks, s = .emit (.symlink e.1 e.2)) ∨
      s = a.hideOrRead .hideEtc "/etc" ∨ s = a.temporary ∨ s = a.hideOrRead .hideSys "/sys" ∨
      s ∈ a.services ∨ s = a.hideOrRead .hideVar "/var" := by
  simp only [systemLayout_eq, List.mem_append, mem_only, List.mem_cons, mem_map_iff,
    List.not_mem_nil, or_false, or_assoc]

/-! ## Directories of the session -/

theorem mem_runtimeSockets :
    s ∈ a.runtimeSockets ↔ a.settings.runtimeDir ≠ "" ∧
      (s = a.hideOrRead .hideSockets a.settings.runtimeDir ∨
      (∃ e ∈ grantedSockets, a.tokens.allows e.1 = true ∧ s = .read (a.runtimePath e.2)) ∨
      (a.tokens.allows .allowDconf = true ∧ s = a.write (a.runtimePath "dconf")) ∨
      ∃ name ∈ a.settings.socketAccess, s = entry a.settings.runtimeDir name Step.read) := by
  simp only [runtimeSockets, mem_only, hasRuntimeDir_iff, List.cons_append, List.mem_cons,
    List.mem_append, List.mem_flatMap, mem_map_iff, List.not_mem_nil, or_false, or_assoc]

theorem mem_homeDirectory :
    s ∈ a.homeDirectory ↔ a.settings.home ≠ "" ∧
      (s = a.homeBase ∨
      (a.tokens.allows .allowDownloads = true ∧ s = a.write (Path.join a.settings.home downloads)) ∨
      ∃ name ∈ a.settings.homeAccess, s = entry a.settings.home name a.write) := by
  simp only [homeDirectory, mem_only, bne_iff_ne, List.cons_append, List.mem_cons,
    List.mem_append, mem_map_iff, List.not_mem_nil, or_false]

/-! ## Devices -/

theorem mem_devices :
    s ∈ a.devices ↔
      (s = if a.tokens.restricts .hideDevices then .emit (.minimalDev deviceDir)
        else .emit (.bindDevice deviceDir true)) ∨
      (a.tokens.allows .allowShm = false ∧ s = .clear sharedMemory) ∨
      s ∈ deviceGrants [] a.deviceNames := by
  simp only [devices, List.cons_append, List.mem_cons, List.mem_append, mem_only,
    List.not_mem_nil, or_false, Bool.not_eq_true']

/-- A device is granted at the place that one of the names has, or the name is refused. -/
theorem mem_deviceGrants {met names : List String} (hs : s ∈ deviceGrants met names) :
    ∃ name ∈ names, s = .refuse deviceDir name ∨
      ∃ path, Path.beneath deviceDir name = some path ∧ s = .grant (.bindDevice path false) := by
  fun_induction deviceGrants met names with
  | case1 => cases hs
  | case2 met name names _ ih =>
    rcases List.mem_cons.mp hs with rfl | hs
    · exact ⟨name, List.mem_cons_self .., .inl rfl⟩
    · obtain ⟨n, hn, h⟩ := ih hs
      exact ⟨n, List.mem_cons_of_mem _ hn, h⟩
  | case3 met name names path _ _ ih =>
    obtain ⟨n, hn, h⟩ := ih hs
    exact ⟨n, List.mem_cons_of_mem _ hn, h⟩
  | case4 met name names path hp _ ih =>
    rcases List.mem_cons.mp hs with rfl | hs
    · exact ⟨name, List.mem_cons_self .., .inr ⟨path, hp, rfl⟩⟩
    · obtain ⟨n, hn, h⟩ := ih hs
      exact ⟨n, List.mem_cons_of_mem _ hn, h⟩

/-- A device is granted at the place of each name that was not met before. -/
theorem grant_mem_deviceGrants {met names : List String} {name path : String} (hmet : path ∉ met)
    (hname : name ∈ names) (hpath : Path.beneath deviceDir name = some path) :
    .grant (.bindDevice path false) ∈ deviceGrants met names := by
  fun_induction deviceGrants met names with
  | case1 => cases hname
  | case2 met n names hnone ih =>
    refine List.mem_cons_of_mem _ (ih hmet ?_)
    rcases List.mem_cons.mp hname with rfl | hname
    · rw [hnone] at hpath
      cases hpath
    · exact hname
  | case3 met n names place hplace hmem ih =>
    refine ih hmet ?_
    rcases List.mem_cons.mp hname with rfl | hname
    · rw [hplace, Option.some.injEq] at hpath
      exact absurd (hpath ▸ hmem) hmet
    · exact hname
  | case4 met n names place hplace hmem ih =>
    by_cases hp : path = place
    · rw [hp]
      exact List.mem_cons_self ..
    · refine List.mem_cons_of_mem _ (ih (List.not_mem_cons_of_ne_of_not_mem hp hmet) ?_)
      rcases List.mem_cons.mp hname with rfl | hname
      · rw [hplace, Option.some.injEq] at hpath
        exact absurd hpath.symm hp
      · exact hname

/-! ## Displays and message buses -/

theorem mem_x11 :
    s ∈ a.x11 ↔
      if a.context.display.system.allowsX11 then
        a.settings.xauthority ≠ "" ∧ s = .read a.settings.xauthority ∨ s = .read x11SocketDir
      else
        s = .emit (.unsetVariable "DISPLAY") ∨ s = .emit (.unsetVariable "XAUTHORITY") ∨
        (a.settings.xauthority ≠ "" ∧ s = .emit (.maskFile a.settings.xauthority)) ∨
        s = .clear x11SocketDir := by
  unfold x11
  split <;> simp

theorem mem_wayland :
    s ∈ a.wayland ↔
      if a.context.display.system.allowsWayland then
        a.settings.runtimeDir ≠ "" ∧ s = .read (a.runtimePath waylandSocket)
      else
        s = .emit (.unsetVariable "WAYLAND_DISPLAY") ∨
        a.settings.runtimeDir ≠ "" ∧ s = .emit (.maskFile (a.runtimePath waylandSocket)) := by
  unfold wayland
  split <;> simp [hasRuntimeDir_iff]

theorem mem_messageBus :
    s ∈ a.messageBus ↔ a.tokens.allows .allowDbus = true ∧
      (s = .read systemBus ∨
        a.settings.runtimeDir ≠ "" ∧ s = .read (a.runtimePath sessionBus)) := by
  simp only [messageBus, mem_only, hasRuntimeDir_iff, List.mem_cons, List.not_mem_nil, or_false]

end Cloister.Access
