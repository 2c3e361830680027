import Cloister.Proofs.Access.Regular
import Cloister.Proofs.Directive.Sight

/-! # Where the steps mount

Namespaces and the layout of the system mount at fixed places in a fixed order. All later steps
mount inside directories of the settings or of the session.

* `Step.Spares`: a step puts nothing over a path.
* `Step.Within`: a step mounts inside one of several base directories, if anywhere.
* `Access.layoutPaths`: where namespaces and layout mount.
* `Access.earlySession`, `Access.lateSession`: the steps after the layout, before and after the
  devices, with `Access.sessionBases` as their base directories.
-/

namespace Cloister
set_option autoImplicit false

/-- The paths of the settings that are shown, or covered, wherever they are. -/
def Settings.openPaths (s : Settings) : List String :=
  s.readAccess ++ [s.home, s.runtimeDir, s.xauthority]

/-! ## Steps that put nothing over a path -/

/-- A step puts nothing at a path or at a directory above it. -/
def Step.Spares (path : String) (s : Step) : Prop :=
  ∀ target, s.target? = some target → target ≠ "" → ¬ Path.Covers target path

theorem Step.spares_of_target {path target : String} {s : Step} (ht : s.target? = some target)
    (h : target ≠ "" → ¬ Path.Covers target path) : s.Spares path := by
  intro t ht'
  rw [ht, Option.some.injEq] at ht'
  exact ht' ▸ h

theorem Step.Spares.not_mountsOver {a : Access} {host : Host} {path : String} {s : Step}
    {d : Directive} (hs : s.Spares path) (hr : s.Regular a) (hd : d ∈ s.directives host) :
    ¬ d.MountsOver path := by
  have htarget := target_of_mem_directives hd
  have hne := hr.target_ne hd
  rintro ⟨-, target, ht, hcov⟩
  have ht' : d.target = some target := ht
  refine hs target (htarget ▸ ht') ?_ hcov
  rintro rfl
  exact hne ht'

theorem seenAt_flatMap_eq_none {a : Access} {host : Host} {path : String} {steps : List Step}
    (hr : ∀ s ∈ steps, s.Regular a) (hs : ∀ s ∈ steps, s.Spares path) :
    seenAt (steps.flatMap (Step.directives host)) path = none := by
  rw [seenAt_eq_none_iff]
  intro d hd
  obtain ⟨s, hmem, hd⟩ := List.mem_flatMap.mp hd
  exact (hs s hmem).not_mountsOver (hr s hmem) hd

/-! ## Steps inside base directories -/

/-- A step mounts inside one of the base directories, if anywhere. -/
def Step.Within (bases : List String) (s : Step) : Prop :=
  ∀ target, s.target? = some target → target ≠ "" →
    ∃ base ∈ bases, base ≠ "" ∧ Path.Covers base target

namespace Step

variable {bases : List String} {s : Step}

theorem Within.spares {path : String} (h : s.Within bases)
    (hb : ∀ base ∈ bases, base ≠ "" → ¬ Path.Covers base path) : s.Spares path := by
  intro target ht hne hcov
  obtain ⟨base, hbase, hbne, hbt⟩ := h target ht hne
  exact hb base hbase hbne (hbt.trans hcov)

theorem within_of_target_eq_none (h : s.target? = none) : s.Within bases := by
  intro target ht
  rw [h] at ht
  cases ht

theorem within_of_mem {target : String} (h : s.target? = some target) (hm : target ∈ bases) :
    s.Within bases := by
  intro t ht hne
  rw [h, Option.some.injEq] at ht
  subst ht
  exact ⟨target, hm, hne, .refl target⟩

theorem within_of_covers {base target : String} (h : s.target? = some target) (hm : base ∈ bases)
    (hb : base ≠ "") (hc : Path.Covers base target) : s.Within bases := by
  intro t ht _
  rw [h, Option.some.injEq] at ht
  subst ht
  exact ⟨base, hm, hb, hc⟩

@[simp] theorem target?_read (path : String) : (read path).target? = some path := rfl

end Step

namespace Access

variable (a : Access)

@[simp] theorem target?_write (path : String) : (a.write path).target? = some path := by
  unfold write Step.write
  split <;> rfl

@[simp] theorem target?_hideOrRead (c : Capability) (path : String) :
    (a.hideOrRead c path).target? = some path := by
  unfold hideOrRead
  split <;> rfl

@[simp] theorem target?_temporary : a.temporary.target? = some "/tmp" := by
  unfold temporary
  split
  · rfl
  · split <;> rfl

@[simp] theorem target?_homeBase : a.homeBase.target? = some a.settings.home := by
  unfold homeBase
  split <;> split <;> rfl

variable {a}

/-- Entries are placed inside their base. -/
theorem within_entry {bases : List String} {base name : String} {place : String → Step}
    (hp : ∀ path, (place path).target? = some path) (hm : base ∈ bases) (hb : base ≠ "") :
    (entry base name place).Within bases := by
  refine entry_cases (fun path hpath => ?_) (Step.within_of_target_eq_none rfl)
  exact Step.within_of_covers (hp path) hm hb (Path.covers_of_beneath hb hpath)

/-! ## The layout of the system -/

theorem only_sublist (b : Bool) (steps : List Step) : (only b steps).Sublist steps := by
  cases b
  · exact List.nil_sublist _
  · exact List.Sublist.refl _

/-- Where namespaces and layout mount, in order. -/
def layoutPaths : List String :=
  ["/", "/proc", preloadFile] ++ programDirectories.map Prod.snd ++ libraryDirectories ++
    rootLinks.map Prod.snd ++ ["/etc", "/tmp", "/sys", "/run", resolverDir, "/var"]

theorem targets_namespaces (a : Access) :
    (a.namespaces.filterMap Step.target?).Sublist ["/", "/proc"] := by
  have h : a.namespaces.Sublist
      [.emit (.bindDevice "/" true), .emit (.dropCapability "ALL"), .emit (.unshare "user"),
        .emit (.unshare "cgroup"), .emit (.unshare "uts"), .emit (.setHostname hostname),
        .emit (.unshare "net"), .emit .newSession, .emit (.mountProc "/proc"),
        .emit (.unshare "pid")] :=
    ((((((only_sublist _ _).append (List.Sublist.refl _)).append (only_sublist _ _)).append
      (only_sublist _ _)).append (only_sublist _ _)).append (List.Sublist.refl _)).append
        (only_sublist _ _)
  exact h.filterMap Step.target?

theorem targets_services (a : Access) :
    (a.services.filterMap Step.target?).Sublist ["/run", resolverDir] := by
  unfold services
  split
  · exact ((only_sublist _ _).filterMap Step.target?).cons_cons "/run"
  · exact (List.nil_sublist _).cons_cons "/run"

/-- Namespaces and layout mount at their paths in order, and nowhere else. -/
theorem targets_layout (a : Access) :
    ((a.namespaces ++ a.systemLayout).filterMap Step.target?).Sublist layoutPaths := by
  have hpreload : ((only (a.tokens.restricts .preventPreload)
      [.emit (.maskFile preloadFile)]).filterMap Step.target?).Sublist [preloadFile] :=
    (only_sublist _ _).filterMap Step.target?
  have hprograms : (programDirectories.map fun e => a.hideOrRead e.1 e.2).filterMap
      Step.target? = programDirectories.map Prod.snd := by
    simp [programDirectories]
  have hetc : [a.hideOrRead .hideEtc "/etc", a.temporary,
      a.hideOrRead .hideSys "/sys"].filterMap Step.target? = ["/etc", "/tmp", "/sys"] := by
    simp
  have hvar : [a.hideOrRead .hideVar "/var"].filterMap Step.target? = ["/var"] := by
    simp
  simp only [systemLayout_eq, List.filterMap_append, hprograms, hetc, hvar]
  exact a.targets_namespaces.append ((((((hpreload.append (List.Sublist.refl _)).append
    (List.Sublist.refl _)).append (List.Sublist.refl _)).append (List.Sublist.refl _)).append
      a.targets_services).append (List.Sublist.refl _))

/-- Steps of the layout, one after another, mount at paths that follow each other. -/
theorem targets_sublist {front back : List Step} {s s' : Step} {path path' : String}
    (h : a.namespaces ++ a.systemLayout = front ++ s :: back) (hs : s.target? = some path)
    (hs' : s' ∈ back) (ht : s'.target? = some path') : [path, path'].Sublist layoutPaths := by
  have hsub : [path, path'].Sublist ((front ++ s :: back).filterMap Step.target?) := by
    have hmem : path' ∈ back.filterMap Step.target? := List.mem_filterMap.mpr ⟨s', hs', ht⟩
    rw [List.filterMap_append, List.filterMap_cons_some hs]
    exact ((List.singleton_sublist.mpr hmem).cons_cons path).trans (List.sublist_append_right _ _)
  rw [← h] at hsub
  exact hsub.trans a.targets_layout

/-! ## Later steps -/

/-- The directories that the steps about the session and the settings mount in, devices apart. -/
def sessionBases (a : Access) : List String :=
  a.settings.openPaths ++ [x11SocketDir, systemBus]

/-- The steps that look for sockets, and those for paths that may be read. -/
def earlySession (a : Access) : List Step :=
  a.settings.readAccess.map Step.read ++ a.runtimeSockets

/-- The steps after the devices. -/
def lateSession (a : Access) : List Step := a.homeDirectory ++ a.displays ++ a.messageBus

theorem steps_eq (a : Access) :
    a.steps = a.namespaces ++ a.systemLayout ++ (a.earlySession ++ a.devices ++ a.lateSession) := by
  simp only [steps, systemDirectories, earlySession, lateSession, List.append_assoc]

theorem runtimeDir_mem : a.settings.runtimeDir ∈ a.sessionBases := by
  simp [sessionBases, Settings.openPaths]

theorem home_mem : a.settings.home ∈ a.sessionBases := by
  simp [sessionBases, Settings.openPaths]

theorem within_of_mem_runtimeSockets {s : Step} (hs : s ∈ a.runtimeSockets) :
    s.Within a.sessionBases := by
  obtain ⟨hr, rfl | ⟨e, he, -, rfl⟩ | ⟨-, rfl⟩ | ⟨name, -, rfl⟩⟩ := mem_runtimeSockets.mp hs
  · exact Step.within_of_mem (a.target?_hideOrRead _ _) runtimeDir_mem
  · have hrel : Path.isAbsolute e.2 = false :=
      (by decide : ∀ e ∈ grantedSockets, Path.isAbsolute e.2 = false) e he
    exact Step.within_of_covers (Step.target?_read _) runtimeDir_mem hr (Path.covers_join hr hrel)
  · exact Step.within_of_covers (a.target?_write _) runtimeDir_mem hr
      (Path.covers_join hr (by decide))
  · exact within_entry Step.target?_read runtimeDir_mem hr

theorem within_of_mem_earlySession {s : Step} (hs : s ∈ a.earlySession) :
    s.Within a.sessionBases := by
  rcases List.mem_append.mp hs with hs | hs
  · obtain ⟨path, hp, rfl⟩ := mem_map_iff.mp hs
    exact Step.within_of_mem (Step.target?_read path)
      (by simp [sessionBases, Settings.openPaths, hp])
  · exact within_of_mem_runtimeSockets hs

theorem within_of_mem_devices {s : Step} (hs : s ∈ a.devices) : s.Within [deviceDir] := by
  have hdev : deviceDir ∈ [deviceDir] := List.mem_singleton_self _
  rcases mem_devices.mp hs with rfl | ⟨-, rfl⟩ | hs
  · split <;> exact Step.within_of_mem rfl hdev
  · exact Step.within_of_covers rfl hdev (by decide) (by decide : Path.Covers deviceDir sharedMemory)
  · obtain ⟨name, -, rfl | ⟨path, hp, rfl⟩⟩ := mem_deviceGrants hs
    · exact Step.within_of_target_eq_none rfl
    · exact Step.within_of_covers rfl hdev (by decide) (Path.covers_of_beneath (by decide) hp)

theorem within_of_mem_homeDirectory {bases : List String} (hm : a.settings.home ∈ bases) {s : Step}
    (hs : s ∈ a.homeDirectory) : s.Within bases := by
  obtain ⟨hh, rfl | ⟨-, rfl⟩ | ⟨name, -, rfl⟩⟩ := mem_homeDirectory.mp hs
  · exact Step.within_of_mem a.target?_homeBase hm
  · exact Step.within_of_covers (a.target?_write _) hm hh (Path.covers_join hh (by decide))
  · exact within_entry a.target?_write hm hh

theorem within_of_mem_x11 {s : Step} (hs : s ∈ a.x11) : s.Within a.sessionBases := by
  have hkey : a.settings.xauthority ∈ a.sessionBases := by
    simp [sessionBases, Settings.openPaths]
  have hsockets : x11SocketDir ∈ a.sessionBases := by
    simp [sessionBases]
  rw [mem_x11] at hs
  split at hs
  · rcases hs with ⟨-, rfl⟩ | rfl
    · exact Step.within_of_mem (Step.target?_read _) hkey
    · exact Step.within_of_mem (Step.target?_read _) hsockets
  · rcases hs with rfl | rfl | ⟨-, rfl⟩ | rfl
    · exact Step.within_of_target_eq_none rfl
    · exact Step.within_of_target_eq_none rfl
    · exact Step.within_of_mem rfl hkey
    · exact Step.within_of_mem rfl hsockets

theorem within_of_mem_wayland {s : Step} (hs : s ∈ a.wayland) : s.Within a.sessionBases := by
  have hcov : a.settings.runtimeDir ≠ "" →
      Path.Covers a.settings.runtimeDir (a.runtimePath waylandSocket) := by
    intro hr
    exact Path.covers_join hr (by decide)
  rw [mem_wayland] at hs
  split at hs
  · obtain ⟨hr, rfl⟩ := hs
    exact Step.within_of_covers (Step.target?_read _) runtimeDir_mem hr (hcov hr)
  · rcases hs with rfl | ⟨hr, rfl⟩
    · exact Step.within_of_target_eq_none rfl
    · exact Step.within_of_covers rfl runtimeDir_mem hr (hcov hr)

theorem within_of_mem_messageBus {s : Step} (hs : s ∈ a.messageBus) :
    s.Within a.sessionBases := by
  obtain ⟨-, rfl | ⟨hr, rfl⟩⟩ := mem_messageBus.mp hs
  · exact Step.within_of_mem (Step.target?_read _) (by simp [sessionBases])
  · exact Step.within_of_covers (Step.target?_read _) runtimeDir_mem hr
      (Path.covers_join hr (by decide))

theorem within_of_mem_lateSession {s : Step} (hs : s ∈ a.lateSession) :
    s.Within a.sessionBases := by
  simp only [lateSession, displays, List.mem_append] at hs
  rcases hs with (hs | hs | hs) | hs
  · exact within_of_mem_homeDirectory home_mem hs
  · exact within_of_mem_x11 hs
  · exact within_of_mem_wayland hs
  · exact within_of_mem_messageBus hs

end Access
end Cloister
