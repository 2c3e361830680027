import Cloister.Proofs.Access.Absence
import Cloister.Proofs.Access.Agreement
import Cloister.Proofs.Distinct
import Cloister.Proofs.Policy.Naming

/-! # Devices

Each device is shown once, however it is asked for: at the place of the first name that leads there,
after the device directory and after shared memory is cleared.

* `Access.directives_deviceGrants`: the directives of a list of names.
* `Settings.devicePlaces`: the places of the devices that settings ask for.
* `Step.Beside`: the steps that have nothing to do with devices.
* `compile_devices`: what a compiled list shows of the devices, and in which order.
-/

namespace Cloister
set_option autoImplicit false

/-- A directive that shows devices of the host, or the device directory. -/
def Directive.isDevice (d : Directive) : Bool := d.kind == .bindDevice || d.kind == .minimalDev

/-- The places of the devices that settings ask for, each where it comes first: those of the grants,
then those of the entries. An entry that leads out of the device directory has none. -/
def Settings.devicePlaces (s : Settings) : List String :=
  let granted := [(Capability.allowGpu, "dri"), (.allowUsb, "usb"), (.allowShm, "shm")].filter
    fun e => s.tokens.allows e.1
  ((granted.map Prod.snd ++ s.deviceAccess).filterMap (Path.beneath "/dev")).eraseDups

namespace Access

variable {a : Access} {host : Host}

/-! ## The grants of the devices -/

theorem directives_grant_device {p : String} (hp : p ≠ "") :
    (Step.grant (.bindDevice p false)).directives host =
      ([p].filter host).map (.bindDevice · false) := by
  have hadmitted : (Directive.bindDevice p false).admitted host = (p != "" && host p) := rfl
  rw [Step.directives, hadmitted]
  cases hhost : host p <;> simp [hp, hhost]

/-- Each place that was not met before is shown where a name leads there first, if the host has
it. -/
theorem directives_deviceGrants (met names : List String) :
    (deviceGrants met names).flatMap (Step.directives host) =
      ((((names.filterMap (Path.beneath deviceDir)).filter (· ∉ met)).eraseDups).filter host).map
        (.bindDevice · false) := by
  fun_induction deviceGrants met names with
  | case1 => rfl
  | case2 met name names hnone ih =>
    rw [List.flatMap_cons, ih, List.filterMap_cons_none hnone]
    rfl
  | case3 met name names path hpath hmet ih =>
    rw [ih, List.filterMap_cons_some hpath, List.filter_cons_of_neg (by simpa using hmet)]
  | case4 met name names path hpath hmet ih =>
    have hlater (qs : List String) :
        (qs.filter (· ∉ met)).filter (fun q => !q == path) = qs.filter (· ∉ path :: met) := by
      rw [List.filter_filter]
      refine List.filter_congr fun q _ => ?_
      simp [Bool.beq_eq_decide_eq]
    rw [List.flatMap_cons, ih, List.filterMap_cons_some hpath,
      List.filter_cons_of_pos (by simpa using hmet), List.eraseDups_cons, hlater,
      directives_grant_device (Path.ne_empty_of_beneath hpath), ← List.map_append,
      ← List.filter_append, List.singleton_append]

theorem deviceNames_ofSettings (s : Settings) :
    (ofSettings s).deviceNames =
      ([(Capability.allowGpu, "dri"), (.allowUsb, "usb"), (.allowShm, "shm")].filter
        fun e => s.tokens.allows e.1).map Prod.snd ++ s.deviceAccess := by
  rw [deviceNames, tokens_ofSettings, settings_ofSettings]
  cases hgpu : s.tokens.allows .allowGpu <;> cases husb : s.tokens.allows .allowUsb <;>
    cases hshm : s.tokens.allows .allowShm <;> simp [hgpu, husb, hshm]

/-- The device directory, then shared memory cleared unless it is granted, then the devices. -/
theorem directives_devices (s : Settings) :
    (ofSettings s).devices.flatMap (Step.directives host) =
      (if s.tokens.restricts .hideDevices then .minimalDev "/dev" else .bindDevice "/dev" true) ::
        ((if s.tokens.allows .allowShm then [] else [.clear (some "/dev/shm")]) ++
          (s.devicePlaces.filter host).map (.bindDevice · false)) := by
  have hall (ps : List String) : ps.filter (· ∉ ([] : List String)) = ps := by simp
  have hdirectory : (if s.tokens.restricts .hideDevices then Step.emit (.minimalDev deviceDir)
        else .emit (.bindDevice deviceDir true)).directives host =
      [if s.tokens.restricts .hideDevices then .minimalDev "/dev" else .bindDevice "/dev" true] := by
    cases s.tokens.restricts .hideDevices <;> rfl
  have hclear : (only (!s.tokens.allows .allowShm) [.clear sharedMemory]).flatMap
        (Step.directives host) =
      if s.tokens.allows .allowShm then [] else [.clear (some "/dev/shm")] := by
    cases s.tokens.allows .allowShm <;> rfl
  rw [devices, tokens_ofSettings, List.flatMap_append, List.flatMap_cons, hdirectory, hclear,
    directives_deviceGrants, hall, deviceNames_ofSettings, Settings.devicePlaces, deviceDir,
    List.append_assoc, List.singleton_append]

theorem filter_isDevice_devices (s : Settings) (host : Host) :
    ((ofSettings s).devices.flatMap (Step.directives host)).filter Directive.isDevice =
      (if s.tokens.restricts .hideDevices then .minimalDev "/dev" else .bindDevice "/dev" true) ::
        (s.devicePlaces.filter host).map (.bindDevice · false) := by
  have hdirectory : Directive.isDevice (if s.tokens.restricts .hideDevices then
      .minimalDev "/dev" else .bindDevice "/dev" true) = true := by
    split <;> rfl
  have hclear : (if s.tokens.allows .allowShm then [] else
      [Directive.clear (some "/dev/shm")]).filter Directive.isDevice = [] := by
    split <;> rfl
  have hgrants : ∀ d ∈ (s.devicePlaces.filter host).map (Directive.bindDevice · false),
      d.isDevice = true := by
    intro d hd
    obtain ⟨p, -, rfl⟩ := List.mem_map.mp hd
    rfl
  rw [directives_devices, List.filter_cons_of_pos hdirectory, List.filter_append, hclear,
    List.nil_append, List.filter_eq_self.mpr hgrants]

end Access

/-! ## The other rules -/

/-- A step that has nothing to do with devices, nor with shared memory unless that is the given
directory. -/
inductive Step.Beside (dir : String) : Step → Prop
  | emit {d : Directive} : d.isDevice = false → d.kind ≠ .clear → Beside dir (.emit d)
  | empty {path : String} : (path = "/dev/shm" → dir = "/dev/shm") →
      Beside dir (.emit (.clear (some path)))
  | clear {path : String} : (path = "/dev/shm" → dir = "/dev/shm") → Beside dir (.clear path)
  | read (path : String) : Beside dir (.read path)
  | share (path : String) : Beside dir (.grant (.bindWritable path))

/-- The same, or the refusal of an entry. -/
def Step.Aside (dir : String) (s : Step) : Prop :=
  s.Beside dir ∨ ∃ base name, s = .refuse base name

namespace Step

variable {dir : String} {s : Step} {host : Host} {d : Directive}

theorem Aside.isDevice_eq_false (h : s.Aside dir) (hd : d ∈ s.directives host) :
    d.isDevice = false := by
  rcases h with h | ⟨base, name, rfl⟩
  · cases h with
    | emit hdevice _ =>
      rw [List.mem_singleton.mp hd]
      exact hdevice
    | empty _ | clear _ =>
      rw [List.mem_singleton.mp hd]
      rfl
    | read _ | share _ =>
      rw [eq_of_mem_grant hd]
      rfl
  · cases hd

theorem Aside.eq_sharedMemory (h : s.Aside dir)
    (hd : .clear (some "/dev/shm") ∈ s.directives host) : dir = "/dev/shm" := by
  rcases h with h | ⟨base, name, rfl⟩
  · cases h with
    | emit _ hkind => exact absurd (congrArg Directive.kind (List.mem_singleton.mp hd)).symm hkind
    | empty hpath | clear hpath =>
      have hclear := congrArg Directive.target (List.mem_singleton.mp hd)
      exact hpath (Option.some.inj hclear).symm
    | read _ | share _ => cases eq_of_mem_grant hd
  · cases hd

end Step

namespace Access

variable {a : Access} {dir : String} {s : Step}

theorem beside_write (path : String) : (a.write path).Beside dir := by
  unfold write Step.write
  split
  · exact Step.Beside.read path
  · exact Step.Beside.share path

theorem beside_hideOrRead (c : Capability) {path : String}
    (h : path = "/dev/shm" → dir = "/dev/shm") : (a.hideOrRead c path).Beside dir := by
  unfold hideOrRead
  split
  · exact Step.Beside.clear h
  · exact Step.Beside.read path

theorem aside_entry {base name : String} {place : String → Step}
    (h : ∀ path, (place path).Beside dir) : (entry base name place).Aside dir :=
  entry_cases (fun path _ => .inl (h path)) (.inr ⟨base, name, rfl⟩)

theorem beside_of_mem_namespaces (hp : a.context.permissive = false) (hs : s ∈ a.namespaces) :
    s.Beside dir := by
  rcases mem_namespaces.mp hs with (⟨h, -⟩ | rfl | rfl | rfl) | ⟨-, rfl | rfl⟩ | ⟨-, rfl⟩ |
    ⟨-, rfl⟩ | rfl | ⟨-, rfl⟩
  case inl.inl => exact absurd (hp ▸ h) Bool.false_ne_true
  all_goals exact Step.Beside.emit rfl nofun

theorem beside_temporary : a.temporary.Beside dir := by
  unfold temporary
  split
  · exact Step.Beside.clear (absurd · (by decide))
  · split
    · exact Step.Beside.empty (absurd · (by decide))
    · exact Step.Beside.share _

theorem beside_of_mem_services (hs : s ∈ a.services) : s.Beside dir := by
  rw [mem_services] at hs
  split at hs
  · rcases hs with rfl | ⟨-, rfl⟩
    · exact Step.Beside.clear (absurd · (by decide))
    · exact Step.Beside.read _
  · rw [hs]
    exact Step.Beside.read _

theorem beside_of_mem_systemLayout (hs : s ∈ a.systemLayout) : s.Beside dir := by
  rcases mem_systemLayout.mp hs with ⟨-, rfl⟩ | ⟨e, he, rfl⟩ | ⟨path, -, rfl⟩ | ⟨e, -, rfl⟩ |
    rfl | rfl | rfl | hs | rfl
  · exact Step.Beside.emit rfl nofun
  · have hne : e.2 ≠ "/dev/shm" := (by decide : ∀ e ∈ programDirectories, e.2 ≠ "/dev/shm") e he
    exact beside_hideOrRead e.1 (absurd · hne)
  · exact Step.Beside.read path
  · exact Step.Beside.emit rfl nofun
  · exact beside_hideOrRead _ (absurd · (by decide))
  · exact beside_temporary
  · exact beside_hideOrRead _ (absurd · (by decide))
  · exact beside_of_mem_services hs
  · exact beside_hideOrRead _ (absurd · (by decide))

theorem beside_of_mem_systemDirectories (hs : s ∈ a.systemDirectories) : s.Beside dir := by
  rcases List.mem_append.mp hs with hs | hs
  · exact beside_of_mem_systemLayout hs
  · obtain ⟨path, -, rfl⟩ := mem_map_iff.mp hs
    exact .read path

theorem aside_of_mem_runtimeSockets (hs : s ∈ a.runtimeSockets) :
    s.Aside a.settings.runtimeDir := by
  obtain ⟨-, rfl | ⟨e, -, -, rfl⟩ | ⟨-, rfl⟩ | ⟨name, -, rfl⟩⟩ := mem_runtimeSockets.mp hs
  · exact .inl (beside_hideOrRead _ id)
  · exact .inl (.read _)
  · exact .inl (beside_write _)
  · exact aside_entry .read

theorem beside_homeBase : a.homeBase.Beside a.settings.home := by
  unfold homeBase
  split
  · split
    · exact Step.Beside.read _
    · exact Step.Beside.empty id
  · split
    · exact Step.Beside.read _
    · exact Step.Beside.share _

theorem beside_of_mem_displays (hs : s ∈ a.displays) : s.Beside dir := by
  rcases List.mem_append.mp hs with hs | hs
  · rw [mem_x11] at hs
    split at hs
    · rcases hs with ⟨-, rfl⟩ | rfl <;> exact Step.Beside.read _
    · rcases hs with rfl | rfl | ⟨-, rfl⟩ | rfl
      · exact Step.Beside.emit rfl nofun
      · exact Step.Beside.emit rfl nofun
      · exact Step.Beside.emit rfl nofun
      · exact Step.Beside.clear (absurd · (by decide))
  · rw [mem_wayland] at hs
    split at hs
    · rw [hs.2]
      exact Step.Beside.read _
    · rcases hs with rfl | ⟨-, rfl⟩ <;> exact Step.Beside.emit rfl nofun

theorem aside_of_mem_homeDirectory (hs : s ∈ a.homeDirectory) : s.Aside a.settings.home := by
  obtain ⟨-, rfl | ⟨-, rfl⟩ | ⟨name, -, rfl⟩⟩ := mem_homeDirectory.mp hs
  · exact .inl beside_homeBase
  · exact .inl (beside_write _)
  · exact aside_entry beside_write

theorem beside_of_mem_messageBus (hs : s ∈ a.messageBus) : s.Beside dir := by
  obtain ⟨-, rfl | ⟨-, rfl⟩⟩ := mem_messageBus.mp hs <;> exact .read _

/-! ## The whole list -/

/-- The rules before those of the devices. -/
def beforeDevices (a : Access) : List Step :=
  a.namespaces ++ a.systemDirectories ++ a.runtimeSockets

/-- The rules after those of the devices, and the program. -/
def afterDevices (a : Access) (path : String) : List Step :=
  a.homeDirectory ++ a.displays ++ a.messageBus ++ [.read path]

theorem aside_of_mem_beforeDevices (hp : a.context.permissive = false) :
    ∀ s ∈ a.beforeDevices, s.Aside a.settings.runtimeDir := by
  intro s hs
  simp only [beforeDevices, List.mem_append] at hs
  rcases hs with (hs | hs) | hs
  · exact .inl (beside_of_mem_namespaces hp hs)
  · exact .inl (beside_of_mem_systemDirectories hs)
  · exact aside_of_mem_runtimeSockets hs

theorem aside_of_mem_afterDevices {path : String} :
    ∀ s ∈ a.afterDevices path, s.Aside a.settings.home := by
  intro s hs
  simp only [afterDevices, List.mem_append, List.mem_singleton] at hs
  rcases hs with ((hs | hs) | hs) | rfl
  · exact aside_of_mem_homeDirectory hs
  · exact .inl (beside_of_mem_displays hs)
  · exact .inl (beside_of_mem_messageBus hs)
  · exact .inl (.read path)

theorem directives_compile_around (a : Access) (host : Host) (path : String) :
    (a.compile host path).directives =
      a.beforeDevices.flatMap (Step.directives host) ++ a.devices.flatMap (Step.directives host) ++
        ((a.afterDevices path).flatMap (Step.directives host) ++ a.closing) := by
  rw [directives_compile_stepsWith, stepsWith, steps, beforeDevices, afterDevices]
  simp only [List.flatMap_append, List.append_assoc]

section Aside
variable {steps : List Step} {host : Host} (h : ∀ s ∈ steps, s.Aside dir)
include h

theorem filter_isDevice_of_aside :
    (steps.flatMap (Step.directives host)).filter Directive.isDevice = [] := by
  rw [List.filter_eq_nil_iff]
  intro d hd
  obtain ⟨s, hs, hd⟩ := List.mem_flatMap.mp hd
  rw [(h s hs).isDevice_eq_false hd]
  exact Bool.false_ne_true

theorem eq_sharedMemory_of_clear
    (hd : .clear (some "/dev/shm") ∈ steps.flatMap (Step.directives host)) : dir = "/dev/shm" := by
  obtain ⟨s, hs, hd⟩ := List.mem_flatMap.mp hd
  exact (h s hs).eq_sharedMemory hd

end Aside

theorem filter_isDevice_closing (a : Access) : a.closing.filter Directive.isDevice = [] := by
  rw [List.filter_eq_nil_iff]
  intro d hd
  rcases a.kind_of_mem_closing hd with h | h <;> rw [Directive.isDevice, h] <;> decide

theorem clear_notMem_closing (a : Access) (path : Option String) : .clear path ∉ a.closing := by
  intro hd
  rcases a.kind_of_mem_closing hd with h | h <;> cases h

theorem devices_closed (a : Access) : a.closed.devices = a.devices := rfl

theorem filter_isDevice_root (b : Bool) :
    (if b then [hostRoot] else []).filter Directive.isDevice = if b then [hostRoot] else [] := by
  cases b <;> rfl

theorem clear_notMem_root (b : Bool) (path : Option String) :
    .clear path ∉ if b then [hostRoot] else [] := by
  cases b <;> simp [hostRoot, Directive.clear, Directive.bindDevice]

/-- What comes before and after the devices has nothing to do with them, the root of the host
apart. -/
theorem exists_around_devices (a : Access) (host : Host) (path : String) :
    ∃ before after : List Directive,
      (a.compile host path).directives =
        before ++ a.devices.flatMap (Step.directives host) ++ after ∧
      before.filter Directive.isDevice = (if a.context.permissive then [hostRoot] else []) ∧
      after.filter Directive.isDevice = [] ∧
      (.clear (some "/dev/shm") ∈ before → a.settings.runtimeDir = "/dev/shm") ∧
      (.clear (some "/dev/shm") ∈ after → a.settings.home = "/dev/shm") := by
  have hbefore : ∀ s ∈ a.closed.beforeDevices, s.Aside a.settings.runtimeDir :=
    aside_of_mem_beforeDevices (permissive_closed a)
  have hafter : ∀ s ∈ a.closed.afterDevices path, s.Aside a.settings.home :=
    aside_of_mem_afterDevices
  refine ⟨(if a.context.permissive then [hostRoot] else []) ++
      a.closed.beforeDevices.flatMap (Step.directives host),
    (a.closed.afterDevices path).flatMap (Step.directives host) ++ a.closed.closing,
    ?_, ?_, ?_, fun hd => ?_, fun hd => ?_⟩
  · rw [directives_compile_closed, directives_compile_around, devices_closed]
    simp only [List.append_assoc]
  · rw [List.filter_append, filter_isDevice_root, filter_isDevice_of_aside hbefore,
      List.append_nil]
  · rw [List.filter_append, filter_isDevice_of_aside hafter, filter_isDevice_closing,
      List.nil_append]
  · exact eq_sharedMemory_of_clear hbefore
      ((List.mem_append.mp hd).resolve_left (clear_notMem_root _ _))
  · exact eq_sharedMemory_of_clear hafter
      ((List.mem_append.mp hd).resolve_right (clear_notMem_closing _ _))

end Access

/-- The places of devices are distinct. -/
theorem Settings.nodup_devicePlaces (s : Settings) : s.devicePlaces.Nodup := by
  rw [devicePlaces, ← Distinct.toList_ofList]
  exact Distinct.nodup _

/-- The place of a device is strictly beneath the device directory. -/
theorem Settings.exists_inner_of_mem_devicePlaces {s : Settings} {p : String}
    (hp : p ∈ s.devicePlaces) : ∃ rel, Path.Inner rel ∧ p = "/dev/" ++ rel := by
  rw [devicePlaces, List.mem_eraseDups] at hp
  obtain ⟨name, -, hname⟩ := List.mem_filterMap.mp hp
  obtain ⟨rel, hrel, -, rfl⟩ := Path.exists_inner_of_beneath hname
  refine ⟨rel, hrel, ?_⟩
  have habs : rel.toList.head? ≠ some Path.slash := by
    simpa [Path.isAbsolute] using hrel.isAbsolute_eq_false
  rw [← String.toList_inj, Path.toList_join, Path.joinChars, if_neg habs, if_neg (by decide),
    String.toList_append]
  rfl

/-- Of the devices a list shows the root of the host in permissive mode, then the device directory
or a minimal one, then each place of a device once, as far as the host has it. Shared memory is
cleared between directory and devices unless it is granted; all other clears of it are those of the
runtime directory before, and of the home directory after. -/
theorem compile_devices (s : Settings) (host : Host) (path : String) :
    let directives := (compile s host path).directives
    let root : List Directive :=
      if Capability.noSandbox.name ∈ s.tokens then [.bindDevice "/" true] else []
    let directory : Directive :=
      if s.tokens.restricts .hideDevices then .minimalDev "/dev" else .bindDevice "/dev" true
    let shared : List Directive :=
      if s.tokens.allows .allowShm then [] else [.clear (some "/dev/shm")]
    let devices : List Directive := (s.devicePlaces.filter host).map (.bindDevice · false)
    directives.filter Directive.isDevice = root ++ directory :: devices ∧
      (∃ before after : List Directive,
        directives = before ++ directory :: (shared ++ devices) ++ after ∧
        (s.runtimeDir ≠ "/dev/shm" → .clear (some "/dev/shm") ∉ before) ∧
        (s.home ≠ "/dev/shm" → .clear (some "/dev/shm") ∉ after)) ∧
      s.devicePlaces.Nodup ∧
      ∀ p ∈ s.devicePlaces, ∃ rel, Path.Inner rel ∧ p = "/dev/" ++ rel := by
  intro directives root directory shared devices
  obtain ⟨before, after, hall, hbefore, hafter, hruntime, hhome⟩ :=
    (Access.ofSettings s).exists_around_devices host path
  rw [Access.settings_ofSettings] at hruntime hhome
  have hroot : (if (Access.ofSettings s).context.permissive then [Access.hostRoot] else []) =
      root := by
    rw [Access.permissive_ofSettings]
    exact if_congr TokenSet.permissive_eq_true_iff rfl rfl
  refine ⟨?_, ⟨before, after, ?_, mt hruntime, mt hhome⟩, s.nodup_devicePlaces,
    fun p hp => Settings.exists_inner_of_mem_devicePlaces hp⟩
  · calc directives.filter Directive.isDevice
      _ = before.filter Directive.isDevice ++
            ((Access.ofSettings s).devices.flatMap (Step.directives host)).filter
              Directive.isDevice ++ after.filter Directive.isDevice := by
          rw [← List.filter_append, ← List.filter_append]
          exact congrArg _ hall
      _ = root ++ directory :: devices := by
          rw [hbefore, hroot, Access.filter_isDevice_devices, hafter, List.append_nil]
  · rw [Access.directives_devices] at hall
    exact hall

/-- One device is asked for by a grant and in three spellings, one is not on the host, and one entry
leads out of the device directory. -/
theorem compile_devices_spellings :
    let s : Settings :=
      { applicationParams := "allowgpu,nosandbox,hidedevices",
        deviceAccess := ["video0", "/dri/", "./dri", "x/../dri", "..", "snd"],
        home := "/home/user", runtimeDir := "/run/user/1000" }
    let directives := (compile s (fun p => p != "/dev/video0") "/usr/bin/true").directives
    let devices := [Directive.bindDevice "/dev/dri" false, .bindDevice "/dev/snd" false]
    directives.filter Directive.isDevice = .bindDevice "/" true :: .minimalDev "/dev" :: devices ∧
      (∃ before after : List Directive,
        directives =
          before ++ .minimalDev "/dev" :: (.clear (some "/dev/shm") :: devices) ++ after ∧
        .clear (some "/dev/shm") ∉ before ∧ .clear (some "/dev/shm") ∉ after) ∧
      ∃ rel, Path.Inner rel ∧ "/dev/dri" = "/dev/" ++ rel := by
  intro s directives devices
  have hroot : Capability.noSandbox.name ∈ s.tokens := by decide
  have hdirectory : s.tokens.restricts .hideDevices = true := by decide
  have hshared : s.tokens.allows .allowShm = false := by decide
  have hplaces : s.devicePlaces = ["/dev/dri", "/dev/video0", "/dev/snd"] := by decide +kernel
  have hdevices : (s.devicePlaces.filter fun p => p != "/dev/video0").map
      (Directive.bindDevice · false) = devices := by
    rw [hplaces]
    decide
  obtain ⟨hfilter, ⟨before, after, hall, hruntime, hhome⟩, -, hinner⟩ :=
    compile_devices s (fun p => p != "/dev/video0") "/usr/bin/true"
  rw [hdevices, hdirectory] at hfilter hall
  rw [if_pos hroot] at hfilter
  rw [hshared] at hall
  exact ⟨hfilter, ⟨before, after, hall, hruntime (by decide), hhome (by decide)⟩,
    hinner "/dev/dri" (by rw [hplaces]; decide)⟩

end Cloister
