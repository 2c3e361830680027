import Cloister.Proofs.Access.Top

/-! # What a denial keeps out

A denial takes back its own grant and nothing else. A denied socket or device is out of sight where
the directory that it lies in is hidden, unless a later rule shows a directory above it again. Where
that directory is shown, the resource is shown with it.

* `Access.resources`: what may be granted beneath a directory that a restriction hides.
* `Settings.chosenPaths`, `Access.shownLater`: what else is shown from there on.
* `Access.Uncovered`: none of it covers a place.
* `compile_denies`: a denied resource is not seen in a directory that is hidden.
-/

namespace Cloister
set_option autoImplicit false

/-- The paths that settings show of their own accord, entries at their places. -/
def Settings.chosenPaths (s : Settings) : List String :=
  s.readAccess ++ [s.home, s.xauthority] ++
    s.deviceAccess.filterMap (Path.beneath Access.deviceDir) ++
    s.socketAccess.filterMap (Path.beneath s.runtimeDir)

/-- A step shows nothing of the host over a path. -/
def Step.Withholds (host : Host) (place : String) : Step → Prop :=
  Step.Lays host place fun d => d.isGrant = false

namespace Access

/-- The names beneath the runtime directory that a grant shows. -/
def socketGrants : List (Capability × String) :=
  grantedSockets ++ [(.allowDconf, "dconf"), (.allowDbus, sessionBus)]

/-- The names beneath the device directory that are shown only by a grant. -/
def driverGrants : List (Capability × String) := [(.allowGpu, "dri"), (.allowUsb, "usb")]

def namedDevices : List (Capability × String) := driverGrants ++ [(.allowShm, "shm")]

/-- What may be granted beneath a directory that a restriction hides: the grant, the restriction and
the place. -/
def resources (a : Access) : List (Capability × Capability × String) :=
  socketGrants.map (fun e => (e.1, .hideSockets, a.runtimePath e.2)) ++
    driverGrants.map fun e => (e.1, .hideDevices, Path.join deviceDir e.2)

/-- The fixed places of the host that are shown after the runtime directory. -/
def shownLater (a : Access) : List String :=
  (if a.tokens.restricts .hideDevices then [] else [deviceDir]) ++
    (namedDevices.filter fun e => a.tokens.allows e.1).map (fun e => Path.join deviceDir e.2) ++
    (if a.context.display.system.allowsX11 then [x11SocketDir] else []) ++
    (if a.tokens.allows .allowDbus then [systemBus] else [])

/-- Nothing that is shown from the runtime directory on covers a place. -/
structure Uncovered (a : Access) (path place : String) : Prop where
  chosen : ∀ q ∈ path :: a.settings.chosenPaths, q ≠ "" → ¬ Path.Covers q place
  later : ∀ q ∈ a.shownLater, ¬ Path.Covers q place
  wayland : ¬ Path.Covers (a.runtimePath waylandSocket) place
  sockets : ∀ e ∈ socketGrants, a.tokens.allows e.1 = true →
    ¬ Path.Covers (a.runtimePath e.2) place

variable {a : Access} {host : Host} {path place : String}

theorem mem_deviceNames {name : String} :
    name ∈ a.deviceNames ↔
      (∃ e ∈ namedDevices, a.tokens.allows e.1 = true ∧ name = e.2) ∨
        name ∈ a.settings.deviceAccess := by
  simp [deviceNames, namedDevices, driverGrants, or_assoc]

theorem beneath_namedDevices :
    ∀ e ∈ namedDevices, Path.beneath deviceDir e.2 = some (Path.join deviceDir e.2) := by
  decide

theorem mem_shownLater {q : String} :
    q ∈ a.shownLater ↔ (a.tokens.restricts .hideDevices = false ∧ q = deviceDir) ∨
      (∃ e ∈ namedDevices, a.tokens.allows e.1 = true ∧ q = Path.join deviceDir e.2) ∨
      (a.context.display.system.allowsX11 = true ∧ q = x11SocketDir) ∨
      (a.tokens.allows .allowDbus = true ∧ q = systemBus) := by
  have hnamed : q ∈ (namedDevices.filter fun e => a.tokens.allows e.1).map
      (fun e => Path.join deviceDir e.2) ↔
        ∃ e ∈ namedDevices, a.tokens.allows e.1 = true ∧ q = Path.join deviceDir e.2 := by
    simp only [List.mem_map, List.mem_filter, and_assoc, eq_comm]
  simp [shownLater, hnamed]

namespace Uncovered

variable (h : a.Uncovered path place)
include h

/-! ## Each group of rules -/

theorem withholds_runtimeSockets (hr : a.tokens.restricts .hideSockets = true) {s : Step}
    (hs : s ∈ a.runtimeSockets) : s.Withholds host place := by
  obtain ⟨-, rfl | ⟨e, he, hallows, rfl⟩ | ⟨hallows, rfl⟩ | ⟨name, hname, rfl⟩⟩ :=
    mem_runtimeSockets.mp hs
  · rw [hideOrRead, if_pos hr]
    exact Step.lays_clear rfl
  · have hsocket := h.sockets e (List.mem_append_left _ he) hallows
    exact lays_of_not_covers a fun _ => hsocket
  · have hdconf := h.sockets (.allowDconf, "dconf") (by decide) hallows
    exact (Step.spares_of_target (a.target?_write _) fun _ => hdconf).lays (regular_write _)
  · have hplace (q : String) (hq : Path.beneath a.settings.runtimeDir name = some q) :
        q ∈ path :: a.settings.chosenPaths := by
      simp only [Settings.chosenPaths, List.mem_cons, List.mem_append, List.mem_filterMap]
      exact .inr (.inr ⟨name, hname, hq⟩)
    refine entry_cases (fun q hq => ?_) (Step.lays_refuse _ _)
    exact lays_of_not_covers a (h.chosen q (hplace q hq))

theorem withholds_deviceGrants {s : Step} (hs : s ∈ deviceGrants [] a.deviceNames) :
    s.Withholds host place := by
  obtain ⟨name, hname, rfl | ⟨q, hq, rfl⟩⟩ := mem_deviceGrants hs
  · exact Step.lays_refuse _ _
  · have hcov : q ≠ "" → ¬ Path.Covers q place := by
      rcases mem_deviceNames.mp hname with ⟨e, he, hallows, rfl⟩ | hname
      · rw [beneath_namedDevices e he, Option.some.injEq] at hq
        subst hq
        exact fun _ => h.later _ (mem_shownLater.mpr (.inr (.inl ⟨e, he, hallows, rfl⟩)))
      · refine h.chosen q ?_
        simp only [Settings.chosenPaths, List.mem_cons, List.mem_append, List.mem_filterMap]
        exact .inr (.inl (.inr ⟨name, hname, hq⟩))
    exact (Step.spares_of_target rfl hcov).lays (a := a) (.device q)

theorem withholds_devices {s : Step} (hs : s ∈ a.devices) : s.Withholds host place := by
  rcases mem_devices.mp hs with rfl | ⟨-, rfl⟩ | hs
  · split
    · exact Step.lays_emit rfl
    · rename_i hr
      have hcov := h.later deviceDir (mem_shownLater.mpr (.inl ⟨Bool.not_eq_true _ ▸ hr, rfl⟩))
      exact (Step.spares_of_target rfl fun _ => hcov).lays (a := a)
        (structural_bindDevice (by decide))
  · exact Step.lays_clear rfl
  · exact h.withholds_deviceGrants hs

theorem withholds_homeDirectory {s : Step} (hs : s ∈ a.homeDirectory) :
    s.Withholds host place := by
  have hhome := within_of_mem_homeDirectory (List.mem_singleton_self _) hs
  have hspares : s.Spares place := by
    refine hhome.spares fun base hb => ?_
    rw [List.mem_singleton.mp hb]
    exact h.chosen a.settings.home (by simp [Settings.chosenPaths])
  exact hspares.lays (regular_of_mem_homeDirectory hs)

theorem withholds_displays {s : Step} (hs : s ∈ a.displays) : s.Withholds host place := by
  rcases List.mem_append.mp hs with hs | hs
  · rw [mem_x11] at hs
    split at hs
    · rename_i hx
      rcases hs with ⟨-, rfl⟩ | rfl
      · exact lays_of_not_covers a (h.chosen a.settings.xauthority (by simp [Settings.chosenPaths]))
      · have hcov := h.later x11SocketDir (mem_shownLater.mpr (.inr (.inr (.inl ⟨hx, rfl⟩))))
        exact lays_of_not_covers a fun _ => hcov
    · rcases hs with rfl | rfl | ⟨-, rfl⟩ | rfl
      · exact Step.lays_emit rfl
      · exact Step.lays_emit rfl
      · exact Step.lays_emit rfl
      · exact Step.lays_clear rfl
  · rw [mem_wayland] at hs
    split at hs
    · obtain ⟨-, rfl⟩ := hs
      exact lays_of_not_covers a fun _ => h.wayland
    · rcases hs with rfl | ⟨-, rfl⟩
      · exact Step.lays_emit rfl
      · exact Step.lays_emit rfl

theorem withholds_messageBus {s : Step} (hs : s ∈ a.messageBus) : s.Withholds host place := by
  obtain ⟨hallows, rfl | ⟨-, rfl⟩⟩ := mem_messageBus.mp hs
  · have hcov := h.later systemBus (mem_shownLater.mpr (.inr (.inr (.inr ⟨hallows, rfl⟩))))
    exact lays_of_not_covers a fun _ => hcov
  · have hbus := h.sockets (.allowDbus, sessionBus) (by decide) hallows
    exact lays_of_not_covers a fun _ => hbus

theorem withholds_late {s : Step} (hs : s ∈ a.lateSession ++ [Step.read path]) :
    s.Withholds host place := by
  simp only [lateSession, List.mem_append, List.mem_singleton] at hs
  rcases hs with ((hs | hs) | hs) | rfl
  · exact h.withholds_homeDirectory hs
  · exact h.withholds_displays hs
  · exact h.withholds_messageBus hs
  · exact lays_of_not_covers a (h.chosen path (List.mem_cons_self ..))

/-! ## The two directories

Each of them is mounted by the first step of its group, so what is seen at a place beneath it is
settled by the rest of the group and by the later ones. -/

theorem exists_seenAt_socket (hd : a.settings.runtimeDir ≠ "")
    (hr : a.tokens.restricts .hideSockets = true)
    (hcov : Path.Covers a.settings.runtimeDir place) :
    ∃ d, seenAt (a.compile host path).directives place = some d ∧ d.isGrant = false := by
  obtain ⟨tail, htail⟩ : ∃ tail, a.runtimeSockets = .clear a.settings.runtimeDir :: tail :=
    ⟨_, by rw [runtimeSockets, only, if_pos (hasRuntimeDir_iff.mpr hd), hideOrRead, if_pos hr]; rfl⟩
  have hsteps : a.steps = (a.namespaces ++ a.systemDirectories) ++
      .clear a.settings.runtimeDir :: (tail ++ a.devices ++ a.lateSession) := by
    simp only [steps, htail, lateSession, List.append_assoc, List.cons_append]
  have hover : (Directive.clear (some a.settings.runtimeDir)).MountsOver place :=
    Directive.mountsOver_of_covers rfl rfl hcov
  refine exists_seenAt_compile hsteps rfl hover rfl fun t ht => ?_
  rw [List.append_assoc, List.append_assoc, List.mem_append, List.mem_append] at ht
  rcases ht with ht | ht | ht
  · exact h.withholds_runtimeSockets hr (htail ▸ List.mem_cons_of_mem _ ht)
  · exact h.withholds_devices ht
  · exact h.withholds_late ht

theorem exists_seenAt_driver (hr : a.tokens.restricts .hideDevices = true)
    (hcov : Path.Covers deviceDir place) :
    ∃ d, seenAt (a.compile host path).directives place = some d ∧ d.isGrant = false := by
  obtain ⟨tail, htail⟩ : ∃ tail, a.devices = .emit (.minimalDev deviceDir) :: tail :=
    ⟨_, by rw [devices, if_pos hr]; rfl⟩
  have hsteps : a.steps = (a.namespaces ++ a.systemDirectories ++ a.runtimeSockets) ++
      .emit (.minimalDev deviceDir) :: (tail ++ a.lateSession) := by
    simp only [steps, htail, lateSession, List.append_assoc, List.cons_append]
  have hover : (Directive.minimalDev deviceDir).MountsOver place :=
    Directive.mountsOver_of_covers rfl rfl hcov
  refine exists_seenAt_compile hsteps rfl hover rfl fun t ht => ?_
  rw [List.append_assoc, List.mem_append] at ht
  rcases ht with ht | ht
  · exact h.withholds_devices (htail ▸ List.mem_cons_of_mem _ ht)
  · exact h.withholds_late ht

end Uncovered

/-! ## Denied resources -/

theorem plain_of_mem_names : ∀ e ∈ socketGrants ++ namedDevices, Path.Plain e.2.toList := by
  unfold Path.Plain
  decide

theorem plain_waylandSocket : Path.Plain waylandSocket.toList := by
  unfold Path.Plain
  decide

/-- Each name belongs to one grant. -/
theorem eq_of_name_eq : ∀ e ∈ socketGrants ++ namedDevices, ∀ e' ∈ socketGrants ++ namedDevices,
    e'.2 = e.2 → e' = e := by
  decide

/-- A name that is granted does not cover one that is denied, beneath any base. -/
theorem not_covers_of_denied {base : String} {e e' : Capability × String}
    (he : e ∈ socketGrants ++ namedDevices) (he' : e' ∈ socketGrants ++ namedDevices)
    (hdenied : a.tokens.allows e.1 = false) (hallows : a.tokens.allows e'.1 = true) :
    ¬ Path.Covers (Path.join base e'.2) (Path.join base e.2) := by
  intro hcov
  have hname : e'.2 = e.2 :=
    Path.eq_of_covers_join (plain_of_mem_names e' he').inner (plain_of_mem_names e he) hcov
  rw [eq_of_name_eq e he e' he' hname, hdenied] at hallows
  cases hallows

theorem uncovered_socket {e : Capability × String} (he : e ∈ socketGrants)
    (hdenied : a.tokens.allows e.1 = false)
    (hchosen : ∀ q ∈ path :: a.settings.chosenPaths, q ≠ "" → ¬ Path.Covers q (a.runtimePath e.2))
    (hlater : ∀ q ∈ a.shownLater, ¬ Path.Covers q (a.runtimePath e.2)) :
    a.Uncovered path (a.runtimePath e.2) where
  chosen := hchosen
  later := hlater
  wayland := by
    intro hcov
    have hplain : Path.Plain e.2.toList := plain_of_mem_names e (List.mem_append_left _ he)
    have hname : waylandSocket = e.2 :=
      Path.eq_of_covers_join plain_waylandSocket.inner hplain hcov
    exact (by decide : ∀ e ∈ socketGrants, waylandSocket ≠ e.2) e he hname
  sockets := fun _ he' hallows => not_covers_of_denied (List.mem_append_left _ he)
    (List.mem_append_left _ he') hdenied hallows

-- The runtime directory may be any path, so a device has no base in common with its sockets. What is
-- joined to the directory would have to stand somewhere in the path of the device.
theorem not_isInfix_driverGrants : ∀ e ∈ driverGrants,
    ∀ name ∈ waylandSocket :: socketGrants.map Prod.snd,
      ¬ Path.trimEnd name.toList <:+: (Path.join deviceDir e.2).toList := by
  decide +kernel

/-- The fixed places of the session cover no device. -/
theorem sessionPlaces_spare_driver : ∀ e ∈ driverGrants, ∀ q ∈ [x11SocketDir, systemBus],
    ¬ Path.Covers q (Path.join deviceDir e.2) := by
  decide

theorem uncovered_driver {e : Capability × String} (he : e ∈ driverGrants)
    (hdenied : a.tokens.allows e.1 = false) (hr : a.tokens.restricts .hideDevices = true)
    (hchosen : ∀ q ∈ path :: a.settings.chosenPaths, q ≠ "" →
      ¬ Path.Covers q (Path.join deviceDir e.2)) :
    a.Uncovered path (Path.join deviceDir e.2) where
  chosen := hchosen
  later := by
    have hnamed : e ∈ socketGrants ++ namedDevices :=
      List.mem_append_right _ (List.mem_append_left _ he)
    intro q hq
    rcases mem_shownLater.mp hq with ⟨hshown, -⟩ | ⟨e', he', hallows, rfl⟩ | ⟨-, rfl⟩ | ⟨-, rfl⟩
    · rw [hr] at hshown
      cases hshown
    · exact not_covers_of_denied hnamed (List.mem_append_right _ he') hdenied hallows
    · exact sessionPlaces_spare_driver e he _ (by decide)
    · exact sessionPlaces_spare_driver e he _ (by decide)
  wayland := by
    intro hcov
    have hinfix := Path.isInfix_of_covers_join plain_waylandSocket.inner hcov
    exact not_isInfix_driverGrants e he waylandSocket (List.mem_cons_self ..) hinfix
  sockets := by
    intro e' he' _ hcov
    have hplain : Path.Plain e'.2.toList := plain_of_mem_names e' (List.mem_append_left _ he')
    have hinfix := Path.isInfix_of_covers_join hplain.inner hcov
    exact not_isInfix_driverGrants e he e'.2
      (List.mem_cons_of_mem _ (List.mem_map_of_mem he')) hinfix

end Access

/-- A resource whose grant is denied is not seen in a directory that is hidden, unless a path of the
settings or the program covers it. A socket is seen, too, where a place that other rules show later
covers it. -/
theorem compile_denies (s : Settings) (host : Host) (path : String) (g r : Capability)
    (place : String) (hm : (g, r, place) ∈ (Access.ofSettings s).resources)
    (hg : g.denial ∈ s.tokens) (hd : s.runtimeDir ≠ "") (hr : s.tokens.restricts r = true)
    (hchosen : ∀ q ∈ path :: s.chosenPaths, q ≠ "" → ¬ Path.Covers q place)
    (hlater : r = .hideSockets → ∀ q ∈ (Access.ofSettings s).shownLater, ¬ Path.Covers q place) :
    ∃ d, seenAt (compile s host path).directives place = some d ∧ d.isGrant = false := by
  have hdenied : s.tokens.allows g = false := by
    rw [← Bool.not_eq_true, TokenSet.allows, TokenSet.allowsName_eq_true_iff]
    exact fun h => h.2.1 hg
  rw [← Access.tokens_ofSettings] at hdenied hr
  simp only [Access.resources, List.mem_append, List.mem_map, Prod.mk.injEq] at hm
  rcases hm with ⟨e, he, rfl, rfl, rfl⟩ | ⟨e, he, rfl, rfl, rfl⟩
  · have hcov : Path.Covers s.runtimeDir ((Access.ofSettings s).runtimePath e.2) :=
      Path.covers_join hd ((by decide : ∀ e ∈ Access.socketGrants, Path.isAbsolute e.2 = false) e he)
    have huncovered := Access.uncovered_socket he hdenied hchosen (hlater rfl)
    exact huncovered.exists_seenAt_socket hd hr hcov
  · have hcov : Path.Covers Access.deviceDir (Path.join Access.deviceDir e.2) :=
      (by decide : ∀ e ∈ Access.driverGrants, Path.Covers _ (Path.join _ e.2)) e he
    have huncovered := Access.uncovered_driver he hdenied hr hchosen
    exact huncovered.exists_seenAt_driver hr hcov

/-- Beside other grants, a socket and a device stay out of sight. -/
theorem compile_denies_beside :
    let s : Settings :=
      { applicationParams := "allowpipewire,noallowpulseaudio,allowusb,noallowgpu",
        home := "/home/user", runtimeDir := "/run/user/1000", readAccess := ["/opt/data"],
        deviceAccess := ["snd"], socketAccess := ["app.sock"] }
    ∀ place ∈ ["/run/user/1000/pulse", "/dev/dri"],
      ∃ d, seenAt (compile s (fun _ => true) "/usr/bin/true").directives place = some d ∧
        d.isGrant = false := by
  intro s place hplace
  simp only [List.mem_cons, List.not_mem_nil, or_false] at hplace
  rcases hplace with rfl | rfl
  · exact compile_denies s (fun _ => true) "/usr/bin/true" .allowPulseaudio .hideSockets _
      (by decide) (by decide) (by decide) (by decide) (by decide) (fun _ => by decide)
  · exact compile_denies s (fun _ => true) "/usr/bin/true" .allowGpu .hideDevices _
      (by decide) (by decide) (by decide) (by decide) (by decide) nofun

/-- Where the device directory of the host is shown, a denied device is shown with it. A directory
that is shown later also shows a denied socket in it. -/
theorem compile_denies_shown :
    (let s : Settings :=
      { applicationParams := "noallowgpu,nohidedevices", home := "/home/user",
        runtimeDir := "/run/user/1000" }
    Capability.allowGpu.denial ∈ s.tokens ∧ Capability.noSandbox.name ∉ s.tokens ∧
      s.runtimeDir ≠ "" ∧
      (∀ q ∈ "/usr/bin/true" :: s.chosenPaths, q ≠ "" → ¬ Path.Covers q "/dev/dri") ∧
      seenAt (compile s (fun _ => true) "/usr/bin/true").directives "/dev/dri" =
        some (.bindDevice "/dev" true)) ∧
    (let s : Settings :=
      { applicationParams := "noallowpulseaudio", home := "/home/user", displayChoice := "x11",
        runtimeDir := "/tmp/.X11-unix" }
    Capability.allowPulseaudio.denial ∈ s.tokens ∧ Capability.noSandbox.name ∉ s.tokens ∧
      s.runtimeDir ≠ "" ∧ s.tokens.restricts .hideSockets = true ∧
      (∀ q ∈ "/usr/bin/true" :: s.chosenPaths, q ≠ "" →
        ¬ Path.Covers q "/tmp/.X11-unix/pulse") ∧
      seenAt (compile s (fun _ => true) "/usr/bin/true").directives "/tmp/.X11-unix/pulse" =
        some (.bindReadOnly "/tmp/.X11-unix")) := by
  decide

end Cloister
