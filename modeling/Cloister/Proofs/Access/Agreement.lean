import Cloister.Proofs.Access.Phases

/-! # What the rules depend on

The rules look at tokens only through what they say of single capabilities, at the settings through
the paths and lists of entries, and at the context through a few answers.

* `Access.AgreesOn`: two sets of rules give the same answers about the capabilities of a class.
* `Access.AgreesOn.steps_eq`: if that is the class of all capabilities, they take the same steps.
* `Settings.Alike`: settings that differ at most in their capabilities, as far as the rules look.
* `Access.closed`: the same rules without the root of the host.
* `Access.withTokens`: the rules for settings, with any tokens.
* `Access.AgreesOn.of_alike`: rules of such settings agree as far as their tokens do.
* `Access.directives_compile_closed`: the root comes first in a compiled list, if it is shown.
-/

namespace Cloister
set_option autoImplicit false

/-! ## Settings that are alike -/

namespace Settings

/-- The display protocols that settings select. -/
def display (s : Settings) : DisplaySystem :=
  (DisplaySelection.choose (some s.displayChoice) (some s.sessionType)).system

/-- Settings with the same paths and the same lists of entries, that allow the same display
protocols. -/
structure Alike (s t : Settings) : Prop where
  home : s.home = t.home
  runtimeDir : s.runtimeDir = t.runtimeDir
  xauthority : s.xauthority = t.xauthority
  homeAccess : s.homeAccess = t.homeAccess
  readAccess : s.readAccess = t.readAccess
  deviceAccess : s.deviceAccess = t.deviceAccess
  socketAccess : s.socketAccess = t.socketAccess
  allowsX11 : s.display.allowsX11 = t.display.allowsX11
  allowsWayland : s.display.allowsWayland = t.display.allowsWayland

end Settings

namespace Access

/-! ## Rules that agree -/

/-- Two sets of rules agree on paths and entries, on the context, and on all that tokens say of the
capabilities of a class. -/
structure AgreesOn (p : Capability → Prop) (a b : Access) : Prop where
  restricts : ∀ c ∈ Capability.restrictions, p c → a.tokens.restricts c = b.tokens.restricts c
  allows : ∀ c ∈ Capability.grants, p c → a.tokens.allows c = b.tokens.allows c
  permissive : a.context.permissive = b.context.permissive
  ephemeral : a.context.ephemeral = b.context.ephemeral
  allowsX11 : a.context.display.system.allowsX11 = b.context.display.system.allowsX11
  allowsWayland : a.context.display.system.allowsWayland = b.context.display.system.allowsWayland
  home : a.settings.home = b.settings.home
  runtimeDir : a.settings.runtimeDir = b.settings.runtimeDir
  xauthority : a.settings.xauthority = b.settings.xauthority
  homeAccess : a.settings.homeAccess = b.settings.homeAccess
  readAccess : a.settings.readAccess = b.settings.readAccess
  deviceAccess : a.settings.deviceAccess = b.settings.deviceAccess
  socketAccess : a.settings.socketAccess = b.settings.socketAccess
  /-- Where changes are thrown away, the home directory is kept by both or by none. -/
  keepsHome : a.context.ephemeral = true →
    (a.tokens.stated Capability.protectHome.name = .enabled ↔
      b.tokens.stated Capability.protectHome.name = .enabled)

namespace AgreesOn

variable {p : Capability → Prop} {a b : Access}

theorem symm (h : AgreesOn p a b) : AgreesOn p b a where
  restricts c hc hp := (h.restricts c hc hp).symm
  allows c hc hp := (h.allows c hc hp).symm
  permissive := h.permissive.symm
  ephemeral := h.ephemeral.symm
  allowsX11 := h.allowsX11.symm
  allowsWayland := h.allowsWayland.symm
  home := h.home.symm
  runtimeDir := h.runtimeDir.symm
  xauthority := h.xauthority.symm
  homeAccess := h.homeAccess.symm
  readAccess := h.readAccess.symm
  deviceAccess := h.deviceAccess.symm
  socketAccess := h.socketAccess.symm
  keepsHome he := (h.keepsHome (h.ephemeral.trans he)).symm

theorem of_imp {q : Capability → Prop} (hq : ∀ c, q c → p c) (h : AgreesOn p a b) :
    AgreesOn q a b :=
  { h with
    restricts := fun c hc hp => h.restricts c hc (hq c hp)
    allows := fun c hc hp => h.allows c hc (hq c hp) }

/-! ## Single steps -/

theorem hideOrRead_eq (h : AgreesOn p a b) {c : Capability} (hc : c ∈ Capability.restrictions)
    (hp : p c) (path : String) : a.hideOrRead c path = b.hideOrRead c path := by
  rw [hideOrRead, hideOrRead, h.restricts c hc hp]

theorem write_eq (h : AgreesOn p a b) (path : String) : a.write path = b.write path := by
  rw [write, write, h.ephemeral]

theorem runtimePath_eq (h : AgreesOn p a b) (name : String) :
    a.runtimePath name = b.runtimePath name := by
  rw [runtimePath, runtimePath, h.runtimeDir]

theorem hasRuntimeDir_eq (h : AgreesOn p a b) : a.hasRuntimeDir = b.hasRuntimeDir := by
  rw [hasRuntimeDir, hasRuntimeDir, h.runtimeDir]

theorem temporary_eq (h : AgreesOn p a b) (hp : p .hideTmp) : a.temporary = b.temporary := by
  rw [temporary, temporary, h.restricts .hideTmp (by decide) hp, h.ephemeral]

theorem homeBase_eq (h : AgreesOn p a b) (hp : p .protectHome) : a.homeBase = b.homeBase := by
  rw [homeBase, homeBase, h.home, h.restricts .protectHome (by decide) hp]
  by_cases he : a.context.ephemeral = true
  · have hk := h.keepsHome he
    rw [← h.ephemeral, if_pos he, if_pos he]
    simp only [hk]
  · rw [← h.ephemeral, if_neg he, if_neg he]

/-! ## Groups of rules -/

theorem namespaces_eq (h : AgreesOn p a b)
    (hp : ∀ c ∈ [.unshareUts, .unshareNetwork, .newSession, .unshareProcesses], p c) :
    a.namespaces = b.namespaces := by
  have huts := h.restricts .unshareUts (by decide) (hp _ (by decide))
  have hnetwork := h.restricts .unshareNetwork (by decide) (hp _ (by decide))
  have hsession := h.restricts .newSession (by decide) (hp _ (by decide))
  have hprocesses := h.restricts .unshareProcesses (by decide) (hp _ (by decide))
  rw [namespaces, namespaces, h.permissive, huts, hnetwork, hsession, hprocesses]

theorem services_eq (h : AgreesOn p a b) (hp : ∀ c ∈ [.hideRun, .unshareNetwork], p c) :
    a.services = b.services := by
  have hrun := h.restricts .hideRun (by decide) (hp _ (by decide))
  have hnetwork := h.restricts .unshareNetwork (by decide) (hp _ (by decide))
  rw [services, services, hrun, hnetwork]

theorem systemDirectories_eq (h : AgreesOn p a b)
    (hp : ∀ c ∈ [.preventPreload, .hideUsr, .hideBin, .hideSbin, .hideLibexec, .hideEtc, .hideTmp,
      .hideSys, .hideRun, .hideVar, .unshareNetwork], p c) :
    a.systemDirectories = b.systemDirectories := by
  have hprograms : programDirectories.map (fun e => a.hideOrRead e.1 e.2) =
      programDirectories.map (fun e => b.hideOrRead e.1 e.2) := by
    have hmem : ∀ e ∈ programDirectories, e.1 ∈ Capability.restrictions ∧
        e.1 ∈ [Capability.hideUsr, .hideBin, .hideSbin, .hideLibexec] := by decide
    refine List.map_congr_left fun e he => ?_
    exact h.hideOrRead_eq (hmem e he).1 (hp _ (List.mem_cons_of_mem _
      (List.mem_append_left _ (hmem e he).2))) e.2
  have hpreload := h.restricts .preventPreload (by decide) (hp _ (by decide))
  have hetc := h.hideOrRead_eq (c := .hideEtc) (by decide) (hp _ (by decide)) "/etc"
  have hsys := h.hideOrRead_eq (c := .hideSys) (by decide) (hp _ (by decide)) "/sys"
  have hvar := h.hideOrRead_eq (c := .hideVar) (by decide) (hp _ (by decide)) "/var"
  have htemporary := h.temporary_eq (hp _ (by decide))
  have hservices := h.services_eq fun c hc =>
    hp c ((by decide : ∀ c ∈ [Capability.hideRun, .unshareNetwork], c ∈ _) c hc)
  rw [systemDirectories, systemDirectories, systemLayout_eq, systemLayout_eq, hprograms, hpreload,
    hetc, hsys, hvar, htemporary, hservices, h.readAccess]

theorem runtimeSockets_eq (h : AgreesOn p a b)
    (hp : ∀ c ∈ [.hideSockets, .allowPipewire, .allowPulseaudio, .allowDconf], p c) :
    a.runtimeSockets = b.runtimeSockets := by
  have hbase := h.hideOrRead_eq (c := .hideSockets) (by decide) (hp _ (by decide))
  have hpipewire := h.allows .allowPipewire (by decide) (hp _ (by decide))
  have hpulseaudio := h.allows .allowPulseaudio (by decide) (hp _ (by decide))
  have hdconf := h.allows .allowDconf (by decide) (hp _ (by decide))
  simp only [runtimeSockets, grantedSockets, List.flatMap_cons, List.flatMap_nil, hbase, hpipewire,
    hpulseaudio, hdconf, h.hasRuntimeDir_eq, h.runtimePath_eq, h.write_eq, h.runtimeDir,
    h.socketAccess]

theorem devices_eq (h : AgreesOn p a b)
    (hp : ∀ c ∈ [.hideDevices, .allowGpu, .allowUsb, .allowShm], p c) : a.devices = b.devices := by
  have hdevices := h.restricts .hideDevices (by decide) (hp _ (by decide))
  have hgpu := h.allows .allowGpu (by decide) (hp _ (by decide))
  have husb := h.allows .allowUsb (by decide) (hp _ (by decide))
  have hshm := h.allows .allowShm (by decide) (hp _ (by decide))
  rw [devices, devices, deviceNames, deviceNames, hdevices, hgpu, husb, hshm, h.deviceAccess]

theorem homeDirectory_eq (h : AgreesOn p a b) (hp : ∀ c ∈ [.protectHome, .allowDownloads], p c) :
    a.homeDirectory = b.homeDirectory := by
  have hbase := h.homeBase_eq (hp _ (by decide))
  have hdownloads := h.allows .allowDownloads (by decide) (hp _ (by decide))
  have hwrite : a.write = b.write := funext h.write_eq
  rw [homeDirectory, homeDirectory, hbase, hdownloads, hwrite, h.home, h.homeAccess]

theorem displays_eq (h : AgreesOn p a b) : a.displays = b.displays := by
  have hx11 : a.x11 = b.x11 := by
    rw [x11, x11, h.allowsX11, h.xauthority]
  have hwayland : a.wayland = b.wayland := by
    rw [wayland, wayland, h.allowsWayland, h.hasRuntimeDir_eq, h.runtimePath_eq]
  rw [displays, displays, hx11, hwayland]

theorem messageBus_eq (h : AgreesOn p a b) (hp : p .allowDbus) : a.messageBus = b.messageBus := by
  have hdbus := h.allows .allowDbus (by decide) hp
  rw [messageBus, messageBus, hdbus, h.hasRuntimeDir_eq, h.runtimePath_eq]

/-! ## All rules -/

theorem steps_eq (h : AgreesOn (fun _ => True) a b) : a.steps = b.steps := by
  rw [steps, steps, h.namespaces_eq (fun _ _ => trivial),
    h.systemDirectories_eq (fun _ _ => trivial), h.runtimeSockets_eq (fun _ _ => trivial),
    h.devices_eq (fun _ _ => trivial), h.homeDirectory_eq (fun _ _ => trivial), h.displays_eq,
    h.messageBus_eq trivial]

theorem compile_eq (h : AgreesOn (fun _ => True) a b) (host : Host) (path : String) :
    a.compile host path = b.compile host path := by
  rw [compile, compile, draft, draft, h.steps_eq]

end AgreesOn

/-! ## The context of settings -/

theorem permissive_ofSettings (s : Settings) :
    (ofSettings s).context.permissive = s.tokens.permissive := by
  rw [ofSettings, Context.ofTokens]

theorem ephemeral_ofSettings (s : Settings) :
    (ofSettings s).context.ephemeral = s.tokens.allows .ephemeral := by
  rw [ofSettings, Context.ofTokens]

theorem display_ofSettings (s : Settings) :
    (ofSettings s).context.display.system = s.display := by
  rw [ofSettings, Context.ofTokens, Settings.display]

theorem settings_ofSettings (s : Settings) : (ofSettings s).settings = s := by
  rw [ofSettings]

/-! ## The root of the host -/

/-- The same rules without the root of the host. -/
def closed (a : Access) : Access := { a with context := { a.context with permissive := false } }

section Closed
variable (a : Access)

@[simp] theorem settings_closed : a.closed.settings = a.settings := rfl

@[simp] theorem permissive_closed : a.closed.context.permissive = false := rfl

end Closed

theorem AgreesOn.of_closed {p : Capability → Prop} {a b : Access}
    (h : AgreesOn p a.closed b.closed)
    (hpermissive : a.context.permissive = b.context.permissive) : AgreesOn p a b :=
  { h with permissive := hpermissive }

/-- The rules for settings, with these tokens in place of those that the settings ask for. -/
def withTokens (s : Settings) (t : TokenSet) : Access where
  tokens := t
  context := .ofTokens t (.choose (some s.displayChoice) (some s.sessionType))
  settings := s

theorem ofSettings_eq_withTokens (s : Settings) : ofSettings s = withTokens s s.tokens := rfl

/-- Apart from the root of the host, rules for settings that are alike agree as far as their tokens
say the same. -/
theorem AgreesOn.of_alike {p : Capability → Prop} {s t : Settings} {u v : TokenSet} (h : s.Alike t)
    (hrestricts : ∀ c ∈ Capability.restrictions, p c → u.restricts c = v.restricts c)
    (hallows : ∀ c ∈ Capability.grants, p c → u.allows c = v.allows c)
    (hephemeral : p .ephemeral)
    (hkeeps : u.allows .ephemeral = true →
      (u.stated Capability.protectHome.name = .enabled ↔
        v.stated Capability.protectHome.name = .enabled)) :
    AgreesOn p (withTokens s u).closed (withTokens t v).closed where
  restricts := hrestricts
  allows := hallows
  permissive := rfl
  ephemeral := hallows .ephemeral (by decide) hephemeral
  allowsX11 := h.allowsX11
  allowsWayland := h.allowsWayland
  home := h.home
  runtimeDir := h.runtimeDir
  xauthority := h.xauthority
  homeAccess := h.homeAccess
  readAccess := h.readAccess
  deviceAccess := h.deviceAccess
  socketAccess := h.socketAccess
  keepsHome := hkeeps

/-- The directive that shows the root of the host. -/
def hostRoot : Directive := .bindDevice "/" true

theorem namespaces_eq_closed (a : Access) :
    a.namespaces = only a.context.permissive [.emit hostRoot] ++ a.closed.namespaces := by
  rw [namespaces, namespaces, permissive_closed]
  simp only [List.append_assoc]
  rfl

theorem steps_eq_closed (a : Access) :
    a.steps = only a.context.permissive [.emit hostRoot] ++ a.closed.steps := by
  rw [steps, steps, namespaces_eq_closed]
  simp only [List.append_assoc]
  rfl

variable (a : Access) (host : Host) (path : String)

theorem directives_compile_closed :
    (a.compile host path).directives =
      (if a.context.permissive then [hostRoot] else []) ++
        (a.closed.compile host path).directives := by
  have hunlocked (b : Bool) : (only b [.emit hostRoot]).filterMap Step.cleared? = [] := by
    cases b <;> rfl
  have hshown (b : Bool) : (only b [.emit hostRoot]).flatMap (Step.directives host) =
      if b then [hostRoot] else [] := by
    cases b <;> rfl
  have hlocked : a.locked = a.closed.locked := by
    rw [locked, locked, steps_eq_closed, List.filterMap_append, hunlocked, List.nil_append]
  have hcontent : a.content host =
      (if a.context.permissive then [hostRoot] else []) ++ a.closed.content host := by
    rw [content, content, steps_eq_closed, List.flatMap_append, hshown]
  simp only [directives_compile, hlocked, hcontent, List.append_assoc]

theorem notices_compile_closed :
    (a.compile host path).notices = (a.closed.compile host path).notices := by
  have hsilent (b : Bool) : (only b [.emit hostRoot]).flatMap (Step.notices host) = [] := by
    cases b <;> rfl
  have hnotices : a.steps.flatMap (Step.notices host) =
      a.closed.steps.flatMap (Step.notices host) := by
    rw [steps_eq_closed, List.flatMap_append, hsilent, List.nil_append]
  rw [compile, compile, hnotices]

end Access
end Cloister
