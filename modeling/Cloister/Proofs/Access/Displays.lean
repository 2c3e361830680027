import Cloister.Proofs.Access.Absence
import Cloister.Proofs.Access.Agreement

/-! # Displays out of reach

A display protocol is denied after everything that the settings show, so none of their paths brings
it back. Only the other protocol, the message buses and the program come later.

* `Settings.displayWord`: the word that settles which protocols are allowed.
* `Access.x11Denial`, `Access.waylandDenial`: the directives that deny a protocol.
* `Access.compositorPlaces`, `Access.busPlaces`: what the rules may show after them.
* `compile_withholds_displays`: a denied protocol has its denial in every compiled list, and after it
  nothing is shown but these places and the program.
-/

namespace Cloister
set_option autoImplicit false

/-! ## The selection -/

namespace DisplaySystem

def names : List String := ["none", "any", "x11", "wayland"]

theorem isSome_ofName?_iff {w : String} : (ofName? w).isSome = true ↔ w ∈ names := by
  unfold ofName? names
  split <;> simp_all

theorem allowsX11_ofName {w : String} :
    ((ofName? w).getD .none).allowsX11 = true ↔ w = "any" ∨ w = "x11" := by
  unfold ofName?
  split <;> simp_all [allowsX11]

theorem allowsWayland_ofName {w : String} :
    ((ofName? w).getD .none).allowsWayland = true ↔ w = "any" ∨ w = "wayland" := by
  unfold ofName?
  split <;> simp_all [allowsWayland]

end DisplaySystem

/-- The word that settles the selection: the explicit choice if it is valid, and the type of the
session otherwise. -/
def Settings.displayWord (s : Settings) : String :=
  if s.displayChoice ∈ DisplaySystem.names then s.displayChoice else s.sessionType

theorem Settings.display_eq (s : Settings) :
    s.display = (DisplaySystem.ofName? s.displayWord).getD .none := by
  rw [display, DisplaySelection.choose, displayWord, Option.bind_some]
  cases h : DisplaySystem.ofName? s.displayChoice with
  | none =>
    have hunknown : s.displayChoice ∉ DisplaySystem.names := by
      rw [← DisplaySystem.isSome_ofName?_iff, h]
      exact Bool.false_ne_true
    rw [if_neg hunknown]
    rfl
  | some system =>
    have hknown : s.displayChoice ∈ DisplaySystem.names := by
      rw [← DisplaySystem.isSome_ofName?_iff, h]
      rfl
    rw [if_pos hknown, h]
    rfl

/-! ## Paths that are shown for reading -/

/-- What a host shows of some paths, for reading only. -/
def Host.shown (host : Host) (places : List String) : List Directive :=
  (places.filter fun p => p != "" && host p).map .bindReadOnly

theorem Host.shown_append (host : Host) (xs ys : List String) :
    host.shown (xs ++ ys) = host.shown xs ++ host.shown ys := by
  rw [shown, shown, shown, List.filter_append, List.map_append]

theorem Step.directives_reads (host : Host) (places : List String) :
    (places.map read).flatMap (directives host) = host.shown places := by
  induction places with
  | nil => rfl
  | cons p ps ih =>
    have hp : (Directive.bindReadOnly p).admitted host = (p != "" && host p) := rfl
    rw [List.map_cons, List.flatMap_cons, ih, read, directives, hp, Host.shown, Host.shown,
      List.filter_cons]
    split <;> rfl

theorem Host.filter_isGrant_shown (host : Host) (places : List String) :
    (host.shown places).filter Directive.isGrant = host.shown places := by
  rw [List.filter_eq_self]
  intro d hd
  obtain ⟨p, -, rfl⟩ := List.mem_map.mp hd
  rfl

namespace Access

variable {a : Access} {host : Host}

/-! ## Denials, and what comes after them -/

/-- The directives that deny X11: its variables are unset, its key is masked and its sockets are
cleared. -/
def x11Denial (a : Access) : List Directive :=
  [.unsetVariable "DISPLAY", .unsetVariable "XAUTHORITY"] ++
    (if a.settings.xauthority = "" then [] else [.maskFile a.settings.xauthority]) ++
    [.clear (some x11SocketDir)]

def waylandDenial (a : Access) : List Directive :=
  .unsetVariable "WAYLAND_DISPLAY" ::
    (if a.settings.runtimeDir = "" then [] else [.maskFile (a.runtimePath waylandSocket)])

/-- The socket of the compositor, if it is to be shown. -/
def compositorPlaces (a : Access) : List String :=
  if a.context.display.system.allowsWayland = true ∧ a.settings.runtimeDir ≠ "" then
    [a.runtimePath waylandSocket]
  else []

/-- The sockets of the message buses, if they are to be shown. -/
def busPlaces (a : Access) : List String :=
  if a.tokens.allows .allowDbus then
    systemBus :: (if a.settings.runtimeDir = "" then [] else [a.runtimePath sessionBus])
  else []

theorem hasRuntimeDir_eq_false_iff : a.hasRuntimeDir = false ↔ a.settings.runtimeDir = "" := by
  rw [← Bool.not_eq_true, hasRuntimeDir_iff, not_not]

theorem messageBus_eq (a : Access) : a.messageBus = a.busPlaces.map Step.read := by
  rw [messageBus, busPlaces]
  cases a.tokens.allows .allowDbus with
  | false => rfl
  | true =>
    cases hr : a.hasRuntimeDir with
    | false => rw [hasRuntimeDir_eq_false_iff.mp hr]; rfl
    | true => rw [if_pos rfl, if_neg (hasRuntimeDir_iff.mp hr)]; rfl

theorem directives_x11 (h : a.context.display.system.allowsX11 = false) :
    a.x11.flatMap (Step.directives host) = a.x11Denial := by
  rw [x11, h, if_neg Bool.false_ne_true, x11Denial]
  by_cases hk : a.settings.xauthority = "" <;> simp [hk, only, Step.directives]

theorem directives_wayland (h : a.context.display.system.allowsWayland = false) :
    a.wayland.flatMap (Step.directives host) = a.waylandDenial := by
  rw [wayland, h, if_neg Bool.false_ne_true, waylandDenial]
  cases hr : a.hasRuntimeDir with
  | false => rw [if_pos (hasRuntimeDir_eq_false_iff.mp hr)]; rfl
  | true => rw [if_neg (hasRuntimeDir_iff.mp hr)]; rfl

/-- Of the compositor nothing is shown but its socket, and that only if it is allowed. -/
theorem grants_wayland (a : Access) (host : Host) :
    (a.wayland.flatMap (Step.directives host)).filter Directive.isGrant =
      host.shown a.compositorPlaces := by
  cases h : a.context.display.system.allowsWayland with
  | false =>
    have hnone : a.compositorPlaces = [] := if_neg fun hc => Bool.false_ne_true (h.symm.trans hc.1)
    rw [directives_wayland h, hnone, waylandDenial]
    split <;> rfl
  | true =>
    have hread : a.wayland = a.compositorPlaces.map Step.read := by
      rw [wayland, h, if_pos rfl, compositorPlaces, h]
      cases hr : a.hasRuntimeDir with
      | false => rw [if_neg fun hc => hc.2 (hasRuntimeDir_eq_false_iff.mp hr)]; rfl
      | true => rw [if_pos ⟨rfl, hasRuntimeDir_iff.mp hr⟩]; rfl
    rw [hread, Step.directives_reads, Host.filter_isGrant_shown]

/-- What the buses, the program and the end show. -/
theorem grants_rest (a : Access) (host : Host) (path : String) :
    ((a.messageBus ++ [Step.read path]).flatMap (Step.directives host) ++ a.closing).filter
        Directive.isGrant = host.shown (a.busPlaces ++ [path]) := by
  have hclosing : a.closing.filter Directive.isGrant = [] := by
    rw [List.filter_eq_nil_iff]
    intro d hd
    rw [a.isGrant_of_mem_closing hd]
    exact Bool.false_ne_true
  have hreads : a.messageBus ++ [Step.read path] = (a.busPlaces ++ [path]).map Step.read := by
    rw [messageBus_eq, List.map_append]
    rfl
  rw [hreads, Step.directives_reads, List.filter_append, hclosing, List.append_nil,
    Host.filter_isGrant_shown]

/-! ## Compiled lists -/

/-- A compiled list from the denial of the first display on. -/
theorem directives_compile_displays (a : Access) (host : Host) (path : String) :
    ∃ before, (a.compile host path).directives =
      before ++ a.x11.flatMap (Step.directives host) ++ (a.wayland.flatMap (Step.directives host) ++
        ((a.messageBus ++ [Step.read path]).flatMap (Step.directives host) ++ a.closing)) := by
  refine ⟨(a.namespaces ++ a.systemDirectories ++ a.runtimeSockets ++ a.devices ++
    a.homeDirectory).flatMap (Step.directives host), ?_⟩
  rw [directives_compile_stepsWith, stepsWith, steps, displays]
  simp only [List.flatMap_append, List.append_assoc]

theorem lock_x11_mem_closing (h : a.context.display.system.allowsX11 = false) :
    .lock (some x11SocketDir) ∈ a.closing := by
  have hclear : Step.clear x11SocketDir ∈ a.x11 := by
    rw [mem_x11, h, if_neg Bool.false_ne_true]
    exact .inr (.inr (.inr rfl))
  have hsteps : Step.clear x11SocketDir ∈ a.steps := by
    simp only [steps, displays, List.mem_append]
    exact .inl (.inr (.inl hclear))
  have hlocked : x11SocketDir ∈ a.locked.toList := a.mem_toList_locked.mpr (.inr hsteps)
  exact List.mem_append_left _ (List.mem_map.mpr ⟨_, hlocked, rfl⟩)

end Access

/-- A display protocol is allowed as the valid explicit choice says, or else the type of the session.
Where one is not allowed, its denial stands in the compiled list, and after it only the compositor,
the message buses and the program are shown, as far as they are allowed and on the host. -/
theorem compile_withholds_displays (s : Settings) (host : Host) (path : String) :
    (s.display.allowsX11 = true ↔ s.displayWord = "any" ∨ s.displayWord = "x11") ∧
    (s.display.allowsWayland = true ↔ s.displayWord = "any" ∨ s.displayWord = "wayland") ∧
    (s.display.allowsX11 = false → ∃ before after,
      (compile s host path).directives = before ++ (Access.ofSettings s).x11Denial ++ after ∧
      .lock (some Access.x11SocketDir) ∈ after ∧
      after.filter Directive.isGrant = host.shown ((Access.ofSettings s).compositorPlaces ++
        ((Access.ofSettings s).busPlaces ++ [path]))) ∧
    (s.display.allowsWayland = false → ∃ before after,
      (compile s host path).directives = before ++ (Access.ofSettings s).waylandDenial ++ after ∧
      after.filter Directive.isGrant =
        host.shown ((Access.ofSettings s).busPlaces ++ [path])) := by
  obtain ⟨before, hsplit⟩ := (Access.ofSettings s).directives_compile_displays host path
  refine ⟨?_, ?_, fun h => ?_, fun h => ?_⟩
  · rw [s.display_eq]
    exact DisplaySystem.allowsX11_ofName
  · rw [s.display_eq]
    exact DisplaySystem.allowsWayland_ofName
  · rw [← Access.display_ofSettings] at h
    rw [Access.directives_x11 h] at hsplit
    refine ⟨before, _, hsplit, ?_, ?_⟩
    · exact List.mem_append_right _ (List.mem_append_right _ (Access.lock_x11_mem_closing h))
    · rw [List.filter_append, Access.grants_wayland, Access.grants_rest,
        ← Host.shown_append]
  · rw [← Access.display_ofSettings] at h
    rw [Access.directives_wayland h, ← List.append_assoc] at hsplit
    exact ⟨_, _, hsplit, Access.grants_rest _ host path⟩

/-- An explicit choice in the wrong case is no choice. Entries that name the sockets themselves do
not bring a denied display back. -/
theorem compile_withholds_displays_listed :
    let s : Settings :=
      { applicationParams := "allowdbus", displayChoice := "X11", sessionType := "tty",
        runtimeDir := "/run/user/1000", xauthority := "/run/user/1000/key",
        readAccess := ["/tmp/.X11-unix"], socketAccess := ["wayland-0", "key"] }
    let shown : List Directive := [.bindReadOnly "/run/dbus/system_bus_socket",
      .bindReadOnly "/run/user/1000/bus", .bindReadOnly "/usr/bin/true"]
    (∃ before after, (compile s (fun _ => true) "/usr/bin/true").directives = before ++
        [.unsetVariable "DISPLAY", .unsetVariable "XAUTHORITY", .maskFile "/run/user/1000/key",
          .clear (some "/tmp/.X11-unix")] ++ after ∧
        .lock (some "/tmp/.X11-unix") ∈ after ∧ after.filter Directive.isGrant = shown) ∧
      ∃ before after, (compile s (fun _ => true) "/usr/bin/true").directives = before ++
        [.unsetVariable "WAYLAND_DISPLAY", .maskFile "/run/user/1000/wayland-0"] ++ after ∧
        after.filter Directive.isGrant = shown := by
  intro s shown
  have hx11 : (Access.ofSettings s).x11Denial = [.unsetVariable "DISPLAY",
      .unsetVariable "XAUTHORITY", .maskFile "/run/user/1000/key",
      .clear (some "/tmp/.X11-unix")] := by decide
  have hwayland : (Access.ofSettings s).waylandDenial = [.unsetVariable "WAYLAND_DISPLAY",
      .maskFile "/run/user/1000/wayland-0"] := by decide
  have hcompositor : (Access.ofSettings s).compositorPlaces = [] := by decide
  have hbus : (Access.ofSettings s).busPlaces ++ ["/usr/bin/true"] =
      ["/run/dbus/system_bus_socket", "/run/user/1000/bus", "/usr/bin/true"] := by decide
  have h := (compile_withholds_displays s (fun _ => true) "/usr/bin/true").2.2
  rw [hx11, hwayland, hcompositor, hbus] at h
  exact ⟨h.1 (by decide), h.2 (by decide)⟩

end Cloister
