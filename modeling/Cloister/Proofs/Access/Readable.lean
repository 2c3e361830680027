import Cloister.Proofs.Access.Emptied
import Cloister.Proofs.Access.Top

/-! # Paths that may be read

The paths that settings show for reading come after the directories of the system, but before the
runtime directory, the devices and the home directory. Where one of these covers such a path, it is
put over it: the path is buried, or may be written.

* `Access.overlays`: where later rules put something that is not shown for reading only.
* `compile_reads`: a path that no overlay covers stays readable, and read-only.
* `compile_reads_buried`: paths that are not.
-/

namespace Cloister
set_option autoImplicit false

/-- All that a step puts over a path is shown for reading only. -/
def Step.Reads (host : Host) (place : String) : Step → Prop :=
  Step.Lays host place fun d => d.kind = .bindReadOnly

namespace Access

variable {a : Access} {host : Host} {path place : String}

/-- Where later rules put something in the runtime directory that is not for reading only. -/
def runtimeOverlays (a : Access) : List String :=
  (if a.tokens.restricts .hideSockets then [a.settings.runtimeDir] else []) ++
    (if a.tokens.allows .allowDconf ∧ a.context.ephemeral = false then [a.runtimePath "dconf"]
      else []) ++
    (if a.context.display.system.allowsWayland then [] else [a.runtimePath waylandSocket])

def homeOverlays (a : Access) : List String :=
  (if a.homeBase = .read a.settings.home then [] else [a.settings.home]) ++
    (if a.context.ephemeral then [] else a.homePlaces)

def x11Overlays (a : Access) : List String :=
  if a.context.display.system.allowsX11 then []
  else (if a.settings.xauthority = "" then [] else [a.settings.xauthority]) ++ [x11SocketDir]

/-- Where the rules that follow the paths of the settings put something that is not for reading
only. -/
def overlays (a : Access) : List String :=
  (if a.settings.runtimeDir = "" then [] else a.runtimeOverlays) ++ [deviceDir] ++
    (if a.settings.home = "" then [] else a.homeOverlays) ++ a.x11Overlays

theorem mem_overlays {q : String} :
    q ∈ a.overlays ↔ (a.settings.runtimeDir ≠ "" ∧ q ∈ a.runtimeOverlays) ∨ q = deviceDir ∨
      (a.settings.home ≠ "" ∧ q ∈ a.homeOverlays) ∨ q ∈ a.x11Overlays := by
  simp only [overlays, List.mem_append, List.mem_singleton, List.mem_ite_nil_left, or_assoc]

theorem reads_read (q : String) : (Step.read q).Reads host place := Step.lays_grant rfl

theorem reads_write {q : String}
    (h : a.context.ephemeral = false → ¬ Path.Covers q place) : (a.write q).Reads host place := by
  cases he : a.context.ephemeral with
  | true =>
    rw [write, Step.write, he, if_pos rfl]
    exact reads_read q
  | false =>
    exact (Step.spares_of_target (a.target?_write q) fun _ => h he).lays (regular_write q)

theorem reads_emit_of_target_eq_none {d : Directive} (h : d.target = none) :
    (Step.emit d).Reads host place := by
  rintro x hx ⟨-, target, ht, -⟩
  rw [List.mem_singleton.mp hx, h] at ht
  cases ht

section Clear
variable (h : ∀ q ∈ a.overlays, ¬ Path.Covers q place)
include h

/-! ## Each group of rules -/

theorem reads_runtimeSockets {s : Step} (hs : s ∈ a.runtimeSockets) : s.Reads host place := by
  obtain ⟨hd, hs⟩ := mem_runtimeSockets.mp hs
  have hcov (q : String) (hq : q ∈ a.runtimeOverlays) : ¬ Path.Covers q place :=
    h q (mem_overlays.mpr (.inl ⟨hd, hq⟩))
  rcases hs with rfl | ⟨e, -, -, rfl⟩ | ⟨hallows, rfl⟩ | ⟨name, -, rfl⟩
  · unfold hideOrRead
    split
    · rename_i hr
      have hdir := hcov a.settings.runtimeDir (by simp [runtimeOverlays, hr])
      exact (Step.spares_of_target rfl fun _ => hdir).lays (a := a) hd
    · exact reads_read _
  · exact reads_read _
  · exact reads_write fun he => hcov _ (by simp [runtimeOverlays, hallows, he])
  · exact entry_cases (fun q _ => reads_read q) (Step.lays_refuse _ _)

theorem reads_devices {s : Step} (hs : s ∈ a.devices) : s.Reads host place := by
  have hspares : s.Spares place := by
    refine (within_of_mem_devices hs).spares fun base hb _ => ?_
    exact h base (mem_overlays.mpr (.inr (.inl (List.mem_singleton.mp hb))))
  exact hspares.lays (regular_of_mem_devices hs)

theorem reads_homeDirectory {s : Step} (hs : s ∈ a.homeDirectory) : s.Reads host place := by
  have hregular := regular_of_mem_homeDirectory hs
  obtain ⟨hh, hs⟩ := mem_homeDirectory.mp hs
  have hcov (q : String) (hq : q ∈ a.homeOverlays) : ¬ Path.Covers q place :=
    h q (mem_overlays.mpr (.inr (.inr (.inl ⟨hh, hq⟩))))
  have hplaces (he : a.context.ephemeral = false) (q : String) (hq : q ∈ a.homePlaces) :
      ¬ Path.Covers q place :=
    hcov q (by simp [homeOverlays, he, hq])
  rcases hs with rfl | ⟨hallows, rfl⟩ | ⟨name, hname, rfl⟩
  · by_cases hbase : a.homeBase = .read a.settings.home
    · rw [hbase]
      exact reads_read _
    · have hhome := hcov a.settings.home (by simp [homeOverlays, hbase])
      exact (Step.spares_of_target a.target?_homeBase fun _ => hhome).lays hregular
  · exact reads_write fun he => hplaces he _ (by simp [homePlaces, hallows])
  · refine entry_cases (fun q hq => ?_) (Step.lays_refuse _ _)
    have hmem : q ∈ a.homePlaces :=
      List.mem_append_right _ (List.mem_filterMap.mpr ⟨name, hname, hq⟩)
    exact reads_write fun he => hplaces he q hmem

theorem reads_x11 {s : Step} (hs : s ∈ a.x11) : s.Reads host place := by
  have hcov (q : String) (hq : q ∈ a.x11Overlays) : ¬ Path.Covers q place :=
    h q (mem_overlays.mpr (.inr (.inr (.inr hq))))
  rw [mem_x11] at hs
  split at hs
  · rcases hs with ⟨-, rfl⟩ | rfl <;> exact reads_read _
  · rename_i hx
    rcases hs with rfl | rfl | ⟨hk, rfl⟩ | rfl
    · exact reads_emit_of_target_eq_none rfl
    · exact reads_emit_of_target_eq_none rfl
    · have hkey := hcov a.settings.xauthority (by simp [x11Overlays, hx, hk])
      exact (Step.spares_of_target rfl fun _ => hkey).lays (a := a) (structural_maskFile hk)
    · have hsockets := hcov x11SocketDir (by simp [x11Overlays, hx])
      exact (Step.spares_of_target rfl fun _ => hsockets).lays (a := a)
        (by decide : x11SocketDir ≠ "")

theorem reads_wayland {s : Step} (hs : s ∈ a.wayland) : s.Reads host place := by
  rw [mem_wayland] at hs
  split at hs
  · rw [hs.2]
    exact reads_read _
  · rename_i hw
    rcases hs with rfl | ⟨hd, rfl⟩
    · exact reads_emit_of_target_eq_none rfl
    · have hsocket := h (a.runtimePath waylandSocket)
        (mem_overlays.mpr (.inl ⟨hd, by simp [runtimeOverlays, hw]⟩))
      exact (Step.spares_of_target rfl fun _ => hsocket).lays (a := a)
        (structural_maskFile (Path.join_ne_empty (by decide)))

theorem reads_lateSession {s : Step} (hs : s ∈ a.lateSession) : s.Reads host place := by
  simp only [lateSession, displays, List.mem_append] at hs
  rcases hs with (hs | hs | hs) | hs
  · exact reads_homeDirectory h hs
  · exact reads_x11 h hs
  · exact reads_wayland h hs
  · obtain ⟨-, rfl | ⟨-, rfl⟩⟩ := mem_messageBus.mp hs <;> exact reads_read _

/-! ## Paths of the settings -/

theorem exists_seenAt_readAccess (hp : place ∈ a.settings.readAccess) (hne : place ≠ "")
    (hhost : host place = true) :
    ∃ d, seenAt (a.compile host path).directives place = some d ∧ d.kind = .bindReadOnly := by
  obtain ⟨front, back, hsplit⟩ := List.append_of_mem hp
  have hsteps : a.steps = (a.namespaces ++ a.systemLayout ++ front.map Step.read) ++
      Step.read place :: (back.map Step.read ++ a.runtimeSockets ++ a.devices ++
        a.lateSession) := by
    rw [steps_eq, earlySession, hsplit]
    simp only [List.map_append, List.map_cons, List.append_assoc, List.cons_append]
  have hadmitted : (Directive.bindReadOnly place).admitted host = (place != "" && host place) := rfl
  have hread : (Step.read place).directives host = [.bindReadOnly place] := by
    rw [Step.read, Step.directives, hadmitted, hhost, Bool.and_true, if_pos (bne_iff_ne.mpr hne)]
  have hover : (Directive.bindReadOnly place).MountsOver place :=
    Directive.mountsOver_of_covers rfl rfl (.refl place)
  refine exists_seenAt_compile hsteps hread hover rfl fun t ht => ?_
  simp only [List.mem_append, List.mem_singleton] at ht
  rcases ht with (((ht | ht) | ht) | ht) | rfl
  · obtain ⟨q, -, rfl⟩ := mem_map_iff.mp ht
    exact reads_read q
  · exact reads_runtimeSockets h ht
  · exact reads_devices h ht
  · exact reads_lateSession h ht
  · exact reads_read path

end Clear
end Access

/-- A path that settings show for reading is seen, and is read-only, unless a later rule puts
something over it that is not. -/
theorem compile_reads (s : Settings) (host : Host) (path place : String)
    (hp : place ∈ s.readAccess) (hne : place ≠ "") (hhost : host place = true)
    (hclear : ∀ q ∈ (Access.ofSettings s).overlays, ¬ Path.Covers q place) :
    ∃ d, seenAt (compile s host path).directives place = some d ∧ d.kind = .bindReadOnly :=
  Access.exists_seenAt_readAccess hclear hp hne hhost

/-- Paths in the system, in a protected home directory and beside the sockets stay readable. -/
theorem compile_reads_beside :
    let s : Settings :=
      { applicationParams := "allowdownloads", home := "/home/user", runtimeDir := "/run/user/1000",
        xauthority := "/home/user/.Xauthority", readAccess := ["/usr/share/app", "/home/user/data"] }
    ∀ place ∈ s.readAccess,
      ∃ d, seenAt (compile s (fun _ => true) "/usr/bin/true").directives place = some d ∧
        d.kind = .bindReadOnly := by
  intro s place hp
  have hne : ∀ q ∈ s.readAccess, q ≠ "" := by decide
  have hclear : ∀ p ∈ s.readAccess, ∀ q ∈ (Access.ofSettings s).overlays, ¬ Path.Covers q p := by
    decide
  exact compile_reads s (fun _ => true) "/usr/bin/true" place hp (hne place hp) rfl
    (hclear place hp)

/-- A path in a hidden runtime directory or among the devices is buried, and one in a home directory
that is not protected may be written. -/
theorem compile_reads_buried :
    let s : Settings :=
      { applicationParams := "noprotecthome", home := "/home/user", runtimeDir := "/run/user/1000",
        readAccess := ["/run/user/1000/app.sock", "/dev/snd", "/home/user/data"] }
    let ds := (compile s (fun _ => true) "/usr/bin/true").directives
    (∀ place ∈ s.readAccess, place ≠ "" ∧ place ≠ s.xauthority ∧
        place ≠ Path.join s.runtimeDir Access.waylandSocket ∧
        ¬ Path.Covers Access.x11SocketDir place) ∧
      seenAt ds "/run/user/1000/app.sock" = some (.clear (some "/run/user/1000")) ∧
      seenAt ds "/dev/snd" = some (.minimalDev "/dev") ∧
      seenAt ds "/home/user/data" = some (.bindWritable "/home/user") := by
  decide

end Cloister
