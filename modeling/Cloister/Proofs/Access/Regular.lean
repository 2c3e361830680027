import Cloister.Proofs.Access.Member
import Cloister.Proofs.Path.Component

/-! # The steps of the rules

* `Step.target?`: where a step mounts something.
* `Step.Regular`: what the steps of the rules are like.
* `Access.regular_of_mem_steps`: all of them are.
-/

namespace Cloister
set_option autoImplicit false

/-! ## Single steps -/

/-- Where a step mounts something. -/
def Step.target? : Step → Option String
  | .emit d => d.target
  | .clear path => some path
  | .grant d => d.target
  | .refuse _ _ => none

/-- A directive comes from a step that emits it, clears its target or grants it. -/
theorem Step.mem_directives {host : Host} {s : Step} {d : Directive} :
    d ∈ s.directives host ↔ s = .emit d ∨ (∃ path, s = .clear path ∧ d = .clear (some path)) ∨
      s = .grant d ∧ d.admitted host = true := by
  cases s with
  | emit x => simpa [directives] using eq_comm
  | clear path => simp [directives]
  | grant x =>
    have hx : d ∈ directives host (.grant x) ↔ x = d ∧ d.admitted host = true := by
      rw [directives]
      split
      · rename_i h
        rw [List.mem_singleton]
        exact ⟨fun e => ⟨e.symm, e ▸ h⟩, fun e => e.1.symm⟩
      · rename_i h
        exact iff_of_false List.not_mem_nil fun e => absurd e.2 (e.1 ▸ h)
    simpa using hx
  | refuse base entry => simp [directives]

theorem Step.eq_of_mem_grant {host : Host} {d x : Directive} (h : d ∈ (grant x).directives host) :
    d = x := by
  rcases mem_directives.mp h with h | ⟨path, h, -⟩ | ⟨h, -⟩ <;> cases h
  rfl

section Forall
-- what holds of the directive of a step holds of all that the step emits
variable {host : Host} {P : Directive → Prop}

theorem Step.forall_emit {d : Directive} (h : P d) : ∀ x ∈ (emit d).directives host, P x := by
  intro x hx
  rw [List.mem_singleton.mp hx]
  exact h

theorem Step.forall_clear {dir : String} (h : P (.clear (some dir))) :
    ∀ x ∈ (clear dir).directives host, P x := by
  intro x hx
  rw [List.mem_singleton.mp hx]
  exact h

theorem Step.forall_grant {d : Directive} (h : P d) : ∀ x ∈ (grant d).directives host, P x := by
  intro x hx
  rw [eq_of_mem_grant hx]
  exact h

theorem Step.forall_refuse (base name : String) : ∀ x ∈ (refuse base name).directives host, P x :=
  fun _ hx => absurd hx List.not_mem_nil

end Forall

/-- A step mounts its directives where it says. -/
theorem Step.target_of_mem_directives {host : Host} {s : Step} {d : Directive}
    (h : d ∈ s.directives host) : d.target = s.target? := by
  rcases mem_directives.mp h with rfl | ⟨path, rfl, rfl⟩ | ⟨rfl, -⟩ <;> rfl

/-- A grant that is given up if its source is not on the host. -/
inductive Directive.Optional : Directive → Prop
  | readOnly (path : String) : Optional (.bindReadOnly path)
  | writable (path : String) : Optional (.bindWritable path)
  | device (path : String) : Optional (.bindDevice path false)

theorem Directive.Optional.isGrant {d : Directive} (h : d.Optional) : d.isGrant = true := by
  cases h <;> rfl

theorem Directive.Optional.source_eq_target {d : Directive} (h : d.Optional) :
    d.source = d.target := by
  cases h <;> rfl

/-- A directive that the rules emit in any case: it belongs to the content, and if it shows
something of the host, it is required. Directories are cleared in this way only where changes are
thrown away: that of temporary files and the home directory. -/
structure Directive.Structural (a : Access) (d : Directive) : Prop where
  not_lock : d.kind ≠ .lock
  not_terminator : d.kind ≠ .terminator
  target_ne : d.target ≠ some ""
  required_of_isGrant : d.isGrant = true → d.required = true
  of_clear : d.kind = .clear → a.context.ephemeral = true ∧
    (d = .clear (some "/tmp") ∨ d = .clear (some a.settings.home))

/-- What the steps of the rules are like. -/
def Step.Regular (a : Access) : Step → Prop
  | .emit d => d.Structural a
  | .clear path => path ≠ ""
  | .grant d => d.Optional
  | .refuse _ _ => True

namespace Access

variable {a : Access}

/-! ## Steps of one kind -/

theorem regular_read (path : String) : (Step.read path).Regular a := .readOnly path

theorem regular_write (path : String) : (a.write path).Regular a := by
  unfold write Step.write
  split
  · exact .readOnly path
  · exact .writable path

theorem regular_hideOrRead (c : Capability) {path : String} (h : path ≠ "") :
    (a.hideOrRead c path).Regular a := by
  unfold hideOrRead
  split
  · exact h
  · exact regular_read path

theorem regular_entry {place : String → Step} (h : ∀ path, (place path).Regular a)
    (base name : String) : (entry base name place).Regular a :=
  entry_cases (fun path _ => h path) trivial

/-- A directive without a target that is neither a lock nor the end is structural. -/
theorem structural_of_target_eq_none {d : Directive} (ht : d.target = none)
    (hk : d.kind ≠ .lock ∧ d.kind ≠ .terminator ∧ d.kind ≠ .clear) (hg : d.isGrant = false) :
    d.Structural a :=
  ⟨hk.1, hk.2.1, by simp [ht], by simp [hg], fun h => absurd h hk.2.2⟩

theorem structural_maskFile {path : String} (h : path ≠ "") :
    (Directive.maskFile path).Structural a :=
  ⟨nofun, nofun, by simpa [Directive.maskFile] using h, nofun, nofun⟩

theorem structural_bindDevice {path : String} (h : path ≠ "") :
    (Directive.bindDevice path true).Structural a :=
  ⟨nofun, nofun, by simpa [Directive.bindDevice] using h, fun _ => rfl, nofun⟩

theorem structural_symlink (source : String) {target : String} (h : target ≠ "") :
    (Directive.symlink source target).Structural a :=
  ⟨nofun, nofun, by simpa [Directive.symlink] using h, nofun, nofun⟩

theorem structural_clear {path : String} (h : path ≠ "") (he : a.context.ephemeral = true)
    (hp : path = "/tmp" ∨ path = a.settings.home) : (Directive.clear (some path)).Structural a :=
  ⟨nofun, nofun, by simpa [Directive.clear] using h, nofun,
    fun _ => ⟨he, hp.imp (by rintro rfl; rfl) (by rintro rfl; rfl)⟩⟩

/-! ## The steps of each group of rules -/

theorem regular_of_mem_namespaces {s : Step} (hs : s ∈ a.namespaces) : s.Regular a := by
  rcases mem_namespaces.mp hs with (⟨-, rfl⟩ | rfl | rfl | rfl) | ⟨-, rfl | rfl⟩ | ⟨-, rfl⟩ |
    ⟨-, rfl⟩ | rfl | ⟨-, rfl⟩
  case inl.inl => exact structural_bindDevice (by decide)
  case inr.inr.inr.inr.inl => exact ⟨nofun, nofun, by decide, nofun, nofun⟩
  all_goals exact structural_of_target_eq_none rfl (by decide) rfl

theorem regular_temporary : a.temporary.Regular a := by
  unfold temporary
  split
  · exact (by decide : "/tmp" ≠ "")
  · split
    · rename_i h
      exact structural_clear (by decide) h (.inl rfl)
    · exact .writable _

theorem regular_of_mem_services {s : Step} (hs : s ∈ a.services) : s.Regular a := by
  rw [mem_services] at hs
  split at hs
  · rcases hs with rfl | ⟨-, rfl⟩
    · exact (by decide : "/run" ≠ "")
    · exact regular_read _
  · rw [hs]
    exact regular_read _

theorem regular_of_mem_systemLayout {s : Step} (hs : s ∈ a.systemLayout) : s.Regular a := by
  rcases mem_systemLayout.mp hs with ⟨-, rfl⟩ | ⟨e, he, rfl⟩ | ⟨path, -, rfl⟩ | ⟨e, he, rfl⟩ |
    rfl | rfl | rfl | hs | rfl
  · exact structural_maskFile (by decide)
  · exact regular_hideOrRead e.1 ((by decide : ∀ e ∈ programDirectories, e.2 ≠ "") e he)
  · exact regular_read path
  · exact structural_symlink e.1 ((by decide : ∀ e ∈ rootLinks, e.2 ≠ "") e he)
  · exact regular_hideOrRead _ (by decide)
  · exact regular_temporary
  · exact regular_hideOrRead _ (by decide)
  · exact regular_of_mem_services hs
  · exact regular_hideOrRead _ (by decide)

theorem regular_of_mem_runtimeSockets {s : Step} (hs : s ∈ a.runtimeSockets) : s.Regular a := by
  obtain ⟨hr, rfl | ⟨e, -, -, rfl⟩ | ⟨-, rfl⟩ | ⟨name, -, rfl⟩⟩ := mem_runtimeSockets.mp hs
  · exact regular_hideOrRead _ hr
  · exact regular_read _
  · exact regular_write _
  · exact regular_entry regular_read _ name

theorem regular_of_mem_deviceGrants {met names : List String} {s : Step}
    (hs : s ∈ deviceGrants met names) : s.Regular a := by
  obtain ⟨name, -, rfl | ⟨path, -, rfl⟩⟩ := mem_deviceGrants hs
  · trivial
  · exact .device path

theorem regular_of_mem_devices {s : Step} (hs : s ∈ a.devices) : s.Regular a := by
  rcases mem_devices.mp hs with rfl | ⟨-, rfl⟩ | hs
  · split
    · exact ⟨nofun, nofun, by decide, nofun, nofun⟩
    · exact structural_bindDevice (by decide)
  · exact (by decide : sharedMemory ≠ "")
  · exact regular_of_mem_deviceGrants hs

theorem regular_homeBase (h : a.settings.home ≠ "") : a.homeBase.Regular a := by
  unfold homeBase
  split
  · rename_i he
    split
    · exact regular_read _
    · exact structural_clear h he (.inr rfl)
  · split
    · exact regular_read _
    · exact .writable _

theorem regular_of_mem_homeDirectory {s : Step} (hs : s ∈ a.homeDirectory) : s.Regular a := by
  obtain ⟨hh, rfl | ⟨-, rfl⟩ | ⟨name, -, rfl⟩⟩ := mem_homeDirectory.mp hs
  · exact regular_homeBase hh
  · exact regular_write _
  · exact regular_entry regular_write _ name

theorem regular_of_mem_x11 {s : Step} (hs : s ∈ a.x11) : s.Regular a := by
  rw [mem_x11] at hs
  split at hs
  · rcases hs with ⟨-, rfl⟩ | rfl
    · exact regular_read _
    · exact regular_read _
  · rcases hs with rfl | rfl | ⟨hk, rfl⟩ | rfl
    · exact structural_of_target_eq_none rfl (by decide) rfl
    · exact structural_of_target_eq_none rfl (by decide) rfl
    · exact structural_maskFile hk
    · exact (by decide : x11SocketDir ≠ "")

theorem regular_of_mem_wayland {s : Step} (hs : s ∈ a.wayland) : s.Regular a := by
  rw [mem_wayland] at hs
  split at hs
  · rw [hs.2]
    exact regular_read _
  · rcases hs with rfl | ⟨-, rfl⟩
    · exact structural_of_target_eq_none rfl (by decide) rfl
    · exact structural_maskFile (Path.join_ne_empty (by decide))

theorem regular_of_mem_messageBus {s : Step} (hs : s ∈ a.messageBus) : s.Regular a := by
  obtain ⟨-, rfl | ⟨-, rfl⟩⟩ := mem_messageBus.mp hs
  · exact regular_read _
  · exact regular_read _

/-- The steps of all rules are regular. -/
theorem regular_of_mem_steps {s : Step} (hs : s ∈ a.steps) : s.Regular a := by
  simp only [steps, systemDirectories, displays, List.mem_append, mem_map_iff] at hs
  rcases hs with (((((hs | hs | ⟨path, -, rfl⟩) | hs) | hs) | hs) | hs | hs) | hs
  · exact regular_of_mem_namespaces hs
  · exact regular_of_mem_systemLayout hs
  · exact regular_read path
  · exact regular_of_mem_runtimeSockets hs
  · exact regular_of_mem_devices hs
  · exact regular_of_mem_homeDirectory hs
  · exact regular_of_mem_x11 hs
  · exact regular_of_mem_wayland hs
  · exact regular_of_mem_messageBus hs

end Access

/-! ## What regular steps add to the content -/

namespace Step

variable {a : Access} {host : Host} {s : Step} {d : Directive}

theorem Regular.kind_open (hs : s.Regular a) (hd : d ∈ s.directives host) :
    d.kind ≠ .lock ∧ d.kind ≠ .terminator := by
  rcases mem_directives.mp hd with rfl | ⟨path, rfl, rfl⟩ | ⟨rfl, -⟩
  · exact ⟨hs.not_lock, hs.not_terminator⟩
  · exact ⟨nofun, nofun⟩
  · cases hs <;> exact ⟨nofun, nofun⟩

/-- Nothing is mounted at the empty path: a grant of it is never admitted. -/
theorem Regular.target_ne (hs : s.Regular a) (hd : d ∈ s.directives host) :
    d.target ≠ some "" := by
  rcases mem_directives.mp hd with rfl | ⟨path, rfl, rfl⟩ | ⟨rfl, ha⟩
  · exact hs.target_ne
  · exact fun h => hs (Option.some.inj h)
  · intro h
    rw [← Directive.Optional.source_eq_target hs] at h
    simp [Directive.admitted, Directive.Optional.isGrant hs, Directive.onHost, h] at ha

/-- A directory is cleared by a step of its own, or where changes are thrown away. -/
theorem Regular.of_clear (hs : s.Regular a) (hd : d ∈ s.directives host)
    (hk : d.kind = .clear) :
    (∃ path, s = .clear path ∧ d = .clear (some path)) ∨ a.context.ephemeral = true ∧
      (d = .clear (some "/tmp") ∨ d = .clear (some a.settings.home)) := by
  rcases mem_directives.mp hd with rfl | h | ⟨rfl, -⟩
  · exact .inr (hs.of_clear hk)
  · exact .inl h
  · cases hs <;> cases hk

end Step
end Cloister
