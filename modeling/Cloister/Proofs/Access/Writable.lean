import Cloister.Proofs.Access.Required

/-! # What may be written

* `Access.Writable`: the paths of the host that the rules show for writing if changes are kept.
* `Access.share_mem_steps`: they show no others, and none at all if changes are thrown away.
* `Access.writable_mem_compile`: the same for compiled lists.
-/

namespace Cloister
set_option autoImplicit false

/-- A step that shows a path for writing. -/
def Step.share (path : String) : Step := .grant (.bindWritable path)

namespace Access

/-- The paths that are shown for writing, as long as changes are kept. -/
inductive Writable (a : Access) : String → Prop
  | temporary : a.tokens.restricts .hideTmp = false → Writable a "/tmp"
  | home : a.settings.home ≠ "" → a.tokens.restricts .protectHome = false →
      Writable a a.settings.home
  | dconf : a.settings.runtimeDir ≠ "" → a.tokens.allows .allowDconf = true →
      Writable a (a.runtimePath "dconf")
  | downloads : a.settings.home ≠ "" → a.tokens.allows .allowDownloads = true →
      Writable a (Path.join a.settings.home downloads)
  | entry {name path : String} : a.settings.home ≠ "" → name ∈ a.settings.homeAccess →
      Path.beneath a.settings.home name = some path → Writable a path

variable {a : Access} {host : Host} {p : String}

theorem Writable.ne_empty (h : a.Writable p) : p ≠ "" := by
  cases h with
  | temporary => decide
  | home hh => exact hh
  | dconf => exact Path.join_ne_empty (by decide)
  | downloads => exact Path.join_ne_empty (by decide)
  | entry _ _ hp => exact Path.ne_empty_of_beneath hp

/-! ## Single steps -/

theorem share_eq_write {q : String} :
    .share p = a.write q ↔ a.context.ephemeral = false ∧ p = q := by
  rw [Step.share, write, Step.write]
  cases a.context.ephemeral <;> simp [Directive.bindWritable, Directive.bindReadOnly]

theorem share_ne_read (q : String) : .share p ≠ Step.read q := nofun

theorem share_ne_hideOrRead (c : Capability) (q : String) : .share p ≠ a.hideOrRead c q := by
  unfold hideOrRead
  split <;> nofun

theorem share_eq_temporary :
    .share p = a.temporary ↔
      a.context.ephemeral = false ∧ a.tokens.restricts .hideTmp = false ∧ p = "/tmp" := by
  rw [Step.share, temporary]
  cases a.tokens.restricts .hideTmp <;> cases a.context.ephemeral <;> simp [Directive.bindWritable]

theorem share_eq_homeBase :
    .share p = a.homeBase ↔
      a.context.ephemeral = false ∧ a.tokens.restricts .protectHome = false ∧
        p = a.settings.home := by
  rw [Step.share, homeBase]
  cases a.context.ephemeral with
  | true =>
    rw [if_pos rfl]
    split <;> simp [Step.read, Directive.bindWritable, Directive.bindReadOnly]
  | false =>
    cases a.tokens.restricts .protectHome <;>
      simp [Step.read, Directive.bindWritable, Directive.bindReadOnly]

theorem share_eq_entry {base name : String} :
    .share p = entry base name a.write ↔
      a.context.ephemeral = false ∧ Path.beneath base name = some p := by
  rw [entry]
  cases Path.beneath base name with
  | none =>
    constructor
    · intro h
      cases h
    · intro h
      cases h.2
  | some path =>
    rw [Option.some.injEq, eq_comm (a := path)]
    exact share_eq_write

/-! ## Each group of rules -/

theorem share_notMem_namespaces : .share p ∉ a.namespaces := by
  intro hs
  rcases mem_namespaces.mp hs with (⟨-, h⟩ | h | h | h) | ⟨-, h | h⟩ | ⟨-, h⟩ | ⟨-, h⟩ | h |
    ⟨-, h⟩ <;> cases h

theorem share_mem_systemDirectories :
    .share p ∈ a.systemDirectories ↔ .share p = a.temporary := by
  have hread : .share p ∉ a.settings.readAccess.map Step.read := by
    intro hs
    obtain ⟨path, -, h⟩ := mem_map_iff.mp hs
    exact share_ne_read path h
  have hservices : .share p ∉ a.services := by
    intro hs
    rw [mem_services] at hs
    split at hs
    · rcases hs with h | ⟨-, h⟩ <;> cases h
    · cases hs
  rw [systemDirectories, List.mem_append, mem_systemLayout]
  constructor
  · intro hs
    rcases hs.resolve_right hread with ⟨-, h⟩ | ⟨e, -, h⟩ | ⟨path, -, h⟩ | ⟨e, -, h⟩ | h | h | h |
      h | h
    case inr.inr.inr.inr.inr.inl => exact h
    case inl | inr.inr.inl | inr.inr.inr.inl => cases h
    case inr.inr.inr.inr.inr.inr.inr.inl => exact absurd h hservices
    all_goals exact absurd h (share_ne_hideOrRead _ _)
  · exact fun h => .inl (.inr (.inr (.inr (.inr (.inr (.inl h))))))

theorem share_mem_runtimeSockets :
    .share p ∈ a.runtimeSockets ↔
      a.settings.runtimeDir ≠ "" ∧ a.tokens.allows .allowDconf = true ∧
        .share p = a.write (a.runtimePath "dconf") := by
  rw [mem_runtimeSockets]
  constructor
  · rintro ⟨hr, h | ⟨e, -, -, h⟩ | ⟨hd, h⟩ | ⟨name, -, h⟩⟩
    · exact absurd h (share_ne_hideOrRead _ _)
    · cases h
    · exact ⟨hr, hd, h⟩
    · unfold entry at h
      split at h <;> cases h
  · exact fun ⟨hr, hd, h⟩ => ⟨hr, .inr (.inr (.inl ⟨hd, h⟩))⟩

theorem share_notMem_devices : .share p ∉ a.devices := by
  intro hs
  rcases mem_devices.mp hs with h | ⟨-, h⟩ | h
  · split at h <;> cases h
  · cases h
  · obtain ⟨name, -, h | ⟨path, -, h⟩⟩ := mem_deviceGrants h <;> cases h

theorem share_notMem_displays : .share p ∉ a.displays := by
  intro hs
  rcases List.mem_append.mp hs with hs | hs
  · rw [mem_x11] at hs
    split at hs
    · rcases hs with ⟨-, h⟩ | h <;> cases h
    · rcases hs with h | h | ⟨-, h⟩ | h <;> cases h
  · rw [mem_wayland] at hs
    split at hs
    · cases hs.2
    · rcases hs with h | ⟨-, h⟩ <;> cases h

theorem share_notMem_messageBus : .share p ∉ a.messageBus := by
  intro hs
  obtain ⟨-, h | ⟨-, h⟩⟩ := mem_messageBus.mp hs <;> cases h

/-! ## All rules -/

theorem share_mem_steps : .share p ∈ a.steps ↔ a.context.ephemeral = false ∧ a.Writable p := by
  have hsteps : .share p ∈ a.steps ↔
      .share p ∈ a.systemDirectories ∨ .share p ∈ a.runtimeSockets ∨
        .share p ∈ a.homeDirectory := by
    simp only [steps, List.mem_append, share_notMem_namespaces, share_notMem_devices,
      share_notMem_displays, share_notMem_messageBus, false_or, or_false, or_assoc]
  rw [hsteps, share_mem_systemDirectories, share_mem_runtimeSockets, mem_homeDirectory,
    share_eq_temporary, share_eq_homeBase]
  simp only [share_eq_write, share_eq_entry]
  constructor
  · rintro (⟨he, ht, rfl⟩ | ⟨hr, hd, he, rfl⟩ |
      ⟨hh, ⟨he, hp, rfl⟩ | ⟨hd, he, rfl⟩ | ⟨name, hname, he, hp⟩⟩)
    · exact ⟨he, .temporary ht⟩
    · exact ⟨he, .dconf hr hd⟩
    · exact ⟨he, .home hh hp⟩
    · exact ⟨he, .downloads hh hd⟩
    · exact ⟨he, .entry hh hname hp⟩
  · rintro ⟨he, hw⟩
    cases hw with
    | temporary ht => exact .inl ⟨he, ht, rfl⟩
    | home hh hp => exact .inr (.inr ⟨hh, .inl ⟨he, hp, rfl⟩⟩)
    | dconf hr hd => exact .inr (.inl ⟨hr, hd, he, rfl⟩)
    | downloads hh hd => exact .inr (.inr ⟨hh, .inr (.inl ⟨hd, he, rfl⟩)⟩)
    | entry hh hname hp => exact .inr (.inr ⟨hh, .inr (.inr ⟨_, hname, he, hp⟩)⟩)

/-! ## Compiled lists -/

theorem exists_share_of_mem_content {d : Directive} (hd : d ∈ a.content host)
    (hk : d.kind = .bindWritable) : ∃ p, .share p ∈ a.steps ∧ d = .bindWritable p := by
  obtain ⟨s, hs, hd⟩ := List.mem_flatMap.mp hd
  have hregular := regular_of_mem_steps hs
  rcases Step.mem_directives.mp hd with rfl | ⟨path, rfl, rfl⟩ | ⟨rfl, -⟩
  -- a grant that is emitted is required, and both of these are grants of devices
  · have hgrant : d.isGrant = true := by
      rw [Directive.isGrant, hk]
      rfl
    have hrequired : d.required = true := hregular.required_of_isGrant hgrant
    rcases eq_of_required hs hrequired with ⟨-, rfl⟩ | ⟨-, rfl⟩ <;> cases hk
  · cases hk
  · cases hregular with
    | writable path => exact ⟨path, hs, rfl⟩
    | readOnly | device => cases hk

theorem bindWritable_mem_content :
    .bindWritable p ∈ a.content host ↔ .share p ∈ a.steps ∧ host p = true := by
  have hadmitted : (Directive.bindWritable p).admitted host = (p != "" && host p) := rfl
  constructor
  · intro h
    obtain ⟨s, hs, hd⟩ := List.mem_flatMap.mp h
    rcases Step.mem_directives.mp hd with rfl | ⟨path, -, h⟩ | ⟨rfl, hp⟩
    · have hstructural : (Directive.bindWritable p).Structural a := regular_of_mem_steps hs
      cases hstructural.required_of_isGrant rfl
    · cases h
    · rw [hadmitted, Bool.and_eq_true] at hp
      exact ⟨hs, hp.2⟩
  · rintro ⟨hs, hp⟩
    have hne : p ≠ "" := (share_mem_steps.mp hs).2.ne_empty
    refine List.mem_flatMap.mpr ⟨_, hs, Step.mem_directives.mpr (.inr (.inr ⟨rfl, ?_⟩))⟩
    rw [hadmitted, hp, Bool.and_true, bne_iff_ne]
    exact hne

/-- What is shown for writing in a compiled list stands in its content. -/
theorem mem_content_of_writable {d : Directive} {path : String} (hk : d.kind = .bindWritable) :
    d ∈ (a.compile host path).directives ↔ d ∈ a.content host := by
  have hprogram : d ∉ (program host path).toList := by
    rw [toList_program]
    split
    · intro h
      rw [List.mem_singleton.mp h] at hk
      cases hk
    · exact List.not_mem_nil
  have hlocks : d ∉ a.locked.toList.map fun p => .lock (some p) := by
    intro h
    obtain ⟨p, -, rfl⟩ := List.mem_map.mp h
    cases hk
  have hend : d ∉ [Directive.terminator] := by
    intro h
    rw [List.mem_singleton.mp h] at hk
    cases hk
  rw [directives_compile]
  simp only [List.mem_append, hprogram, hlocks, hend, or_false]

theorem writable_mem_compile {d : Directive} {path : String} :
    d ∈ (a.compile host path).directives ∧ d.kind = .bindWritable ↔
      a.context.ephemeral = false ∧ ∃ p, a.Writable p ∧ host p = true ∧ d = .bindWritable p := by
  constructor
  · rintro ⟨hd, hk⟩
    rw [mem_content_of_writable hk] at hd
    obtain ⟨p, hs, rfl⟩ := exists_share_of_mem_content hd hk
    obtain ⟨he, hw⟩ := share_mem_steps.mp hs
    exact ⟨he, p, hw, (bindWritable_mem_content.mp hd).2, rfl⟩
  · rintro ⟨he, p, hw, hp, rfl⟩
    have hs : .share p ∈ a.steps := share_mem_steps.mpr ⟨he, hw⟩
    exact ⟨(mem_content_of_writable rfl).mpr (bindWritable_mem_content.mpr ⟨hs, hp⟩), rfl⟩

end Access
end Cloister
