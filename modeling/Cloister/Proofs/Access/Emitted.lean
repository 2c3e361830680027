import Cloister.Proofs.Access.Member

/-! # What is emitted in any case

Most of what the rules show depends on the host. The rest is emitted in any case.

* `Access.Emitted`: the directives that are emitted whatever is on the host.
* `Access.emitted_of_mem_steps`: the rules emit no others.
-/

namespace Cloister.Access
set_option autoImplicit false

/-- The directives that the rules emit whatever is on the host. -/
inductive Emitted (a : Access) : Directive → Prop
  | root : a.context.permissive = true → Emitted a (.bindDevice "/" true)
  | dropCapability (capability : String) : Emitted a (.dropCapability capability)
  | unshare (namespaceName : String) : Emitted a (.unshare namespaceName)
  | setHostname (name : String) : Emitted a (.setHostname name)
  | newSession : Emitted a .newSession
  | mountProc (path : String) : Emitted a (.mountProc path)
  | maskFile (path : String) : Emitted a (.maskFile path)
  | symlink {source target : String} :
    (source, target) ∈ rootLinks → Emitted a (.symlink source target)
  | clear (path : String) : Emitted a (.clear (some path))
  | minimalDev (path : String) : Emitted a (.minimalDev path)
  | devices : a.tokens.restricts .hideDevices = false → Emitted a (.bindDevice deviceDir true)
  | unsetVariable (name : String) : Emitted a (.unsetVariable name)

variable {a : Access} {d : Directive}

theorem emit_ne_hideOrRead (c : Capability) (path : String) : .emit d ≠ a.hideOrRead c path := by
  unfold hideOrRead
  split <;> nofun

theorem emit_ne_entry {base name : String} {place : String → Step}
    (h : ∀ path, .emit d ≠ place path) : .emit d ≠ entry base name place :=
  entry_cases (fun path _ => h path) nofun

theorem emit_ne_write (path : String) : .emit d ≠ a.write path := nofun

/-! ## Each group of rules -/

theorem emitted_of_mem_namespaces (hs : .emit d ∈ a.namespaces) : a.Emitted d := by
  rcases mem_namespaces.mp hs with (⟨hp, h⟩ | h | h | h) | ⟨-, h | h⟩ | ⟨-, h⟩ | ⟨-, h⟩ | h |
    ⟨-, h⟩ <;> cases h
  · exact .root hp
  · exact .dropCapability _
  · exact .unshare _
  · exact .unshare _
  · exact .unshare _
  · exact .setHostname _
  · exact .unshare _
  · exact .newSession
  · exact .mountProc _
  · exact .unshare _

theorem emitted_of_eq_temporary (h : .emit d = a.temporary) : a.Emitted d := by
  unfold temporary at h
  split at h
  · cases h
  · split at h <;> cases h
    exact .clear _

theorem emit_notMem_services : .emit d ∉ a.services := by
  rw [mem_services]
  split <;> simp [Step.read]

theorem emitted_of_mem_systemDirectories (hs : .emit d ∈ a.systemDirectories) : a.Emitted d := by
  rcases List.mem_append.mp hs with hs | hs
  · rcases mem_systemLayout.mp hs with ⟨-, h⟩ | ⟨e, -, h⟩ | ⟨path, -, h⟩ | ⟨e, he, h⟩ | h | h | h |
      h | h
    · cases h
      exact .maskFile _
    · exact absurd h (emit_ne_hideOrRead _ _)
    · cases h
    · cases h
      exact .symlink he
    · exact absurd h (emit_ne_hideOrRead _ _)
    · exact emitted_of_eq_temporary h
    · exact absurd h (emit_ne_hideOrRead _ _)
    · exact absurd h emit_notMem_services
    · exact absurd h (emit_ne_hideOrRead _ _)
  · obtain ⟨path, -, h⟩ := mem_map_iff.mp hs
    cases h

theorem emit_notMem_runtimeSockets : .emit d ∉ a.runtimeSockets := by
  intro hs
  obtain ⟨-, h | ⟨e, -, -, h⟩ | ⟨-, h⟩ | ⟨name, -, h⟩⟩ := mem_runtimeSockets.mp hs
  · exact emit_ne_hideOrRead _ _ h
  · cases h
  · exact emit_ne_write _ h
  · have hread (path : String) : .emit d ≠ Step.read path := nofun
    exact emit_ne_entry hread h

theorem emitted_of_mem_devices (hs : .emit d ∈ a.devices) : a.Emitted d := by
  rcases mem_devices.mp hs with h | ⟨-, h⟩ | h
  · split at h
    · cases h
      exact .minimalDev _
    · rename_i hd
      cases h
      exact .devices (Bool.not_eq_true _ ▸ hd)
  · cases h
  · obtain ⟨name, -, h | ⟨path, -, h⟩⟩ := mem_deviceGrants h <;> cases h

theorem emitted_of_mem_homeDirectory (hs : .emit d ∈ a.homeDirectory) : a.Emitted d := by
  obtain ⟨-, h | ⟨-, h⟩ | ⟨name, -, h⟩⟩ := mem_homeDirectory.mp hs
  · unfold homeBase at h
    split at h
    · split at h <;> cases h
      exact .clear _
    · split at h <;> cases h
  · exact absurd h (emit_ne_write _)
  · exact absurd h (emit_ne_entry emit_ne_write)

theorem emitted_of_mem_displays (hs : .emit d ∈ a.displays) : a.Emitted d := by
  rcases List.mem_append.mp hs with hs | hs
  · rw [mem_x11] at hs
    split at hs
    · rcases hs with ⟨-, h⟩ | h <;> cases h
    · rcases hs with h | h | ⟨-, h⟩ | h <;> cases h
      · exact .unsetVariable _
      · exact .unsetVariable _
      · exact .maskFile _
  · rw [mem_wayland] at hs
    split at hs
    · cases hs.2
    · rcases hs with h | ⟨-, h⟩ <;> cases h
      · exact .unsetVariable _
      · exact .maskFile _

theorem emit_notMem_messageBus : .emit d ∉ a.messageBus := by
  intro hs
  obtain ⟨-, h | ⟨-, h⟩⟩ := mem_messageBus.mp hs <;> cases h

/-! ## All rules -/

theorem emitted_of_mem_steps (hs : .emit d ∈ a.steps) : a.Emitted d := by
  simp only [steps, List.mem_append] at hs
  rcases hs with (((((hs | hs) | hs) | hs) | hs) | hs) | hs
  · exact emitted_of_mem_namespaces hs
  · exact emitted_of_mem_systemDirectories hs
  · exact absurd hs emit_notMem_runtimeSockets
  · exact emitted_of_mem_devices hs
  · exact emitted_of_mem_homeDirectory hs
  · exact emitted_of_mem_displays hs
  · exact absurd hs emit_notMem_messageBus

end Cloister.Access
