import Cloister.Proofs.Access.Agreement
import Cloister.Proofs.Access.Emitted

/-! # What is required

Of all directives only two fail where their source is missing: the root of the host, and its device
directory.

* `Access.eq_of_required`: there are no others.
* `Access.hostRoot_mem_compile`: when the root of the host is shown.
-/

namespace Cloister.Access
set_option autoImplicit false

variable {a : Access} {d : Directive}

theorem eq_of_required (hs : .emit d ∈ a.steps) (hr : d.required = true) :
    a.context.permissive = true ∧ d = hostRoot ∨
      a.tokens.restricts .hideDevices = false ∧ d = .bindDevice deviceDir true := by
  cases emitted_of_mem_steps hs with
  | root hp => exact .inl ⟨hp, rfl⟩
  | devices hd => exact .inr ⟨hd, rfl⟩
  | _ => cases hr

theorem emit_hostRoot_mem_steps : .emit hostRoot ∈ a.steps ↔ a.context.permissive = true := by
  constructor
  · intro hs
    rcases eq_of_required hs rfl with ⟨hp, -⟩ | ⟨-, h⟩
    · exact hp
    · exact absurd h (by decide)
  · intro hp
    rw [steps_eq_closed, hp]
    exact List.mem_append_left _ (List.mem_singleton_self _)

theorem hostRoot_mem_compile {host : Host} {path : String} :
    hostRoot ∈ (a.compile host path).directives ↔ a.context.permissive = true := by
  have hcontent : hostRoot ∈ a.content host ↔ .emit hostRoot ∈ a.steps := by
    constructor
    · intro h
      obtain ⟨s, hs, hd⟩ := List.mem_flatMap.mp h
      rcases Step.mem_directives.mp hd with rfl | ⟨path, -, h⟩ | ⟨rfl, -⟩
      · exact hs
      · cases h
      · exact nomatch (show hostRoot.Optional from regular_of_mem_steps hs)
    · exact fun hs => List.mem_flatMap.mpr ⟨_, hs, List.mem_singleton_self _⟩
  have hprogram : hostRoot ∉ (program host path).toList := by
    rw [toList_program]
    split <;> simp [hostRoot, Directive.bindDevice, Directive.bindReadOnly]
  have hlocks : hostRoot ∉ a.locked.toList.map fun p => .lock (some p) := by
    simp [hostRoot, Directive.bindDevice, Directive.lock]
  have hend : hostRoot ∉ [Directive.terminator] := by decide
  rw [← emit_hostRoot_mem_steps, ← hcontent, directives_compile]
  simp only [List.mem_append, hprogram, hlocks, hend, or_false]

end Cloister.Access
