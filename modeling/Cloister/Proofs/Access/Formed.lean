import Cloister.Proofs.Access.Emitted
import Cloister.Proofs.Access.Phases
import Cloister.Proofs.Directive.Formed

/-! # Compiled lists are made of forms

* `Access.Emitted.formed`, `Directive.Optional.formed`: what the rules emit and grant are directives
  of forms.
* `Access.exists_compile_eq_append`: a compiled list is made of directives of forms, of which only
  the last one is the end.
-/

namespace Cloister
set_option autoImplicit false

theorem Access.Emitted.formed {a : Access} {d : Directive} (h : a.Emitted d) : d.Formed := by
  cases h <;> constructor

theorem Directive.Optional.formed {d : Directive} (h : d.Optional) : d.Formed := by
  cases h <;> constructor

namespace Access

variable {a : Access} {host : Host} {path : String} {d : Directive}

theorem formed_of_mem_content (hd : d ∈ a.content host) : d.Formed := by
  obtain ⟨s, hs, hd⟩ := List.mem_flatMap.mp hd
  rcases Step.mem_directives.mp hd with rfl | ⟨place, -, rfl⟩ | ⟨rfl, -⟩
  · exact (emitted_of_mem_steps hs).formed
  · exact .clear place
  · exact (show d.Optional from regular_of_mem_steps hs).formed

/-- A compiled list ends with the end, and no directive ahead of it is the end. -/
theorem exists_compile_eq_append (a : Access) (host : Host) (path : String) :
    ∃ front, (a.compile host path).directives = front ++ [.terminator] ∧
      ∀ d ∈ front, d.Formed ∧ d ≠ .terminator := by
  refine ⟨_, a.directives_compile host path, ?_⟩
  intro d hd
  rcases List.mem_append.mp hd with hd | hd
  · rcases List.mem_append.mp hd with hd | hd
    · refine ⟨formed_of_mem_content hd, ?_⟩
      rintro rfl
      exact ((twoPhases a host).content_open _ hd).2 rfl
    · rw [toList_program] at hd
      split at hd
      · rw [List.mem_singleton.mp hd]
        exact ⟨.bindReadOnly path, nofun⟩
      · cases hd
  · obtain ⟨p, -, rfl⟩ := List.mem_map.mp hd
    exact ⟨.lock p, nofun⟩

end Access
end Cloister
