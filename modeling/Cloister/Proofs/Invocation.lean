import Cloister.Invocation

/-! # Which command lines are invocations

* `Invocation.parse_eq_ok_iff`: a selector that is known, a target that is not empty, and any
  arguments.
-/

namespace Cloister.Invocation
set_option autoImplicit false

theorem selected?_eq_none {selector : String} (h : selector = "" ∨ selector ∈ helpSelectors) :
    selected? selector = none := by
  simp only [helpSelectors, List.mem_cons, List.not_mem_nil, or_false] at h
  rcases h with rfl | rfl | rfl <;> rfl

theorem parse_eq_ok_iff {argv : List String} {i : Invocation} :
    parse argv = .ok i ↔ ∃ selector, argv = selector :: i.target :: i.arguments ∧
      selected? selector = some i.kind ∧ i.target ≠ "" := by
  constructor
  · intro h
    unfold parse at h
    split at h
    · cases h
    split at h
    · cases h
    split at h
    · cases h
    split at h
    · cases h
    rename_i hfilled
    split at h
    · rename_i kind hkind
      cases h
      exact ⟨_, rfl, hkind, fun ht => hfilled (.inr ht)⟩
    · cases h
  · rintro ⟨selector, rfl, hkind, htarget⟩
    have hknown (hs : selector = "" ∨ selector ∈ helpSelectors) : False := by
      rw [selected?_eq_none hs] at hkind
      cases hkind
    have hhelp : selector ∉ helpSelectors := fun hs => hknown (.inr hs)
    have hfilled : ¬ (selector = "" ∨ i.target = "") := fun hs =>
      hs.elim (fun hs => hknown (.inl hs)) htarget
    simp only [parse, if_neg hhelp, if_neg hfilled, hkind]

end Cloister.Invocation
