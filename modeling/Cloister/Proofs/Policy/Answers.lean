import Cloister.Proofs.Policy.Alteration

/-! # Token sets with the same answers

The rules ask a token set whether each restriction holds and each grant is given, whether the
permissive switch is set, and whether the protection of the home directory is asked for by name. All
of that is settled by a fixed list of words.

* `TokenSet.AnswersAlike`: two token sets answer every question of the rules in the same way.
* `Capability.vocabulary`: the words that the answers depend on.
* `TokenSet.AnswersAlike.of_vocabulary`: token sets with the same of these words answer alike.
* `TokenSet.AgreeBeside.answersAlike_of_denied`, `TokenSet.AgreeBeside.answersAlike_of_refused`: so do
  token sets that differ in the tokens of one capability only, if both deny it or both refuse it.
-/

namespace Cloister
set_option autoImplicit false

/-- The words that the rules know: the switches, and the name and the denial of each other
capability. -/
def Capability.vocabulary : List String :=
  switches.map name ++ single.flatMap fun c => [c.name, c.denial]

namespace TokenSet

variable {t u : TokenSet} {c : Capability}

/-- Two token sets answer every question of the rules in the same way. -/
structure AnswersAlike (t u : TokenSet) : Prop where
  permissive : t.permissive = u.permissive
  restricts : ∀ c ∈ Capability.restrictions, t.restricts c = u.restricts c
  allows : ∀ c ∈ Capability.grants, t.allows c = u.allows c
  protectHome : t.stated Capability.protectHome.name = .enabled ↔
    u.stated Capability.protectHome.name = .enabled

theorem AnswersAlike.of_stated (hstrict : t.strict = u.strict)
    (hpermissive : t.permissive = u.permissive)
    (hsaid : ∀ c ∈ Capability.single, t.stated c.name = u.stated c.name) : AnswersAlike t u where
  permissive := hpermissive
  restricts c hc := restricts_congr (hsaid c (List.mem_append_left _ hc)) hstrict hpermissive
  allows c hc := allows_congr (hsaid c (List.mem_append_right _ hc)) hstrict
  protectHome := by rw [hsaid .protectHome (by decide)]

theorem AnswersAlike.of_vocabulary (h : ∀ v ∈ Capability.vocabulary, v ∈ t ↔ v ∈ u) :
    AnswersAlike t u := by
  have hword (c : Capability) (hc : c ∈ Capability.single) (v : String)
      (hv : v ∈ [c.name, c.denial]) : v ∈ t ↔ v ∈ u :=
    h v (List.mem_append_right _ (List.mem_flatMap.mpr ⟨c, hc, hv⟩))
  refine .of_stated (strict_congr (h _ (by decide))) (permissive_congr (h _ (by decide)))
    fun c hc => ?_
  exact stated_congr (hword c hc c.denial (by simp)) (hword c hc c.name (by simp))

namespace AgreeBeside

/-- Where a capability is denied, its own name says nothing. -/
theorem answersAlike_of_denied (h : AgreeBeside c t u) (hc : c ∈ Capability.single)
    (ht : c.denial ∈ t) (hu : c.denial ∈ u) : AnswersAlike t u := by
  have hswitch := (Capability.ne_switch_of_mem_single hc).1
  refine .of_stated (h.strict_eq hswitch.symm) (h.permissive_eq hc) fun d hd => ?_
  by_cases hdc : d = c
  · rw [hdc, stated_eq_disabled_iff.mpr ht, stated_eq_disabled_iff.mpr hu]
  · exact h.stated_eq hd hdc

theorem answersAlike_of_refused (h : AgreeBeside c t u) (hc : c ∈ Capability.grants)
    (ht : t.allows c = false) (hu : u.allows c = false) : AnswersAlike t u := by
  have hsingle : c ∈ Capability.single := List.mem_append_right _ hc
  have hstrict := h.strict_eq (Capability.ne_switch_of_mem_single hsingle).1.symm
  have hpermissive := h.permissive_eq hsingle
  have hrestriction (d : Capability) (hd : d ∈ Capability.restrictions) :
      t.stated d.name = u.stated d.name :=
    h.stated_eq (List.mem_append_left _ hd) (Capability.restriction_ne_grant hd hc)
  refine ⟨hpermissive, fun d hd => ?_, fun d hd => ?_, ?_⟩
  · exact restricts_congr (hrestriction d hd) hstrict hpermissive
  · by_cases hdc : d = c
    · rw [hdc, ht, hu]
    · exact allows_congr (h.stated_eq (List.mem_append_right _ hd) hdc) hstrict
  · rw [hrestriction .protectHome (by decide)]

end AgreeBeside
end TokenSet
end Cloister
