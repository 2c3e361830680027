import Cloister.Policy.Resolution
import Mathlib.Logic.Function.Basic

/-! # Names and denials

The permissive switch is named like the denial of the strict one. Apart from that no token can be
read in two ways.

* `Capability.name_injective`, `Capability.denial_injective`: a token names one capability.
* `Capability.name_ne_denial`: only the permissive switch has the name of a denial.
* `TokenSet.stated_congr`: what is said of a name depends on two tokens only.
-/

namespace Cloister
set_option autoImplicit false

namespace Capability

theorem name_injective : Function.Injective name := by
  have h : ∀ c ∈ all, ∀ d ∈ all, c.name = d.name → c = d := by decide
  exact fun c d => h c c.mem_all d d.mem_all

theorem denial_injective : Function.Injective denial := by
  intro c d h
  have hl : "no".toList ++ c.name.toList = "no".toList ++ d.name.toList := by
    rw [← String.toList_append, ← String.toList_append]
    exact congrArg String.toList h
  exact name_injective (String.toList_inj.mp (List.append_cancel_left hl))

theorem denial_sandbox : sandbox.denial = noSandbox.name := by decide

theorem name_ne_denial {c : Capability} (hc : c ≠ noSandbox) (d : Capability) :
    c.name ≠ d.denial := by
  have h : ∀ c ∈ all, c ≠ noSandbox → ∀ d ∈ all, c.name ≠ d.denial := by decide
  exact h c c.mem_all hc d d.mem_all

/-- The capabilities that are judged one by one. -/
def single : List Capability := restrictions ++ grants

theorem ne_switch_of_mem_single {c : Capability} (hc : c ∈ single) :
    c ≠ sandbox ∧ c ≠ noSandbox := by
  have h : ∀ c ∈ single, c ≠ sandbox ∧ c ≠ noSandbox := by decide
  exact h c hc

theorem restriction_ne_grant {c d : Capability} (hc : c ∈ restrictions) (hd : d ∈ grants) :
    c ≠ d := by
  have h : ∀ c ∈ restrictions, ∀ d ∈ grants, c ≠ d := by decide
  exact h c hc d hd

end Capability

namespace TokenSet

variable {t u : TokenSet}

theorem stated_congr {n : String} (hd : "no" ++ n ∈ t ↔ "no" ++ n ∈ u) (hn : n ∈ t ↔ n ∈ u) :
    t.stated n = u.stated n := by
  simp only [stated, hd, hn]

theorem strict_eq_true_iff : t.strict = true ↔ Capability.sandbox.name ∈ t := decide_eq_true_iff

theorem strict_eq_false_iff : t.strict = false ↔ Capability.sandbox.name ∉ t :=
  decide_eq_false_iff_not

theorem permissive_eq_true_iff : t.permissive = true ↔ Capability.noSandbox.name ∈ t :=
  decide_eq_true_iff

theorem permissive_eq_false_iff : t.permissive = false ↔ Capability.noSandbox.name ∉ t :=
  decide_eq_false_iff_not

end TokenSet
end Cloister
