import Cloister.Policy.Capability
import Cloister.Policy.TokenSet

/-! # What a token set says about a capability

A denial is stronger than the capability's own token, which is stronger than the global switches,
which are stronger than the default: restrictions hold and grants do not. Each capability is judged
by itself; a switch takes no other token back.

* `TokenSet.stated`: what the tokens say of a name, before switches and defaults.
* `TokenSet.strict`, `TokenSet.permissive`: the two global switches.
* `TokenSet.restricts`, `TokenSet.allows`: whether a restriction holds, whether a grant is given.
-/

namespace Cloister
set_option autoImplicit false

/-- What a token set says of one capability, before switches and defaults. -/
inductive Statement where
  | enabled
  | disabled
  | silent
  deriving DecidableEq, Repr

def Statement.name : Statement → String
  | enabled => "enabled"
  | disabled => "disabled"
  | silent => "default"

namespace TokenSet

def strict (t : TokenSet) : Bool := decide (Capability.sandbox.name ∈ t)

def permissive (t : TokenSet) : Bool := decide (Capability.noSandbox.name ∈ t)

/-- What the tokens say of a name: a denial wins over the name itself. -/
def stated (t : TokenSet) (name : String) : Statement :=
  if "no" ++ name ∈ t then .disabled
  else if name ∈ t then .enabled
  else .silent

/-- A restriction holds if it is enabled; if nothing is said of it, it holds in strict mode and
wherever the permissive switch is not set. -/
def restrictsName (t : TokenSet) (name : String) : Bool :=
  match t.stated name with
  | .disabled => false
  | .enabled => true
  | .silent => t.strict || !t.permissive

/-- A grant is given if it is enabled, and never in strict mode. -/
def allowsName (t : TokenSet) (name : String) : Bool :=
  !t.strict && t.stated name == .enabled

def restricts (t : TokenSet) (c : Capability) : Bool := t.restrictsName c.name

def allows (t : TokenSet) (c : Capability) : Bool := t.allowsName c.name

theorem stated_eq_disabled_iff {t : TokenSet} {n : String} :
    t.stated n = .disabled ↔ "no" ++ n ∈ t := by
  unfold stated
  split
  · simp_all
  · split <;> simp_all

theorem stated_eq_enabled_iff {t : TokenSet} {n : String} :
    t.stated n = .enabled ↔ "no" ++ n ∉ t ∧ n ∈ t := by
  unfold stated
  split
  · simp_all
  · split <;> simp_all

theorem restrictsName_eq_true_iff {t : TokenSet} {n : String} :
    t.restrictsName n = true ↔
      "no" ++ n ∉ t ∧ (n ∈ t ∨ t.strict = true ∨ t.permissive = false) := by
  unfold restrictsName stated
  split <;> rename_i h <;> revert h <;> (split; · simp_all) <;> split <;> simp_all

theorem allowsName_eq_true_iff {t : TokenSet} {n : String} :
    t.allowsName n = true ↔ t.strict = false ∧ "no" ++ n ∉ t ∧ n ∈ t := by
  simp [allowsName, stated_eq_enabled_iff]

end TokenSet
end Cloister
