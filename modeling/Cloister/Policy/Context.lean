import Cloister.Policy.Display
import Cloister.Policy.Resolution

/-! # The surroundings of a policy

* `Context`: the switches, whether changes are thrown away at the end, and the display selection.
* `Context.ofTokens`: the context that a token set asks for.
-/

namespace Cloister
set_option autoImplicit false

/-- What the rules look at besides single capabilities. -/
structure Context where
  strict : Bool
  permissive : Bool
  ephemeral : Bool
  display : DisplaySelection
  deriving DecidableEq, Repr

def Context.ofTokens (t : TokenSet) (display : DisplaySelection) : Context where
  strict := t.strict
  permissive := t.permissive
  ephemeral := t.allows .ephemeral
  display := display

end Cloister
