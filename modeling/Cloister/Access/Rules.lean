import Cloister.Access.Step
import Cloister.Policy.Context

/-! # What the rules look at

* `Access`: the tokens, the context and the settings that a compilation starts from.
* `Access.ofSettings`: the tokens and the context that the settings ask for.
* `Access.hideOrRead`: the rule that most system directories follow.
* `Access.entry`: an entry of a list, placed beneath its base directory or refused.
-/

namespace Cloister
set_option autoImplicit false

/-- The tokens, the context and the settings that a compilation starts from. -/
structure Access where
  tokens : TokenSet
  context : Context
  settings : Settings

namespace Access

def ofSettings (s : Settings) : Access where
  tokens := s.tokens
  context := .ofTokens s.tokens (.choose (some s.displayChoice) (some s.sessionType))
  settings := s

@[simp] theorem tokens_ofSettings (s : Settings) : (ofSettings s).tokens = s.tokens := by
  rw [ofSettings]

def only (condition : Bool) (steps : List Step) : List Step := if condition then steps else []

/-- A directory is cleared if its restriction holds, and shown for reading otherwise. -/
def hideOrRead (a : Access) (restriction : Capability) (path : String) : Step :=
  if a.tokens.restricts restriction then .clear path else .read path

/-- Shows a path for writing, unless changes are thrown away. -/
def write (a : Access) (path : String) : Step := .write a.context.ephemeral path

/-- An entry of a list: the step of its place beneath the base, or its refusal. -/
def entry (base name : String) (place : String → Step) : Step :=
  match Path.beneath base name with
  | some path => place path
  | none => .refuse base name

end Access
end Cloister
