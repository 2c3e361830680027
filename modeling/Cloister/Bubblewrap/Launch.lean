import Cloister.Plan

/-! # Launching the confinement program

* `Launch`: the program that is started, its words and its environment.
* `Launch.ofPlan`, `Launch.notice`: the launch of a plan, and how it is told.
-/

namespace Cloister
set_option autoImplicit false

/-- A program that takes over, with its words and its environment. -/
structure Launch where
  binary : String
  words : List Bubblewrap.Word
  environment : Environment
  deriving DecidableEq, Repr

namespace Launch

def ofPlan (p : Plan) (s : Settings) : Launch := ⟨s.backend, p.command, s.backendEnvironment⟩

def notice (l : Launch) : Notice := .executing l.binary l.words

end Launch
end Cloister
