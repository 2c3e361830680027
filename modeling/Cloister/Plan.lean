import Cloister.Access.Program
import Cloister.Bubblewrap.Words
import Cloister.Invocation

/-! # Launch plans

* `Plan`: everything that the confinement program is told.
* `Plan.readWith`, `Plan.read`: a plan from a value, by any readers and by those of the library.
* `Plan.command`: the words of its command line. The first is the path of the confined program, so
  that the program goes by its own name.
* `Plan.build`: the plan of an invocation.
-/

namespace Cloister
set_option autoImplicit false

/-- Everything that the confinement program is told. -/
structure Plan where
  directives : List Directive
  program : String
  target : String
  arguments : List String
  deriving DecidableEq, Repr

namespace Plan

def readWith (r : Checked.Readers) (fields : List (String × Datum)) : Checked Plan :=
  (((Checked.app (.ok Plan.mk)
    (Checked.field fields "directives" none
      (Checked.items (Checked.object (Directive.readWith r))))).app
    (Checked.field fields "exec_path" none r.text)).app
    (Checked.field fields "exec_target" none r.text)).app
    (Checked.field fields "arguments" (some []) (Checked.items r.text))

def read : List (String × Datum) → Checked Plan := readWith Checked.library

def command (p : Plan) : List Bubblewrap.Word :=
  some p.program :: Bubblewrap.wordsAll p.directives ++ some p.target :: p.arguments.map some

def ofInvocation (i : Invocation) (s : Settings) (host : Host) : Plan × List Notice :=
  let program := i.program s.programDir
  let compiled := compile s host program
  (⟨compiled.directives, program, i.target, i.arguments⟩, compiled.notices)

/-- The plan of a command line, with the notices on the way to it. -/
def build (argv : List String) (s : Settings) (host : Host) :
    Except Invocation.Refusal (Plan × List Notice) :=
  (Invocation.parse argv).map fun i => ofInvocation i s host

end Plan
end Cloister
