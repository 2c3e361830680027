import Cloister.Directive.Reader
import Cloister.Draft
import Cloister.Notice

/-! # Steps of a compilation

The rules of access are written down as steps, without a look at the host; the host is consulted
when the steps are carried out.

* `Host`: which paths exist.
* `Step`: the kinds of steps.
* `Directive.admitted`: a grant without its source on the host is left out.
* `Step.directives`, `Step.notices`: what one step adds to the content and to the notices.
* `Draft.carryOut`: a draft after one more step.
-/

namespace Cloister
set_option autoImplicit false

/-- Which paths exist on the host. -/
abbrev Host := String → Bool

/-- Whether the source of a directive is on the host; no source and an empty one are not. -/
def Directive.onHost (host : Host) (d : Directive) : Bool :=
  match d.source with
  | some path => path != "" && host path
  | none => false

/-- Whether a directive is kept: only a grant needs its source on the host. -/
def Directive.admitted (host : Host) (d : Directive) : Bool := !d.isGrant || d.onHost host

/-- The notice of a directive that is not kept. -/
def Directive.skipNotice (d : Directive) : Notice := .skipped d.kind d.source

def Directive.Loose.admitted (host : Host) (l : Directive.Loose) : Bool :=
  !l.isGrant || (l.source.isTruthy && host l.source.plain)

/-- The complaint about a loose directive that is not kept: for want of a known operation there is
no notice of it. -/
def Directive.Loose.untoldMessage (l : Directive.Loose) : String :=
  "'" ++ l.word.typeName ++ "' object has no attribute 'value'"

/-- A step of a compilation. -/
inductive Step where
  /-- A directive in any case. -/
  | emit (d : Directive)
  /-- A directory that is cleared now and locked in the end. -/
  | clear (path : String)
  /-- A directive that is kept only if its source is on the host. -/
  | grant (d : Directive)
  /-- An entry that leads out of its base directory. -/
  | refuse (base entry : String)
  deriving DecidableEq, Repr

namespace Step

def directives (host : Host) : Step → List Directive
  | emit d => [d]
  | clear path => [.clear (some path)]
  | grant d => if d.admitted host then [d] else []
  | refuse _ _ => []

def notices (host : Host) : Step → List Notice
  | emit _ => []
  | clear _ => []
  | grant d => if d.admitted host then [] else [d.skipNotice]
  | refuse base entry => [.outside base entry]

def locks : Step → List (Option String)
  | clear path => [some path]
  | _ => []

/-- A step that shows a path for reading only. -/
def read (path : String) : Step := grant (.bindReadOnly path)

/-- A step that shows a path for writing, or for reading only if changes are thrown away. -/
def write (ephemeral : Bool) (path : String) : Step :=
  grant (if ephemeral then .bindReadOnly path else .bindWritable path)

end Step

def Draft.carryOut (host : Host) (d : Draft) : Step → Draft
  | .emit x => d.emit x
  | .clear path => d.clear (some path)
  | .grant x => if x.admitted host then d.emit x else d
  | .refuse _ _ => d

theorem Draft.content_carryOut (host : Host) (d : Draft) (s : Step) :
    (d.carryOut host s).content = d.content ++ s.directives host := by
  cases s with
  | grant x => simp only [carryOut, Step.directives]; split <;> simp
  | _ => simp [carryOut, Step.directives]

theorem Draft.locked_carryOut (host : Host) (d : Draft) (s : Step) :
    (d.carryOut host s).locked = d.locked.insertAll s.locks := by
  cases s with
  | grant x => simp only [carryOut]; split <;> rfl
  | _ => rfl

/-- The content of a draft after several steps. -/
theorem Draft.content_foldl_carryOut (host : Host) (d : Draft) (steps : List Step) :
    (steps.foldl (carryOut host) d).content = d.content ++ steps.flatMap (Step.directives host) := by
  induction steps generalizing d with
  | nil => simp
  | cons s ss ih => simp [ih, content_carryOut]

/-- The directories that a draft locks after several steps. -/
theorem Draft.locked_foldl_carryOut (host : Host) (d : Draft) (steps : List Step) :
    (steps.foldl (carryOut host) d).locked = d.locked.insertAll (steps.flatMap Step.locks) := by
  induction steps generalizing d with
  | nil => rfl
  | cons s ss ih =>
    rw [List.foldl_cons, ih, locked_carryOut, List.flatMap_cons]
    simp [Distinct.insertAll, List.foldl_append]

end Cloister
