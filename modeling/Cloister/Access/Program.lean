import Cloister.Access.Devices
import Cloister.Access.Home
import Cloister.Access.Session
import Cloister.Access.System

/-! # The complete list for a program

* `Access.steps`: the steps of all rules, in order.
* `Access.compile`: the list of directives that confines a program, with the notices on the way.
* `compile`: the same, for what the settings ask for.
-/

namespace Cloister
set_option autoImplicit false

/-- A list of directives and the notices that were given on the way to it. -/
structure Compiled where
  directives : List Directive
  notices : List Notice

namespace Access

/-- The steps of all rules, in order. -/
def steps (a : Access) : List Step :=
  a.namespaces ++ a.systemDirectories ++ a.runtimeSockets ++ a.devices ++ a.homeDirectory ++
    a.displays ++ a.messageBus

def draft (a : Access) (host : Host) : Draft := a.steps.foldl (Draft.carryOut host) (.start true)

/-- The program itself, which is shown whatever the rules say, if it is on the host. -/
def program (host : Host) (path : String) : Option Directive :=
  let d := Directive.bindReadOnly path
  if d.admitted host then some d else none

/-- The notice about a program that is not on the host. -/
def programNotices (host : Host) (path : String) : List Notice :=
  (Step.read path).notices host

def compile (a : Access) (host : Host) (path : String) : Compiled where
  directives := (a.draft host).finish (program host path)
  notices := a.steps.flatMap (Step.notices host) ++ programNotices host path

/-- The content that the rules make on a host. -/
theorem content_draft (a : Access) (host : Host) :
    (a.draft host).content = a.steps.flatMap (Step.directives host) := by
  rw [draft, Draft.content_foldl_carryOut, Draft.content_start, List.nil_append]

end Access

/-- The list of directives that confines a program as the settings ask for. -/
def compile (s : Settings) (host : Host) (path : String) : Compiled :=
  (Access.ofSettings s).compile host path

end Cloister
