import Cloister.Path

/-! # Invocations

The command line is positional: a selector, the target, and arguments that are handed on as they
are.

* `Invocation`: what is to be run, and how its target is understood.
* `Invocation.parse`: a command line read, or the reason why it is no invocation.
* `Invocation.program`: the path of the program.
-/

namespace Cloister
set_option autoImplicit false

/-- How a target is understood. -/
inductive Invocation.Kind where
  /-- A bare name, looked up in the program directory. -/
  | command
  /-- A path, taken as it is. -/
  | file
  deriving DecidableEq, Repr

def Invocation.Kind.name : Invocation.Kind → String
  | command => "command"
  | file => "file"

/-- What is to be run. -/
structure Invocation where
  kind : Invocation.Kind
  target : String
  arguments : List String := []
  deriving DecidableEq, Repr

namespace Invocation

/-- What can be wrong with a command line. -/
inductive UsageError where
  | missing
  | unrecognized (selector : String)
  deriving DecidableEq, Repr

def UsageError.message : UsageError → String
  | missing => "no params provided"
  | unrecognized selector => "'" ++ selector ++ "' unrecognized argument"

/-- Why a command line is no invocation. -/
inductive Refusal where
  | help
  | usage (e : UsageError)
  deriving DecidableEq, Repr

def helpSelectors : List String := ["--help", "-h"]

def selected? : String → Option Kind
  | "--command" | "-c" => some .command
  | "--file" | "-f" => some .file
  | _ => none

/-- Reads a command line without the program's own name. A request for help comes first, then the
selector and the target have to be there and not empty, then the selector has to be known. -/
def parse : List String → Except Refusal Invocation
  | [] => .error (.usage .missing)
  | selector :: rest =>
    if selector ∈ helpSelectors then .error .help
    else match rest with
      | [] => .error (.usage .missing)
      | target :: arguments =>
        if selector = "" ∨ target = "" then .error (.usage .missing)
        else match selected? selector with
          | some kind => .ok ⟨kind, target, arguments⟩
          | none => .error (.usage (.unrecognized selector))

def program (i : Invocation) (programDir : String) : String :=
  match i.kind with
  | .command => Path.join programDir i.target
  | .file => i.target

end Invocation
end Cloister
