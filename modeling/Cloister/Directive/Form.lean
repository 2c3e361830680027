import Cloister.Directive.Reader

/-! # Directives built by name

Each well-formed directive can be asked for by the name of its form, with arguments by position or
by name.

* `Directive.Form`: a form, with its parameters and what they fill in.
* `Directive.Form.all`: the forms.
* `Directive.Form.bind`: arguments matched to parameters, or the reason why they do not fit.
* `Directive.Form.build`: the directive of a form.
-/

namespace Cloister.Directive
set_option autoImplicit false

/-- A parameter of a form: its name, the fields that it fills, and its value when none is given. -/
structure Parameter where
  name : String
  fills : List String
  default : Option Datum := none

/-- A form: its name, its operation, fields that are always the same, and its parameters. -/
structure Form where
  name : String
  kind : Kind
  fixed : List (String × Datum) := []
  parameters : List Parameter := []

namespace Form

def all : List Form :=
  [⟨"bind_rw", .bindWritable, [], [⟨"path", ["source", "target"], none⟩]⟩,
    ⟨"bind_ro", .bindReadOnly, [], [⟨"path", ["source", "target"], none⟩]⟩,
    ⟨"dev_bind", .bindDevice, [],
      [⟨"path", ["source", "target"], none⟩, ⟨"required", ["required"], some (.bool false)⟩]⟩,
    ⟨"tmpfs_clear", .clear, [], [⟨"path", ["target"], none⟩]⟩,
    ⟨"null_bind_file", .maskFile, [("source", .text nullFile)], [⟨"path", ["target"], none⟩]⟩,
    ⟨"remount_ro", .lock, [], [⟨"path", ["target"], none⟩]⟩,
    ⟨"unset_env", .unsetVariable, [], [⟨"name", ["value"], none⟩]⟩,
    ⟨"set_hostname", .setHostname, [], [⟨"hostname", ["value"], none⟩]⟩,
    ⟨"unshare", .unshare, [], [⟨"namespace", ["value"], none⟩]⟩,
    ⟨"cap_drop", .dropCapability, [], [⟨"capability", ["value"], some (.text "ALL")⟩]⟩,
    ⟨"proc_mount", .mountProc, [], [⟨"path", ["target"], some (.text "/proc")⟩]⟩,
    ⟨"dev_minimal", .minimalDev, [], [⟨"path", ["target"], some (.text "/dev")⟩]⟩,
    ⟨"symlink", .symlink, [],
      [⟨"source", ["source"], none⟩, ⟨"target", ["target"], none⟩]⟩,
    ⟨"new_session", .newSession, [], []⟩,
    ⟨"terminator", .terminator, [], []⟩]

def ofName? (name : String) : Option Form := all.find? (·.name == name)

/-- Why arguments do not fit the parameters of a form. -/
inductive Misfit where
  | unexpected (name : String)
  | repeated (name : String)
  | tooMany (least most given : Nat)
  | lacking (names : List String)
  deriving DecidableEq, Repr

/-- Names between quote marks, the last two joined by a word. -/
def listing (names : List String) : String :=
  match names.map (fun n => "'" ++ n ++ "'") with
  | [] => ""
  | [a] => a
  | [a, b] => a ++ " and " ++ b
  | all => ", ".intercalate all.dropLast ++ ", and " ++ all.getLastD ""

/-- The complaint about arguments that do not fit; the receiver counts as an argument. -/
def Misfit.message (form : String) : Misfit → String
  | unexpected n => "Directive." ++ form ++ "() got an unexpected keyword argument '" ++ n ++ "'"
  | repeated n => "Directive." ++ form ++ "() got multiple values for argument '" ++ n ++ "'"
  | tooMany least most given =>
    "Directive." ++ form ++ "() takes " ++
      (if least = most then
        toString (most + 1) ++ " positional argument" ++ (if most = 0 then "" else "s")
      else
        "from " ++ toString (least + 1) ++ " to " ++ toString (most + 1) ++
          " positional arguments") ++
      " but " ++ toString (given + 1) ++ " were given"
  | lacking ns =>
    "Directive." ++ form ++ "() missing " ++ toString ns.length ++
      " required positional argument" ++ (if ns.length = 1 then "" else "s") ++ ": " ++ listing ns

/-- The name under which the receiver counts as an argument; it always has its value. -/
def receiver : String := "cls"

/-- The first named argument that is no parameter, or whose parameter has its value already. -/
def misnamed? (f : Form) (given : List Datum) (named : List (String × Datum)) : Option Misfit :=
  named.findSome? fun (n, _) =>
    if n = receiver then some (.repeated n)
    else
      match f.parameters.findIdx? (·.name == n) with
      | none => some (.unexpected n)
      | some i => if i < given.length then some (.repeated n) else none

/-- The value of each parameter, in order. -/
def bind (f : Form) (given : List Datum) (named : List (String × Datum)) :
    Except Misfit (List Datum) :=
  match f.misnamed? given named with
  | some m => .error m
  | none =>
    if f.parameters.length < given.length then
      .error (.tooMany (f.parameters.filter (·.default.isNone)).length f.parameters.length
        given.length)
    else
      let rest := f.parameters.drop given.length
      let value? (p : Parameter) : Option Datum := (Datum.field? p.name named).or p.default
      match rest.filter (fun p => (value? p).isNone) with
      | [] => .ok (given ++ rest.filterMap value?)
      | missing => .error (.lacking (missing.map (·.name)))

/-- The fields of the directive that a form makes of the values of its parameters. -/
def fields (f : Form) (values : List Datum) : List (String × Datum) :=
  ("type", .text f.kind.name) :: f.fixed ++
    (f.parameters.zip values).flatMap fun (p, v) => p.fills.map fun name => (name, v)

/-- Why a directive could not be built. -/
inductive Failure where
  | misfit (form : String) (m : Misfit)
  | flawed (flaws : List Flaw)
  deriving DecidableEq, Repr

def build (f : Form) (given : List Datum) (named : List (String × Datum)) :
    Except Failure Directive :=
  match f.bind given named with
  | .error m => .error (.misfit f.name m)
  | .ok values =>
    match Directive.read (f.fields values) with
    | .ok d => .ok d
    | .error flaws => .error (.flawed flaws)

end Form
end Cloister.Directive
