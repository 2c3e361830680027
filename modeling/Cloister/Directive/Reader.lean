import Cloister.Checked
import Cloister.Directive

/-! # Directives read from values

* `Directive.Kind.read`, `Directive.readWith`: an operation and a directive from a value. Fields that a
  directive does not have are ignored.
* `Directive.read`: the same with the readers of the library.
* `Directive.Loose`: a directive that nobody has checked; no backend has a form for it.
* `Directive.Loose.assign`: directives are immutable, so setting a field is refused.
-/

namespace Cloister.Directive
set_option autoImplicit false

def Kind.read : Datum → Checked Kind
  | .text s =>
    match ofName? s with
    | some k => .ok k
    | none => Checked.fail .unknownWord
  | _ => Checked.fail .unknownWord

def readWith (r : Checked.Readers) (fields : List (String × Datum)) : Checked Directive :=
  ((((Checked.app (.ok Directive.mk)
    (Checked.field fields "type" none Kind.read)).app
    (Checked.field fields "source" (some none) r.optionalText)).app
    (Checked.field fields "target" (some none) r.optionalText)).app
    (Checked.field fields "value" (some none) r.optionalText)).app
    (Checked.field fields "required" (some false) r.truth)

def read : List (String × Datum) → Checked Directive := readWith Checked.library

/-! ## Directives that nobody has checked -/

/-- A directive whose parts are values of any kind. -/
structure Loose where
  word : Datum
  source : Datum := .null
  target : Datum := .null
  value : Datum := .null
  required : Datum := .bool false

def loose (d : Directive) : Loose where
  word := .text d.kind.name
  source := Datum.ofText? d.source
  target := Datum.ofText? d.target
  value := Datum.ofText? d.value
  required := .bool d.required

namespace Loose

/-- The parts of a loose directive as they are given; a word for the operation has to be there. -/
def ofFields? (fields : List (String × Datum)) : Option Loose :=
  (Datum.field? "type" fields).map fun word =>
    { word := word
      source := (Datum.field? "source" fields).getD .null
      target := (Datum.field? "target" fields).getD .null
      value := (Datum.field? "value" fields).getD .null
      required := (Datum.field? "required" fields).getD (.bool false) }

/-- The parts of a loose directive, in order. -/
def parts (l : Loose) : List Datum := [l.word, l.source, l.target, l.value, l.required]

def agrees (l k : Loose) : Bool := Datum.itemsAgree l.parts k.parts

/-- Directives are immutable: setting a field is refused, whatever its value. Names that start with
an underscore are notes beside the fields, which may be made and leave the directive as it is. -/
def assign (l : Loose) (field : String) (_ : Datum) : Checked Loose :=
  if field.toList.head? = some '_' then .ok l
  else Checked.within (.field field) (Checked.fail .frozen)

def kind? (l : Loose) : Option Kind :=
  match l.word with
  | .text s => Kind.ofName? s
  | _ => none

/-- Whether the word of a loose directive names an operation that shows something of the host. -/
def isGrant (l : Loose) : Bool := l.kind?.any Kind.isGrant

end Loose
end Cloister.Directive
