import Cloister.Datum

/-! # Checked reading of values

A value is read field by field, and every field that does not fit is reported, in the order in
which the fields are declared.

* `Flaw`: a place in a value and what is wrong there.
* `Checked`: a result, or all the flaws that were found.
* `Checked.field`: reading one field of an object, with or without a default.
* `Checked.text`, `Checked.optionalText`, `Checked.truth`, `Checked.items`: readers of values.
* `Checked.Readers`, `Checked.Readers.Sound`: readers for what fields can hold, and what is relied on.
* `Checked.library`: the readers above.
-/

namespace Cloister
set_option autoImplicit false

/-- A step from a value into one of its parts. -/
inductive Flaw.Step where
  | field (name : String)
  | item (index : Nat)
  deriving DecidableEq, Repr

/-- What can be wrong with a part of a value. -/
inductive Flaw.Cause where
  | unknownWord
  | notText
  | missing
  | unclearTruth
  | notTruth
  | notList
  | notObject
  | frozen
  deriving DecidableEq, Repr

def Flaw.Cause.word : Flaw.Cause → String
  | unknownWord => "enum"
  | notText => "string_type"
  | missing => "missing"
  | unclearTruth => "bool_parsing"
  | notTruth => "bool_type"
  | notList => "tuple_type"
  | notObject => "model_type"
  | frozen => "frozen_instance"

/-- A place in a value and what is wrong there. -/
structure Flaw where
  place : List Flaw.Step
  cause : Flaw.Cause
  deriving DecidableEq, Repr

/-- A result, or all the flaws that were found on the way to it. -/
abbrev Checked (α : Type) := Except (List Flaw) α

namespace Checked

variable {α β : Type}

def fail (cause : Flaw.Cause) : Checked α := .error [⟨[], cause⟩]

/-- Moves the flaws of a part to their place in the whole. -/
def within (step : Flaw.Step) : Checked α → Checked α
  | .ok a => .ok a
  | .error flaws => .error (flaws.map fun f => ⟨step :: f.place, f.cause⟩)

/-- A function and its argument; the flaws of both are reported. -/
def app : Checked (α → β) → Checked α → Checked β
  | .ok f, .ok a => .ok (f a)
  | .ok _, .error flaws => .error flaws
  | .error flaws, .ok _ => .error flaws
  | .error flaws, .error more => .error (flaws ++ more)

/-- Reads a field; without a default it has to be there. -/
def field (fields : List (String × Datum)) (name : String) (default : Option α)
    (read : Datum → Checked α) : Checked α :=
  within (.field name) <|
    match Datum.field? name fields, default with
    | some d, _ => read d
    | none, some a => .ok a
    | none, none => fail .missing

def text : Datum → Checked String
  | .text s => .ok s
  | _ => fail .notText

def optionalText : Datum → Checked (Option String)
  | .null => .ok none
  | .text s => .ok (some s)
  | _ => fail .notText

/-- The words for true, whatever the case of their letters. -/
def trueWords : List String := ["1", "true", "t", "yes", "y", "on"]

/-- The words for false, whatever the case of their letters. -/
def falseWords : List String := ["0", "false", "f", "no", "n", "off"]

/-- Reads a word as a truth value. Only the case of ASCII letters is ignored. -/
def truthWord (s : String) : Checked Bool :=
  let word := String.ofList (s.toList.map Char.toLower)
  if word ∈ trueWords then .ok true
  else if word ∈ falseWords then .ok false
  else fail .unclearTruth

/-- Whole numbers are read as long as they fit into a signed word of 64 bits; this is the first one
above it. -/
def wordBound : Int := 0x8000000000000000

def truthNumber (n : Int) : Checked Bool :=
  if n = 1 then .ok true else if n = 0 then .ok false else fail .unclearTruth

/-- Reads a truth value: itself, the numbers 0 and 1, or a word for one. Numbers that are not whole
or do not fit into a word are none at all. -/
def truth : Datum → Checked Bool
  | .bool b => .ok b
  | .int n => if -wordBound ≤ n ∧ n < wordBound then truthNumber n else fail .notTruth
  | .real (.finite negative m e) =>
    let n := Binary64.wholePart negative m e
    if Binary64.isWhole m e ∧ -wordBound < n ∧ n < wordBound then truthNumber n
    else fail .notTruth
  | .text s => truthWord s
  | _ => fail .notTruth

/-- Reads the items of a list, counting from `index`. -/
def itemsFrom (read : Datum → Checked α) (index : Nat) : List Datum → Checked (List α)
  | [] => .ok []
  | d :: ds =>
    app (app (.ok List.cons) (within (.item index) (read d))) (itemsFrom read (index + 1) ds)

def items (read : Datum → Checked α) : Datum → Checked (List α)
  | .list ds => itemsFrom read 0 ds
  | _ => fail .notList

def object (read : List (String × Datum) → Checked α) : Datum → Checked α
  | .object fields => read fields
  | _ => fail .notObject

/-! ## Readers for what fields can hold -/

/-- A reader for each sort of value that a field can be declared with. -/
structure Readers where
  text : Datum → Checked String
  optionalText : Datum → Checked (Option String)
  truth : Datum → Checked Bool

/-- What is relied on: a value of the very sort that a field is declared with is read as it is. What
becomes of other values is left open. -/
structure Readers.Sound (r : Readers) : Prop where
  text (s : String) : r.text (.text s) = .ok s
  optionalText (s : Option String) : r.optionalText (Datum.ofText? s) = .ok s
  truth (b : Bool) : r.truth (.bool b) = .ok b

def library : Readers := ⟨text, optionalText, truth⟩

theorem sound_library : library.Sound where
  text _ := rfl
  optionalText s := by cases s <;> rfl
  truth _ := rfl

end Checked
end Cloister
