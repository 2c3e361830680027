import Cloister.Binary64
import Cloister.Text.Quoted

/-! # Values without a fixed shape

Plans, log arguments and the summary of the settings are made of values whose shape is known only
when they are read.

* `Datum`: null, truth values, numbers, texts, lists and objects.
* `Datum.quoted`, `Datum.plain`: the displayed form of a value inside another one and by itself.
* `Datum.typeName`: the name of its kind in error messages.
* `Datum.agrees`: whether two values are equal, where numbers of all kinds are compared as numbers.
-/

namespace Cloister
set_option autoImplicit false

/-- A value without a fixed shape. -/
inductive Datum where
  | null
  | bool (b : Bool)
  | int (n : Int)
  | real (x : Binary64)
  | text (s : String)
  | list (items : List Datum)
  | object (fields : List (String × Datum))
  deriving Inhabited

namespace Datum

/-- The field of that name, if there is one. -/
def field? (name : String) (fields : List (String × Datum)) : Option Datum := fields.lookup name

def texts (items : List String) : Datum := .list (items.map .text)

/-- A text, or null where there is none. -/
def ofText? : Option String → Datum
  | some s => .text s
  | none => .null

/-- Whether a value counts as true: null, false, zeros and what is empty do not. -/
def isTruthy : Datum → Bool
  | null => false
  | bool b => b
  | int n => n != 0
  | real (.finite _ m _) => m != 0
  | real _ => true
  | text s => s != ""
  | list items => !items.isEmpty
  | object fields => !fields.isEmpty

/-- The name of the kind of a value in error messages. -/
def typeName : Datum → String
  | null => "NoneType"
  | bool _ => "bool"
  | int _ => "int"
  | real _ => "float"
  | text _ => "str"
  | list _ => "list"
  | object _ => "dict"

mutual

/-- The form of a value inside another one: texts stand between quote marks. -/
def quoted : Datum → String
  | null => "None"
  | bool true => "True"
  | bool false => "False"
  | int n => toString n
  | real x => x.text
  | text s => Text.quoted s
  | list items => "[" ++ ", ".intercalate (quotedItems items) ++ "]"
  | object fields => "\x7b" ++ ", ".intercalate (quotedFields fields) ++ "\x7d"

def quotedItems : List Datum → List String
  | [] => []
  | d :: ds => quoted d :: quotedItems ds

def quotedFields : List (String × Datum) → List String
  | [] => []
  | (k, d) :: fs => (Text.quoted k ++ ": " ++ quoted d) :: quotedFields fs

end

/-- The form of a value by itself: a text stands for itself. -/
def plain : Datum → String
  | text s => s
  | d => d.quoted

/-- The whole number that a truth value or a number is, if it is one. -/
def integer? : Datum → Option Int
  | bool b => some (if b then 1 else 0)
  | int n => some n
  | _ => none

def realIs (n : Int) : Binary64 → Bool
  | .finite negative m e => Binary64.isWhole m e && Binary64.wholePart negative m e == n
  | _ => false

/-- Whether two binary numbers are equal: the zeros are, and the value that is no number is equal to
none. -/
def realsAgree (x y : Binary64) : Bool :=
  match x, y with
  | .nan, _ => false
  | .finite _ 0 _, y => realIs 0 y
  | x, y => x == y

/-- Whether two numbers are equal; a truth value counts as a number. -/
def numbersAgree (a b : Datum) : Bool :=
  match a, b with
  | real x, real y => realsAgree x y
  | real x, b => (integer? b).any fun n => realIs n x
  | a, real y => (integer? a).any fun n => realIs n y
  | a, b => (integer? a).isSome && integer? a == integer? b

mutual

def agrees : Datum → Datum → Bool
  | null, null => true
  | text s, text t => s == t
  | list as, list bs => itemsAgree as bs
  | object fs, object gs => fs.length == gs.length && fieldsAgree fs gs
  | a, b => numbersAgree a b

def itemsAgree : List Datum → List Datum → Bool
  | [], [] => true
  | a :: as, b :: bs => agrees a b && itemsAgree as bs
  | _, _ => false

/-- Whether all fields of one object are fields of another one. -/
def fieldsAgree : List (String × Datum) → List (String × Datum) → Bool
  | [], _ => true
  | (k, a) :: fs, gs =>
    (match gs.lookup k with
      | some b => agrees a b
      | none => false) && fieldsAgree fs gs

end

end Datum
end Cloister
