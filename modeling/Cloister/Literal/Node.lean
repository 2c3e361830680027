import Cloister.Literal.Complaint

/-! # Expressions of literals

* `Literal.Node`: an expression, as far as it matters for its value.
* `Literal.Node.kind`: the words for an expression in complaints.
* `Literal.Node.target?`: the part of an expression that nothing can be assigned to.
* `Literal.Node.value`: the value of an expression, as far as it matters for others.
-/

namespace Cloister.Literal
set_option autoImplicit false

/-- The constants. -/
inductive Constant where
  | none
  | true
  | false
  | ellipsis
  | numeral (imaginary : Bool)
  | text
  deriving DecidableEq, Repr

/-- An expression. -/
inductive Node where
  | name (s : String)
  | constant (c : Constant)
  | tuple (items : List Node)
  | set (items : List Node)
  /-- Pairs of a key and a value; other pairs may be unpacked in the place of one. -/
  | pairs (items : List (Option Node × Node))
  /-- A plus or minus sign before an expression. -/
  | signed (operand : Node)
  /-- A sum or a difference. -/
  | sum (left right : Node)
  | starred (operand : Node)
  /-- A comparison that starts with a test for membership. -/
  | member (left : Node)
  /-- The call of a function, without arguments or with some. -/
  | call (function : Node) (bare : Bool)
  /-- The arguments of a call: how many of them have no name, and whether pairs are unpacked. -/
  | arguments (positional : Nat) (unpacked : Bool)
  /-- Any other expression, by the words for it. -/
  | other (words : String)
  deriving Inhabited

namespace Node

def constantKind : Constant → String
  | .none => "None"
  | .true => "True"
  | .false => "False"
  | .ellipsis => "ellipsis"
  | .numeral _ | .text => "literal"

def operation : String := "expression"

def kind : Node → String
  | name _ => "name"
  | constant c => constantKind c
  | tuple _ => "tuple"
  | set _ => "set display"
  | pairs _ => "dict literal"
  | signed _ | sum _ _ => operation
  | starred _ => "starred"
  | member _ => "comparison"
  | call _ _ | arguments _ _ => "function call"
  | other words => words

def access : String := "attribute"

mutual

/-- The part of an expression that nothing can be assigned to, if there is one. -/
def target? : Node → Option Node
  | name _ => none
  | tuple items => firstTarget? items
  | starred operand => target? operand
  | member left => target? left
  | other words => if words = access then none else some (other words)
  | n => some n

def firstTarget? : List Node → Option Node
  | [] => none
  | n :: ns => (target? n).or (firstTarget? ns)

end

/-! ## Values -/

/-- A value, as far as it matters for others: whether it can be a member of a set, or what it is. -/
inductive Value where
  | fixed
  | changing (kind : String)
  deriving DecidableEq, Repr

/-- Why an expression has no value. -/
inductive Fault where
  /-- It is no literal. -/
  | unknown
  /-- A key is missing. -/
  | keyless
  /-- A member of a set, or a key, can change. -/
  | changing (kind : String)
  deriving DecidableEq, Repr

/-- Checks that a value can be a member of a set, or a key. -/
def Value.member : Value → Except Fault Unit
  | fixed => .ok ()
  | changing kind => .error (.changing kind)

/-- Whether a number, with a sign or without one, is imaginary. -/
def imaginary? : Node → Option Bool
  | constant (.numeral i) => some i
  | signed (constant (.numeral i)) => some i
  | _ => none

def setName : String := "set"

def pairsName : String := "dict"

def isEmptySet : Node → Bool
  | call (name s) true => s == setName
  | _ => false

mutual

/-- The value of an expression. A sum is a value only as a complex number. -/
def value : Node → Except Fault Value
  | constant _ => .ok .fixed
  | tuple items => tupleValue items
  | set items => (checkMembers items).map fun _ => .changing setName
  | pairs items => (checkPairs items).map fun _ => .changing pairsName
  | sum left right =>
    match imaginary? left, right with
    | some false, constant (.numeral true) => .ok .fixed
    | _, _ => .error .unknown
  | n =>
    if n.isEmptySet then .ok (.changing setName)
    else if (imaginary? n).isSome then .ok .fixed
    else .error .unknown

/-- The value of a tuple, which can change if one of its items can. -/
def tupleValue : List Node → Except Fault Value
  | [] => .ok .fixed
  | n :: ns =>
    match value n, tupleValue ns with
    | .error e, _ => .error e
    | _, .error e => .error e
    | .ok .fixed, .ok v => .ok v
    | .ok v, _ => .ok v

def checkMembers : List Node → Except Fault Unit
  | [] => .ok ()
  | n :: ns =>
    match value n with
    | .error e => .error e
    | .ok v =>
      match v.member with
      | .error e => .error e
      | .ok _ => checkMembers ns

/-- Checks pairs one after another, each of them from its key to its value. -/
def checkPairs : List (Option Node × Node) → Except Fault Unit
  | [] => .ok ()
  | (none, _) :: _ => .error .keyless
  | (some k, v) :: ps =>
    match value k, value v with
    | .error e, _ => .error e
    | _, .error e => .error e
    | .ok key, .ok _ =>
      match key.member with
      | .error e => .error e
      | .ok _ => checkPairs ps

end

def Fault.message : Fault → String
  | unknown => "malformed node or string"
  | keyless => "malformed node or string: None"
  | changing kind => "unhashable type: '" ++ kind ++ "'"

end Node
end Cloister.Literal
