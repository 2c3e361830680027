import Cloister.Literal.Complaint
import Cloister.Text.Blank

/-! # Texts in literals

* `Literal.Quoted`: a text between quote marks, as it is written.
* `Literal.Quoted.check`: whether its escapes and its fields are well-formed.
-/

namespace Cloister.Literal
set_option autoImplicit false

/-- A text between quote marks, as it is written: whether it stands for bytes, whether backslashes
are plain characters in it, and whether it has fields. -/
structure Quoted where
  bytes : Bool
  raw : Bool
  fields : Bool
  body : List Char
  deriving DecidableEq, Repr

namespace Quoted

def isHex (c : Char) : Bool := c.isDigit || ('a' ≤ c.toLower && c.toLower ≤ 'f')

def hexNumber (s : List Char) : Nat :=
  s.foldl (fun n c => n * 16 + (if c.isDigit then c.toNat - 48 else c.toLower.toNat - 87)) 0

def codePoints : Nat := 0x110000

/-! ## Escapes -/

/-- The letters of numeric escapes, with the number of digits that they need and the complaint about
too few of them. -/
def numericEscapes : List (Char × Nat × String) :=
  [('x', 2, "truncated \\xXX escape"), ('u', 4, "truncated \\uXXXX escape"),
    ('U', 8, "truncated \\UXXXXXXXX escape")]

/-- The complaint about a numeric escape that starts at a position, given what follows its
letter. -/
def numericFlaw? (position digits : Nat) (reason : String) (s : List Char) : Option Complaint :=
  let given := (s.take digits).takeWhile isHex
  if given.length < digits then some (.escape position (position + 1 + given.length) reason)
  else if codePoints ≤ hexNumber given then
    some (.escape position (position + 1 + digits) "illegal Unicode character")
  else none

/-- The complaint about the escape of a name, given what follows its letter. -/
def nameFlaw? (position : Nat) (s : List Char) : Option Complaint :=
  let reason := "malformed \\N character escape"
  match s with
  | '\x7b' :: rest =>
    let name := rest.takeWhile (· ≠ '\x7d')
    if name.length < rest.length ∧ !name.isEmpty then none
    else some (.escape position (position + 2 + name.length) reason)
  | _ => some (.escape position (position + 1) reason)

/-- The complaint about an escape that starts at a position, given what follows the backslash. -/
def escapeFlaw? (position : Nat) : List Char → Option Complaint
  | [] => none
  | c :: rest =>
    if c = 'N' then nameFlaw? position rest
    else
      match numericEscapes.lookup c with
      | some (digits, reason) => numericFlaw? position digits reason rest
      | none => none

/-- The length of a character where escapes are counted: other characters than ASCII are written as
escapes of ten characters there. -/
def countedLength (c : Char) : Nat := if c.toNat < 128 then 1 else 10

/-- A backslash before a character other than ASCII is written as an escape, too. -/
def countedSlash (next : Char) : Nat := if next.toNat < 128 then 1 else 6

/-- The first complaint about an escape, from a position on. -/
def textFlaw? (position : Nat) : List Char → Option Complaint
  | [] => none
  | '\\' :: c :: rest =>
    match escapeFlaw? position (c :: rest) with
    | some flaw => some flaw
    | none => textFlaw? (position + countedSlash c + countedLength c) rest
  | c :: rest => textFlaw? (position + countedLength c) rest

/-- The first complaint about an escape in bytes, from a position on. -/
def bytesFlaw? (position : Nat) : List Char → Option Complaint
  | [] => none
  | '\\' :: c :: rest =>
    if c = 'x' ∧ ((rest.take 2).takeWhile isHex).length < 2 then some (.byteEscape position)
    else bytesFlaw? (position + 2) rest
  | _ :: rest => bytesFlaw? (position + 1) rest

/-! ## Fields -/

/-- A place in a text with fields: outside of them, before the second of two braces that stand for
one, in the expression of a field, which may be blank so far and in brackets, and in its format. -/
inductive Place where
  | outside
  | doubled
  | expression (blank : Bool) (depth : Nat)
  | format (depth : Nat)
  deriving DecidableEq, Repr

def Place.after (blank : Bool) (depth : Nat) (c : Char) : Place :=
  if c = '(' ∨ c = '\x7b' then .expression false (depth + 1)
  else if c = ')' ∨ (c = '\x7d' ∧ 0 < depth) then .expression false (depth - 1)
  else if c = '\x7d' then .outside
  else if (c = ':' ∨ c = '!') ∧ depth = 0 then .format 0
  else .expression (blank && Text.isBlank c) depth

def fieldFlaw? (place : Place) : List Char → Option Complaint
  | [] => if place = .outside then none else some .openField
  | c :: rest =>
    match place with
    | .doubled => fieldFlaw? .outside rest
    | .outside =>
      if c = '\x7b' ∨ c = '\x7d' then
        if rest.head? = some c then fieldFlaw? .doubled rest
        else if c = '\x7d' then some .closedField
        else fieldFlaw? (.expression true 0) rest
      else fieldFlaw? .outside rest
    | .expression blank depth =>
      let next := Place.after blank depth c
      match next with
      | .expression _ _ => fieldFlaw? next rest
      | _ => if blank then some .emptyField else fieldFlaw? next rest
    | .format depth =>
      if c = '\x7b' then fieldFlaw? (.format (depth + 1)) rest
      else if c = '\x7d' then
        fieldFlaw? (if depth = 0 then .outside else .format (depth - 1)) rest
      else fieldFlaw? place rest

def check (q : Quoted) : Except Complaint Unit :=
  let flaw :=
    if q.bytes then
      if q.body.any (·.toNat ≥ 128) then some .byteRange
      else if q.raw then none
      else bytesFlaw? 0 q.body
    else if q.fields then fieldFlaw? .outside q.body
    else if q.raw then none
    else textFlaw? 0 q.body
  match flaw with
  | some c => .error c
  | none => .ok ()

end Quoted
end Cloister.Literal
