import Cloister.Json

/-! # Values read from JSON text

* `Json.Reader.string`: the text of a JSON string.
* `Json.Reader.number`: a whole number, or a binary one if it has a point or an exponent.
* `Json.Reader.value`: a value at the head of a text, and what is left of it.
* `Json.read?`: the value that a whole text stands for.

Besides the numbers of the standard, the words for the infinities and for no number are read.
-/

namespace Cloister.Json
set_option autoImplicit false

namespace Reader

def isSpace (c : Char) : Bool := c == ' ' || c == '\n' || c == '\r' || c == '\t'

def skip (s : List Char) : List Char := s.dropWhile isSpace

/-! ## Texts -/

def hexValue? (c : Char) : Option Nat :=
  if '0' ≤ c ∧ c ≤ '9' then some (c.toNat - 48)
  else if 'a' ≤ c ∧ c ≤ 'f' then some (c.toNat - 87)
  else if 'A' ≤ c ∧ c ≤ 'F' then some (c.toNat - 55)
  else none

/-- The UTF-16 unit of four hexadecimal digits. -/
def unit? (a b c d : Char) : Option Text.Point :=
  match hexValue? a, hexValue? b, hexValue? c, hexValue? d with
  | some a, some b, some c, some d => some (Text.pointAt (((a * 16 + b) * 16 + c) * 16 + d))
  | _, _, _, _ => none

def escaped? (c : Char) : Option Char :=
  if c = '"' ∨ c = '\\' ∨ c = '/' then some c
  else if c = 'n' then some '\n'
  else if c = 'r' then some '\r'
  else if c = 't' then some '\t'
  else if c = 'b' then some '\x08'
  else if c = 'f' then some '\x0c'
  else none

/-- Characters that stand in no string but as escapes. -/
def isControl (c : Char) : Bool := c.toNat < 0x20

/-- The code points and units of a string up to the quote that ends it, and what is left. -/
def units : List Char → Option (Text.Points × List Char)
  | [] => none
  | '"' :: rest => some ([], rest)
  | '\\' :: 'u' :: a :: b :: c :: d :: rest =>
    match unit? a b c d, units rest with
    | some p, some (ps, left) => some (p :: ps, left)
    | _, _ => none
  | '\\' :: c :: rest =>
    match escaped? c, units rest with
    | some e, some (ps, left) => some (Text.pointOf e :: ps, left)
    | _, _ => none
  | c :: rest =>
    if isControl c then none else (units rest).map fun (ps, left) => (Text.pointOf c :: ps, left)

/-- The text of a string after its opening quote, and what is left. -/
def string (s : List Char) : Option (Text.Points × List Char) :=
  (units s).map fun (ps, rest) => (Text.joined ps, rest)

/-! ## Numbers -/

def digitsValue (ds : List Char) : Nat := ds.foldl (fun n d => 10 * n + (d.toNat - 48)) 0

/-- The digits before the point. A zero stands alone. -/
def wholeDigits : List Char → List Char
  | '0' :: _ => ['0']
  | s => s.takeWhile Char.isDigit

/-- The digits after a point, if there are any, and what is left. -/
def fraction : List Char → List Char × List Char
  | '.' :: rest =>
    if rest.head?.any Char.isDigit then (rest.takeWhile Char.isDigit, rest.dropWhile Char.isDigit)
    else ([], '.' :: rest)
  | s => ([], s)

/-- The exponent after its letter, if there is one, and what is left. -/
def exponent : List Char → Option Int × List Char
  | c :: rest =>
    let (negative, ds) : Bool × List Char := match rest with
      | '-' :: ds => (true, ds)
      | '+' :: ds => (false, ds)
      | ds => (false, ds)
    if (c = 'e' ∨ c = 'E') ∧ ds.head?.any Char.isDigit then
      let n : Int := digitsValue (ds.takeWhile Char.isDigit)
      (some (if negative then -n else n), ds.dropWhile Char.isDigit)
    else (none, c :: rest)
  | [] => (none, [])

/-- A number without its sign, and what is left. -/
def unsigned (negative : Bool) (s : List Char) : Option (Json × List Char) :=
  let whole := wholeDigits s
  let (places, afterPlaces) := fraction (s.drop whole.length)
  let (power, rest) := exponent afterPlaces
  if whole.isEmpty then none
  else if places.isEmpty && power.isNone then
    let n : Int := digitsValue whole
    some (.int (if negative then -n else n), rest)
  else
    let m := digitsValue (whole ++ places)
    some (.real (.ofDecimal negative m (power.getD 0 - places.length)), rest)

/-- A number at the head of a text, and what is left. -/
def number : List Char → Option (Json × List Char)
  | '-' :: rest => unsigned true rest
  | s => unsigned false s

/-! ## Values -/

def words : List (String × Json) :=
  [("null", .null), ("true", .bool true), ("false", .bool false), ("NaN", .real .nan),
    ("Infinity", .real (.infinite false)), ("-Infinity", .real (.infinite true))]

/-- A word at the head of a text, and what is left. -/
def word? (s : List Char) : Option (Json × List Char) :=
  words.findSome? fun (w, d) => (w.toList.isPrefixOf? s).map fun rest => (d, rest)

/-- Fields with one more in front of them. If its name is there again, its value is the later
one. -/
def addField (name : Text.Points) (d : Json) (fields : List (Text.Points × Json)) :
    List (Text.Points × Json) :=
  match fields.lookup name with
  | some later => (name, later) :: fields.filter fun f => f.1 != name
  | none => (name, d) :: fields

mutual

/-- A value at the head of a text, and what is left. The first number bounds the steps. -/
def value : Nat → List Char → Option (Json × List Char)
  | 0, _ => none
  | fuel + 1, s =>
    match skip s with
    | '"' :: rest => (string rest).map fun (t, left) => (.text t, left)
    | '[' :: rest =>
      match skip rest with
      | ']' :: left => some (.list [], left)
      | inner => (items fuel inner).map fun (ds, left) => (.list ds, left)
    | '\x7b' :: rest =>
      match skip rest with
      | '\x7d' :: left => some (.object [], left)
      | inner => (members fuel inner).map fun (fs, left) => (.object fs, left)
    | other => (word? other).or (number other)

def items : Nat → List Char → Option (List Json × List Char)
  | 0, _ => none
  | fuel + 1, s =>
    match value fuel s with
    | none => none
    | some (d, rest) =>
      match skip rest with
      | ',' :: more => (items fuel more).map fun (ds, left) => (d :: ds, left)
      | ']' :: left => some ([d], left)
      | _ => none

def members : Nat → List Char → Option (List (Text.Points × Json) × List Char)
  | 0, _ => none
  | fuel + 1, s =>
    match skip s with
    | '"' :: quoted =>
      match string quoted with
      | none => none
      | some (name, rest) =>
        match skip rest with
        | ':' :: after =>
          match value fuel after with
          | none => none
          | some (d, rest) =>
            match skip rest with
            | ',' :: more =>
              (members fuel more).map fun (fs, left) => (addField name d fs, left)
            | '\x7d' :: left => some ([(name, d)], left)
            | _ => none
        | _ => none
    | _ => none

end

end Reader

/-- The value of a text; every step of the reader but one in two takes a character. -/
def read? (s : String) : Option Json :=
  match Reader.value (2 * s.length + 2) s.toList with
  | some (d, rest) => if (Reader.skip rest).isEmpty then some d else none
  | none => none

end Cloister.Json
