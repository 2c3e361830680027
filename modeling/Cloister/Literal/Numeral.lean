import Cloister.Literal.Complaint

/-! # Numbers in literals

* `Literal.Numeral`: what is kept of a number.
* `Literal.readNumeral`: a number at the head of a text that starts with a digit, and the rest.
* `Literal.readFraction`: the same after a point.
-/

namespace Cloister.Literal
set_option autoImplicit false

/-- What is kept of a number: whether it is imaginary. -/
structure Numeral where
  imaginary : Bool
  deriving DecidableEq, Repr

/-- The characters that a name is made of, before it is looked at more closely. -/
def inName (c : Char) : Bool := c.isAlphanum || c == '_' || c.toNat ≥ 128

def decimalBase : String := "decimal"

/-- Whether a word stands at the head of a text, and no name goes on after it. -/
def startsWord (word : String) (s : List Char) : Bool :=
  word.toList.isPrefixOf s && !(s.drop word.length).head?.any inName

/-- Whether a word that may follow a number at once stands at the head of a text. -/
def startsOperator (s : List Char) : Bool :=
  ["and", "else", "for", "or", "not"].any (startsWord · s) ||
    ["if", "in", "is"].any fun word => word.toList.isPrefixOf s

/-- Checks that no ASCII character of a name follows a number at once. -/
def checkEnd (base : String) (s : List Char) : Except Complaint Unit :=
  let named := s.head?.any fun c => inName c && decide (c.toNat < 128)
  if named && !startsOperator s then .error (.invalidNumber base) else .ok ()

/-- What is left after digits. An underscore stands between two of them. -/
def skipDigits : List Char → Except Complaint (List Char)
  | [] => .ok []
  | ['_'] => .error (.invalidNumber decimalBase)
  | '_' :: d :: cs => if d.isDigit then skipDigits cs else .error (.invalidNumber decimalBase)
  | c :: cs => if c.isDigit then skipDigits cs else .ok (c :: cs)

/-- The end of a number after its digits, or after the mark of an imaginary one. -/
def readMark (s : List Char) : Except Complaint (Numeral × List Char) :=
  let marked : Bool := s.head? == some 'j' || s.head? == some 'J'
  if marked then (checkEnd "imaginary" (s.drop 1)).map fun _ => (⟨true⟩, s.drop 1)
  else (checkEnd decimalBase s).map fun _ => (⟨false⟩, s)

def isSign (c : Char) : Bool := c == '+' || c == '-'

/-- The end of a number from its exponent on. A letter that starts no exponent may start a word that
follows the number. -/
def readExponent (s : List Char) : Except Complaint (Numeral × List Char) :=
  match s with
  | e :: rest =>
    if e = 'e' ∨ e = 'E' then
      let signed := rest.head?.any isSign
      let digits := if signed then rest.drop 1 else rest
      if digits.head?.any Char.isDigit then
        match skipDigits digits with
        | .ok left => readMark left
        | .error c => .error c
      else if signed then .error (.invalidNumber decimalBase)
      else (checkEnd decimalBase s).map fun _ => (⟨false⟩, s)
    else readMark s
  | [] => readMark []

def readFraction (s : List Char) : Except Complaint (Numeral × List Char) :=
  if s.head?.any Char.isDigit then
    match skipDigits s with
    | .ok left => readExponent left
    | .error c => .error c
  else readExponent s

/-- The end of a number after the digits before its point. -/
def readRest : List Char → Except Complaint (Numeral × List Char)
  | '.' :: rest => readFraction rest
  | s => readExponent s

/-- The most digits that a whole number in base ten may have. -/
def mostDigits : Nat := 4300

/-- A number in base ten that does not start with a zero. -/
def readDecimal (s : List Char) : Except Complaint (Numeral × List Char) :=
  match skipDigits s with
  | .ok left => readRest left
  | .error c => .error c

/-- What is left after zeros at the head of a number. -/
def skipZeros : List Char → Except Complaint (List Char)
  | [] => .ok []
  | ['_'] => .error (.invalidNumber decimalBase)
  | '_' :: d :: cs =>
    if d = '0' then skipZeros cs
    else if d.isDigit then .ok (d :: cs)
    else .error (.invalidNumber decimalBase)
  | c :: cs => if c = '0' then skipZeros cs else .ok (c :: cs)

/-- Whether a number goes on as one that is not whole, so that zeros may stand at its head. -/
def goesOn (s : List Char) : Bool :=
  s.head?.any fun c => c == '.' || c == 'e' || c == 'E' || c == 'j' || c == 'J'

/-- A number in base ten that starts with a zero: a whole one has no other digits. -/
def readZero (s : List Char) : Except Complaint (Numeral × List Char) :=
  match skipZeros s with
  | .error c => .error c
  | .ok left =>
    if left.head?.any Char.isDigit then
      match skipDigits left with
      | .error c => .error c
      | .ok left => if goesOn left then readRest left else .error .leadingZeros
    else readRest left

/-! ## Other bases -/

/-- A base with letters for its mark. -/
structure Base where
  name : String
  isDigit : Char → Bool

def hexadecimal : Base := ⟨"hexadecimal", fun c => c.isDigit || ('a' ≤ c.toLower && c.toLower ≤ 'f')⟩

def octal : Base := ⟨"octal", fun c => '0' ≤ c && c ≤ '7'⟩

def binary : Base := ⟨"binary", fun c => c == '0' || c == '1'⟩

def base? (c : Char) : Option Base :=
  if c = 'x' ∨ c = 'X' then some hexadecimal
  else if c = 'o' ∨ c = 'O' then some octal
  else if c = 'b' ∨ c = 'B' then some binary
  else none

/-- The complaint about what stands in the place of a digit. -/
def Base.refuse (b : Base) (found : Option Char) : Complaint :=
  match found with
  | some c => if c.isDigit then .invalidDigit c b.name else .invalidNumber b.name
  | none => .invalidNumber b.name

def Base.skip (b : Base) : List Char → Except Complaint (List Char)
  | [] => .ok []
  | ['_'] => .error (b.refuse none)
  | '_' :: d :: cs => if b.isDigit d then b.skip cs else .error (b.refuse (some d))
  | c :: cs =>
    if b.isDigit c then b.skip cs
    else if c.isDigit then .error (b.refuse (some c))
    else .ok (c :: cs)

/-- A number after the mark of its base, which has at least one digit. -/
def Base.read (b : Base) (s : List Char) : Except Complaint (Numeral × List Char) :=
  let digits := if s.head? = some '_' then s.drop 1 else s
  if digits.head?.any b.isDigit then
    match b.skip digits with
    | .ok left => (checkEnd b.name left).map fun _ => (⟨false⟩, left)
    | .error c => .error c
  else .error (b.refuse digits.head?)

/-- A number at the head of a text that starts with a digit, and the rest. -/
def readNumeral (s : List Char) : Except Complaint (Numeral × List Char) :=
  match s with
  | '0' :: c :: rest =>
    match base? c with
    | some b => b.read rest
    | none => readZero s
  | '0' :: [] => readZero s
  | _ => readDecimal s

def checkLength (written : List Char) : Except Complaint Unit :=
  let digits := (written.filter Char.isDigit).length
  if mostDigits < digits ∧ written.all fun c => c.isDigit || c == '_' then
    .error (.longNumber digits)
  else .ok ()

end Cloister.Literal
