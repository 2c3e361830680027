import Cloister.Text.Numeral

/-! # Binary numbers

Numbers with a point are kept in the binary64 format: a whole number of at most 53 bits times a
power of two, with a sign of their own.

* `Binary64`: the numbers, the two infinities, and the value that is no number.
* `Binary64.ofRatio`, `Binary64.ofInt`, `Binary64.ofDecimal`: the number nearest to a quotient, to a
  whole number and to a decimal numeral.
* `Binary64.expansion`, `Binary64.wholePart`: the exact decimal form and the part before the point.
* `Binary64.shortest`: the fewest digits that are nearest to no other number.
* `Binary64.text`: a number written with those digits.
-/

namespace Cloister
set_option autoImplicit false

/-- A binary number; a finite one stands for `± mantissa * 2 ^ exponent`. -/
inductive Binary64 where
  | finite (negative : Bool) (mantissa : Nat) (exponent : Int)
  | infinite (negative : Bool)
  | nan
  deriving DecidableEq, Repr, Inhabited

namespace Binary64

def minExponent : Int := -1074

def maxExponent : Int := 971

def leastFull : Nat := 0x10000000000000

/-- The power of two with an exponent of either sign, as a numerator and a denominator. -/
def twoPow (e : Int) : Nat × Nat := (Nat.pow 2 e.toNat, Nat.pow 2 (-e).toNat)

/-- A mantissa that may have been rounded up to the next power of two. -/
def rounded (negative : Bool) (mantissa : Nat) (exponent : Int) : Binary64 :=
  let (m, e) :=
    if mantissa = 2 * leastFull then (leastFull, exponent + 1) else (mantissa, exponent)
  if maxExponent < e then .infinite negative else .finite negative m e

/-- The exponent of the number nearest to a quotient of positive numbers: its mantissa is to have
53 bits, unless that would take an exponent below the least. -/
def exponentOf (num den : Nat) : Int :=
  let guess : Int := (Nat.log2 num : Int) - (Nat.log2 den : Int) - 52
  let (up, down) := twoPow guess
  max minExponent (if num * down < leastFull * den * up then guess - 1 else guess)

/-- The number nearest to a quotient, halves to the even neighbour. -/
def ofRatio (negative : Bool) (num den : Nat) : Binary64 :=
  if num = 0 then .finite negative 0 minExponent
  else
    let e := exponentOf num den
    let (up, down) := twoPow e
    rounded negative (Text.roundDiv (num * down) (den * up)) e

/-- The number nearest to a whole number. -/
def ofInt (n : Int) : Binary64 := ofRatio (decide (n < 0)) n.natAbs 1

/-- The number nearest to `m * 10 ^ e`. A numeral far beyond the format is not computed with. -/
def ofDecimal (negative : Bool) (m : Nat) (e : Int) : Binary64 :=
  let size : Int := (Nat.toDigits 10 m).length + e
  if m = 0 ∨ size < -400 then .finite negative 0 minExponent
  else if 400 < size then .infinite negative
  else ofRatio negative (m * Text.tenPow e.toNat) (Text.tenPow (-e).toNat)

/-- Whether a number is below zero or a zero with that sign. -/
def isNegative : Binary64 → Bool
  | finite negative _ _ => negative
  | infinite negative => negative
  | nan => false

/-- The exact decimal form of `m * 2 ^ e`: a whole number and the power of ten below it. -/
def expansion (m : Nat) (e : Int) : Nat × Nat :=
  (m * Nat.pow 2 e.toNat * Nat.pow 5 (-e).toNat, (-e).toNat)

def wholePart (negative : Bool) (m : Nat) (e : Int) : Int :=
  let (up, down) := twoPow e
  let n : Int := (m * up / down : Nat)
  if negative then -n else n

def isWhole (m : Nat) (e : Int) : Bool :=
  let (up, down) := twoPow e
  m * up % down == 0

/-! ## The fewest digits -/

/-- Compares `c * 10 ^ p` with `n / 10 ^ k`. -/
def compareScaled (c : Nat) (p : Int) (n k : Nat) : Ordering :=
  compare (c * Text.tenPow (p + k).toNat) (n * Text.tenPow (-(p + k)).toNat)

/-- Four times the distance from `m * 2 ^ e` to the point halfway to the number below, in units of
`2 ^ e`. Below the least full mantissa the numbers are twice as dense. -/
def stepBelow (m : Nat) (e : Int) : Nat := if m = leastFull ∧ minExponent < e then 1 else 2

/-- Whether the binary number nearest to `c * 10 ^ p` is `m * 2 ^ e`: it lies between the points
halfway to the neighbours, which themselves belong to the number if its mantissa is even. -/
def readsBack (m : Nat) (e : Int) (c : Nat) (p : Int) : Bool :=
  let (low, k) := expansion (4 * m - stepBelow m e) (e - 2)
  let (high, l) := expansion (4 * m + 2) (e - 2)
  let even := m % 2 == 0
  let above := match compareScaled c p low k with
    | .gt => true
    | .eq => even
    | .lt => false
  let below := match compareScaled c p high l with
    | .lt => true
    | .eq => even
    | .gt => false
  above && below

/-- The multiple of `10 ^ p` that stands for `m * 2 ^ e`, if one of its two neighbours among the
multiples does. Of both the nearer is taken, and halfway between them the even one. -/
def candidate? (m : Nat) (e p : Int) : Option Nat :=
  let (n, k) := expansion m e
  let num := n * Text.tenPow (-(p + k)).toNat
  let den := Text.tenPow (p + k).toNat
  let c := num / den
  match readsBack m e c p, readsBack m e (c + 1) p with
  | true, true => some (Text.roundDiv num den)
  | true, false => some c
  | false, true => some (c + 1)
  | false, false => none

/-- A number without zeros at its end, and their count. -/
def withoutZeros (n : Nat) : Nat × Nat :=
  let zeros := ((Nat.toDigits 10 n).reverse.takeWhile (· = '0')).length
  (n / Text.tenPow zeros, zeros)

/-- The fewest digits that stand for `m * 2 ^ e`, and the power of ten that they are multiplied
with. Seventeen digits are always enough. -/
def shortest (m : Nat) (e : Int) : Nat × Int :=
  let (n, k) := expansion m e
  let scale : Int := (Nat.toDigits 10 n).length - (k : Int)
  let found := (List.range 17).findSome? fun (i : Nat) =>
    let p := scale - (i + 1 : Nat)
    (candidate? m e p).map fun c => (c, p)
  let (c, p) := found.getD (n, -(k : Int))
  let (digits, zeros) := withoutZeros c
  (digits, p + zeros)

/-! ## Written numbers -/

/-- The least exponent of a first digit that is written without an exponent. -/
def plainFrom : Int := -4

/-- From this exponent of the first digit on, an exponent is written. -/
def plainBelow : Int := 16

/-- Digits with the first of them of the given exponent, without an exponent if it is near zero. -/
def layout (digits : List Char) (exponent : Int) : List Char :=
  let count : Int := digits.length
  if exponent < plainFrom ∨ plainBelow ≤ exponent then
    Text.pointed digits (digits.length - 1) false ++ Text.exponentDigits exponent
  else if exponent < 0 then
    '0' :: '.' :: List.replicate (-exponent - 1).toNat '0' ++ digits
  else if count ≤ exponent + 1 then
    digits ++ List.replicate (exponent + 1 - count).toNat '0' ++ ['.', '0']
  else Text.pointed digits (count - exponent - 1).toNat false

/-- A finite number without its sign. -/
def digitsText (m : Nat) (e : Int) : List Char :=
  if m = 0 then ['0', '.', '0']
  else
    let (n, p) := shortest m e
    let digits := Nat.toDigits 10 n
    layout digits (p + digits.length - 1)

/-- A number, written with the fewest digits that stand for it. -/
def text : Binary64 → String
  | finite negative m e => String.ofList ((if negative then ['-'] else []) ++ digitsText m e)
  | infinite negative => if negative then "-inf" else "inf"
  | nan => "nan"

end Binary64
end Cloister
