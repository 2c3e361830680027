/-! # Numerals with a given number of places

* `Text.roundDiv`: a quotient rounded to the nearest number, halves to the even neighbour.
* `Text.fixedDigits`: a number with a fixed count of digits after the point.
* `Text.scientificDigits`: a number with one digit before the point, and its exponent.
* `Text.generalDigits`: the shorter of both, with a given count of significant digits.

A number is given as `m / 10 ^ k`.
-/

namespace Cloister.Text
set_option autoImplicit false

def tenPow (k : Nat) : Nat := Nat.pow 10 k

/-- The quotient rounded to the nearest number; a half goes to the even neighbour. -/
def roundDiv (num den : Nat) : Nat :=
  let q := num / den
  let r := num % den
  if 2 * r < den then q
  else if den < 2 * r then q + 1
  else if q % 2 = 0 then q else q + 1

/-- The decimal digits of a number, with zeros in front up to a width. -/
def paddedDigits (width n : Nat) : List Char :=
  let ds := Nat.toDigits 10 n
  List.replicate (width - ds.length) '0' ++ ds

/-- Digits with a point before the last `places` of them. -/
def pointed (digits : List Char) (places : Nat) (keepPoint : Bool) : List Char :=
  if places = 0 then digits ++ (if keepPoint then ['.'] else [])
  else digits.take (digits.length - places) ++ '.' :: digits.drop (digits.length - places)

/-- A number with `places` digits after the point. -/
def fixedDigits (m k places : Nat) (keepPoint : Bool) : List Char :=
  pointed (paddedDigits (places + 1) (roundDiv (m * tenPow places) (tenPow k))) places keepPoint

/-- The significant digits of a number as one whole number, `places` after the first, and the
exponent of the first. -/
def significant (m k places : Nat) : Nat × Int :=
  if m = 0 then (0, 0)
  else
    let d := (Nat.toDigits 10 m).length
    let n := roundDiv (m * tenPow places) (tenPow (d - 1))
    let exponent : Int := (d : Int) - 1 - (k : Int)
    if n = tenPow (places + 1) then (tenPow places, exponent + 1) else (n, exponent)

def exponentDigits (e : Int) : List Char :=
  'e' :: (if e < 0 then '-' else '+') :: paddedDigits 2 e.natAbs

/-- A number with one digit before the point, `places` after it, and an exponent. -/
def scientificDigits (m k places : Nat) (keepPoint : Bool) : List Char :=
  let (n, e) := significant m k places
  pointed (paddedDigits (places + 1) n) places keepPoint ++ exponentDigits e

/-- Digits with a point, without zeros at the end, and without the point if nothing follows it. -/
def withoutTrailingZeros (digits : List Char) : List Char :=
  if '.' ∈ digits then
    ((digits.reverse.dropWhile (· = '0')).dropWhile (· = '.')).reverse
  else digits

/-- A number with `digits` significant digits: with an exponent if it is below `-4` or not below
the number of digits, positional otherwise; zeros at the end are left out unless they are kept. -/
def generalDigits (m k digits : Nat) (keepZeros : Bool) : List Char :=
  let places := digits - 1
  let (n, e) := significant m k places
  let trim (ds : List Char) : List Char := if keepZeros then ds else withoutTrailingZeros ds
  if e < -4 ∨ (digits : Int) ≤ e then
    trim (pointed (paddedDigits digits n) places keepZeros) ++ exponentDigits e
  else
    trim (fixedDigits m k ((places : Int) - e).toNat keepZeros)

end Cloister.Text
