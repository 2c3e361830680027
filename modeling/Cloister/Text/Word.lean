import Cloister.Text.WordTable

/-! # Characters of words and names

* `Text.isWordChar`: letters, digits, numbers and the underscore.
* `Text.isNameChar`, `Text.isNameStart`: what may stand in a name, and at its head.
* `Text.decimalValue?`: the value of a decimal digit of any script.
-/

namespace Cloister.Text
set_option autoImplicit false

/-- Letters, digits, numbers and the underscore. -/
def isWordChar (c : Char) : Bool := alphanumerics.contains c || c == '_'

def isNameChar (c : Char) : Bool :=
  joiners.contains c || (alphanumerics.contains c && !nameless.contains c)

/-- Joiners that stand at the head of a name as well. -/
def leadingJoiners : Spans :=
  ⟨[(0x5F, 0x5F), (0x1885, 0x1886), (0x2118, 0x2118), (0x212E, 0x212E)]⟩

/-- Letters and digits that do not stand at the head of a name, besides the decimal ones. -/
def trailingLetters : Spans :=
  ⟨[(0xE33, 0xE33), (0xEB3, 0xEB3), (0x1369, 0x1371), (0x19DA, 0x19DA), (0xFF9E, 0xFF9F)]⟩

def isNameStart (c : Char) : Bool :=
  leadingJoiners.contains c ||
    (alphanumerics.contains c && !nameless.contains c && !decimals.contains c &&
      !trailingLetters.contains c)

/-- The value of a decimal digit: the runs of ten start at zero. -/
def decimalValue? (c : Char) : Option Nat :=
  (decimals.intervals.find? fun i => decide (i.1 ≤ c.toNat) && decide (c.toNat ≤ i.2)).map
    fun i => (c.toNat - i.1) % 10

def decimalNumber? (s : List Char) : Option Nat :=
  if s.isEmpty then none
  else s.foldl (fun n c => n.bind fun n => (decimalValue? c).map (n * 10 + ·)) (some 0)

end Cloister.Text
