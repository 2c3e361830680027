/-! # Classes of characters given by spans of code points

* `Text.Spans`: a class of characters, written as closed intervals of code points.
* `Text.Spans.contains`: membership of a character.
-/

namespace Cloister.Text
set_option autoImplicit false

/-- A class of characters, given by closed intervals of code points. -/
structure Spans where
  intervals : List (Nat × Nat)

/-- A character is in the class iff its code point lies in one of the intervals. -/
def Spans.contains (s : Spans) (c : Char) : Bool :=
  s.intervals.any fun i => decide (i.1 ≤ c.toNat) && decide (c.toNat ≤ i.2)

end Cloister.Text
