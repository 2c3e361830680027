import Cloister.Text.Point

/-! # JSON strings in ASCII

* `Text.jsonUnit`: the escape of one UTF-16 unit.
* `Text.jsonPoint`: what stands for a code point: itself if it is printable ASCII, an escape
  otherwise; a character beyond the basic plane takes two.
* `Text.jsonString`: a text between quotes.
-/

namespace Cloister.Text
set_option autoImplicit false

/-- The escape of a UTF-16 unit. -/
def jsonUnit (p : Point) : List Char := '\\' :: 'u' :: hex 4 p.val

/-- The characters that have an escape of their own, and the mark of it. -/
def jsonMarks : List (Char × Char) :=
  [('"', '"'), ('\\', '\\'), ('\n', 'n'), ('\r', 'r'), ('\t', 't'), ('\x08', 'b'), ('\x0c', 'f')]

def jsonPoint (p : Point) : List Char :=
  match (jsonMarks.find? fun m => pointOf m.1 = p) with
  | some (_, mark) => ['\\', mark]
  | none =>
    if 0x20 ≤ p.val ∧ p.val ≤ 0x7E then [Char.ofNat p.val]
    else (units p).flatMap jsonUnit

def jsonString (s : Points) : List Char := '"' :: s.flatMap jsonPoint ++ ['"']

end Cloister.Text
