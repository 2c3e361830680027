import Cloister.Console.CellTable

/-! # Cells of the console

* `Console.charWidth`: the number of cells that a character takes.
* `Console.width`: the number of cells that a text takes.
-/

namespace Cloister.Console
set_option autoImplicit false

def charWidth (c : Char) : Nat :=
  if zeroWidth.contains c then 0 else if doubleWidth.contains c then 2 else 1

/-- The mark that makes one picture of the characters at its sides. -/
def joiner : Char := '\u200D'

/-- The mark after a character that is to be shown as a picture. -/
def pictureMark : Char := '\uFE0F'

/-- What is known of a text while its characters are measured: the cells so far, the last character
that took some, and whether the next one is joined to it. -/
structure Gauge where
  cells : Nat := 0
  last : Option Char := none
  joined : Bool := false

/-- Measures one more character. One that is joined takes no cell of its own, and a mark makes a
narrow picture wide. -/
def Gauge.measure (g : Gauge) (c : Char) : Gauge :=
  if g.joined then { g with joined := false }
  else if c = joiner then { g with joined := true }
  else if c = pictureMark then
    { g with cells := g.cells + (if g.last.any pictographs.contains then 1 else 0), last := none }
  else if charWidth c = 0 then g
  else { g with cells := g.cells + charWidth c, last := some c }

def width (s : List Char) : Nat := (s.foldl Gauge.measure {}).cells

end Cloister.Console
