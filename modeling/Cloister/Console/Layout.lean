import Cloister.Console.Cell
import Cloister.Text.Blank
import Cloister.Text.Pieces

/-! # Layout on the console

A line is laid out on cells: tabs lead to the next stop, and a line that does not fit is broken
between words, or within a word that does not fit by itself.

* `Console.expandTabs`: spaces in the place of the tabs of a line.
* `Console.wrap`: the lines that one line is broken into.
* `Console.layOut`: the layout of a text.
-/

namespace Cloister.Console
set_option autoImplicit false

/-! ## Tabs -/

def tabWidth : Nat := 8

/-- The pieces of a line between its tabs, from a column on. A tab takes at least one cell. -/
def expandPieces (column : Nat) : List (List Char) → List Char
  | [] => []
  | [piece] => piece
  | piece :: next :: pieces =>
    let reached := column + width (piece ++ [' '])
    let missing := (tabWidth - reached % tabWidth) % tabWidth
    piece ++ ' ' :: List.replicate missing ' ' ++ expandPieces (reached + missing) (next :: pieces)

def expandTabs (line : List Char) : List Char := expandPieces 0 (Text.cut '\t' line)

/-! ## Words -/

/-- A place in a word: before its characters, among them, and in the white space after them. -/
inductive Place where
  | before
  | within
  | behind
  deriving DecidableEq, Repr

/-- The words of a line, each with the white space after it, and the first one with that before it
as well, given the characters of a word so far, the last one first. -/
def wordsFrom (word : List Char) (place : Place) : List Char → List (List Char)
  | [] => [word.reverse]
  | c :: cs =>
    if Text.isBlank c then
      wordsFrom (c :: word) (if place = .before then .before else .behind) cs
    else if place = .behind then word.reverse :: wordsFrom [c] .within cs
    else wordsFrom (c :: word) .within cs

/-- The words of a line; white space alone is none. -/
def words (line : List Char) : List (List Char) :=
  if line.all Text.isBlank then [] else wordsFrom [] .before line

/-- A text without the white space at its end. -/
def trimEnd (s : List Char) : List Char := (s.reverse.dropWhile Text.isBlank).reverse

/-! ## Breaking -/

/-- The pieces of a word that fit, given the piece so far, the last character first, and its
cells. -/
def chopFrom (room : Nat) (piece : List Char) (cells : Nat) : List Char → List (List Char)
  | [] => [piece.reverse]
  | c :: cs =>
    let w := charWidth c
    if room < cells + w then piece.reverse :: chopFrom room [c] w cs
    else chopFrom room (c :: piece) (cells + w) cs

/-- The lines so far, the last one apart, and the cells that the last one takes. -/
structure Broken where
  lines : List (List Char) := []
  current : List Char := []
  cells : Nat := 0

/-- The same after a line break, if there is something before it. -/
def Broken.break (b : Broken) : Broken :=
  if b.current.isEmpty then b else { lines := b.lines ++ [b.current] }

def Broken.append (b : Broken) (s : List Char) : Broken :=
  { b with current := b.current ++ s, cells := b.cells + width s }

def Broken.place (room : Nat) (b : Broken) (word : List Char) : Broken :=
  let needed := width (trimEnd word)
  if b.cells + needed ≤ room then b.append word
  else if needed ≤ room then b.break.append word
  else (chopFrom room [] 0 word).foldl (fun b piece => b.break.append piece) b

/-- A line without the white space that is beyond its room. -/
def cropBlanks (room : Nat) (line : List Char) : List Char :=
  let excess := line.length - room
  line.take (line.length - min excess (line.length - (trimEnd line).length))

def cropCells (room : Nat) : List Char → List Char
  | [] => []
  | c :: cs => if charWidth c ≤ room then c :: cropCells (room - charWidth c) cs else []

def wrap (room : Nat) (line : List Char) : List (List Char) :=
  let b := (words line).foldl (Broken.place room) {}
  let lines := if b.lines.isEmpty then [line] else b.lines ++ [b.current]
  lines.map fun l => cropCells room (cropBlanks room l)

/-- The layout of a text, line by line. -/
def layOut (room : Nat) (s : List Char) : List Char :=
  Text.glue '\n' ((Text.cut '\n' s).flatMap fun line => wrap room (expandTabs line))

end Cloister.Console
