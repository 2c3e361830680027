import Cloister.Text.Hex
import Cloister.Text.Printable

/-! # Quoted text

A text is displayed between quote marks: double ones if it holds a single mark and no double one,
single ones otherwise. Backslashes, the mark itself and everything unprintable are escaped.

* `Text.quoteMark`: the mark of a text.
* `Text.quotedChar`: what stands for a character between two such marks.
* `Text.quoted`: the text between its marks.
-/

namespace Cloister.Text
set_option autoImplicit false

def singleMark : Char := '\''

def doubleMark : Char := '"'

def quoteMark (s : List Char) : Char :=
  if singleMark ∈ s ∧ doubleMark ∉ s then doubleMark else singleMark

/-- The escape of an unprintable character: the shortest of two, four or eight digits. -/
def numericEscape (c : Char) : List Char :=
  if c.toNat < 0x100 then '\\' :: 'x' :: hex 2 c.toNat
  else if c.toNat < 0x10000 then '\\' :: 'u' :: hex 4 c.toNat
  else '\\' :: 'U' :: hex 8 c.toNat

def quotedChar (mark c : Char) : List Char :=
  if c = '\\' ∨ c = mark then ['\\', c]
  else if c = '\n' then ['\\', 'n']
  else if c = '\r' then ['\\', 'r']
  else if c = '\t' then ['\\', 't']
  else if isPrintable c then [c]
  else numericEscape c

def quoted (s : String) : String :=
  let mark := quoteMark s.toList
  String.ofList (mark :: s.toList.flatMap (quotedChar mark) ++ [mark])

end Cloister.Text
