import Cloister.Text.Pieces

/-! # Words of a command line

* `Text.shellWord`: a text written so that a shell reads it as one word.
* `Text.shellLine`: words with a space between neighbours; a missing word is written as an empty
  one.
-/

namespace Cloister.Text
set_option autoImplicit false

/-- Characters that a shell takes as they are: letters and digits of ASCII and a few marks. -/
def isPlainWordChar (c : Char) : Bool :=
  c.isAlphanum || "_@%+=:,./-".toList.contains c

/-- Inside single quotes only the quote itself needs care: it is put between double quotes. -/
def shellQuotedChar (c : Char) : List Char :=
  if c = '\'' then ['\'', '"', '\'', '"', '\''] else [c]

/-- A text as one word: as it is if every character is plain, between single quotes otherwise. -/
def shellWord (s : String) : String :=
  if s.toList ≠ [] ∧ s.toList.all isPlainWordChar then s
  else String.ofList ('\'' :: s.toList.flatMap shellQuotedChar ++ ['\''])

/-- Words on one line; a missing one is written as an empty one. -/
def shellLine (words : List (Option String)) : String :=
  join ' ' (words.map fun w => shellWord (w.getD ""))

end Cloister.Text
