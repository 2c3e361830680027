import Cloister.Text.CaseTable

/-! # Upper and lower case

The full mappings: a character may become several, and a capital sigma at the end of a word
becomes the final form of the letter.

* `Text.upperChar`, `Text.lowerChar`: the mapping of one character without its context.
* `Text.finalSigma`: whether a sigma between two given contexts ends a word.
* `Text.toUpper`, `Text.toLower`: the mappings of a text.
-/

namespace Cloister.Text
set_option autoImplicit false

/-- Maps a character by the first table that holds it; any other stands for itself. -/
def mapCase (runs : List CaseRun) (specials : List (Nat × List Nat)) (c : Char) : List Char :=
  match specials.lookup c.toNat with
  | some cs => cs.map Char.ofNat
  | none =>
    match runs.findSome? (CaseRun.map? · c.toNat) with
    | some n => [Char.ofNat n]
    | none => [c]

def upperChar (c : Char) : List Char := mapCase upperRuns upperSpecials c

/-- The lower case of a character, whatever stands beside it. -/
def lowerChar (c : Char) : List Char := mapCase lowerRuns lowerSpecials c

/-- Whether the next character that is not ignored is a cased letter. -/
def meetsCased (s : List Char) : Bool :=
  match s.dropWhile caseIgnorable.contains with
  | [] => false
  | c :: _ => cased.contains c

/-- A sigma ends a word iff a cased letter stands before it and none after it; `before` is read
from the sigma backwards. -/
def finalSigma (before after : List Char) : Bool := meetsCased before && !meetsCased after

/-- Lower case of the characters, given those already passed, the nearest first. -/
def lowerFrom (before : List Char) : List Char → List Char
  | [] => []
  | c :: cs =>
    (if c = 'Σ' then [if finalSigma before cs then 'ς' else 'σ'] else lowerChar c) ++
      lowerFrom (c :: before) cs

def toUpper (s : String) : String := String.ofList (s.toList.flatMap upperChar)

def toLower (s : String) : String := String.ofList (lowerFrom [] s.toList)

end Cloister.Text
