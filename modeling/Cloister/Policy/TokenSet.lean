import Cloister.Entries

/-! # Sets of capability tokens

* `TokenSet`: the tokens of a policy. Tokens that no rule knows are kept; they match no question.
* `TokenSet.ofTexts`, `TokenSet.ofSources`: tokens from loose texts, and from the two lists that
  an application and its user give.
-/

namespace Cloister
set_option autoImplicit false

/-- The tokens of a policy. -/
abbrev TokenSet := Distinct String

namespace TokenSet

/-- Tokens from loose texts, trimmed; missing and empty ones are dropped. -/
def ofTexts (texts : List (Option String)) : TokenSet :=
  Distinct.ofList (Entries.filled (texts.map (·.getD "")))

/-- The tokens of the application's list and of the user's list together. -/
def ofSources (application user : Option String) : TokenSet :=
  ofTexts ((Entries.parse [application, user]).toList.map some)

def sorted (t : TokenSet) : List String := t.toList.mergeSort (fun a b => decide (a ≤ b))

end TokenSet
end Cloister
