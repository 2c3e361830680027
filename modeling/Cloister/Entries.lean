import Cloister.Distinct
import Cloister.Text.Blank
import Cloister.Text.Pieces

/-! # Lists of entries in one text

Capabilities, paths, devices and sockets are given as texts with entries separated by commas.

* `Entries.ofText`: the entries of one text.
* `Entries.parse`: the entries of several texts, each listed once, in order of first occurrence.
-/

namespace Cloister.Entries
set_option autoImplicit false

def comma : Char := ','

/-- The trimmed texts that are not empty. -/
def filled (texts : List String) : List String :=
  (texts.map Text.trim).filter (· ≠ "")

/-- The entries of a text: its pieces between commas, trimmed, without the empty ones. -/
def ofText (s : String) : List String := filled (Text.pieces comma s)

/-- The distinct entries of several texts, in order of first occurrence; a missing text has none. -/
def parse (sources : List (Option String)) : Distinct String :=
  Distinct.ofList (sources.flatMap fun s => ofText (s.getD ""))

theorem mem_filled {texts : List String} {e : String} :
    e ∈ filled texts ↔ (∃ t ∈ texts, Text.trim t = e) ∧ e ≠ "" := by
  simp [filled]

theorem mem_parse {sources : List (Option String)} {e : String} :
    e ∈ parse sources ↔ ∃ s ∈ sources, e ∈ ofText (s.getD "") := by
  simp [parse]

end Cloister.Entries
