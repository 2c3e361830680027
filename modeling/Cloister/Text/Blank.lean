import Cloister.Text.Spans

/-! # White space

* `Text.blanks`: the white space of the Unicode standard, with the four information separators.
* `Text.trimChars`, `Text.trim`: a text without the white space at its two ends.
-/

namespace Cloister.Text
set_option autoImplicit false

/-- White space: the property of the Unicode standard and the separators U+001C to U+001F. -/
def blanks : Spans :=
  ⟨[(0x09, 0x0D), (0x1C, 0x20), (0x85, 0x85), (0xA0, 0xA0), (0x1680, 0x1680), (0x2000, 0x200A),
    (0x2028, 0x2029), (0x202F, 0x202F), (0x205F, 0x205F), (0x3000, 0x3000)]⟩

def isBlank (c : Char) : Bool := blanks.contains c

/-- The characters without leading and trailing white space. -/
def trimChars (s : List Char) : List Char :=
  ((s.dropWhile isBlank).reverse.dropWhile isBlank).reverse

/-- The text without leading and trailing white space. -/
def trim (s : String) : String := String.ofList (trimChars s.toList)

@[simp] theorem toList_trim (s : String) : (trim s).toList = trimChars s.toList := by
  simp [trim]

@[simp] theorem trimChars_nil : trimChars [] = [] := rfl

end Cloister.Text
