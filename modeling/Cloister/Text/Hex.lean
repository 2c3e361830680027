/-! # Hexadecimal digits

* `Text.hexDigit`: the lower case digit of a number below sixteen.
* `Text.hex`: the lowest digits of a number, as many as asked for.
-/

namespace Cloister.Text
set_option autoImplicit false

/-- The digit of a number below 16, in lower case. -/
def hexDigit (n : Nat) : Char := if n < 10 then Char.ofNat (48 + n) else Char.ofNat (87 + n)

/-- The lowest `width` hexadecimal digits of `n`, the highest of them first. -/
def hex : Nat → Nat → List Char
  | 0, _ => []
  | width + 1, n => hex width (n / 16) ++ [hexDigit (n % 16)]

@[simp] theorem length_hex (width n : Nat) : (hex width n).length = width := by
  induction width generalizing n with
  | zero => rfl
  | succ w ih => simp [hex, ih]

end Cloister.Text
