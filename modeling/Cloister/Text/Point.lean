import Cloister.Text.Hex

/-! # Code points

A text that is put together from numbers may hold half of a pair of UTF-16 units, which is no
character.

* `Text.Point`, `Text.Points`: a character or half of a pair, and texts of them.
* `Text.points`: the code points of a string.
* `Text.units`: the UTF-16 units of a code point.
* `Text.joined`: a text with a character in the place of every two halves of a pair.
* `Text.onStream`: what a stream of characters shows of a text.
-/

namespace Cloister.Text
set_option autoImplicit false

/-- A character, or half of a pair. -/
abbrev Point := Fin 0x110000

abbrev Points := List Point

theorem toNat_bounds (c : Char) :
    c.toNat < 0xD800 ∨ 0xDFFF < c.toNat ∧ c.toNat < 0x110000 := c.valid

def pointOf (c : Char) : Point :=
  ⟨c.toNat, (toNat_bounds c).elim (fun h => Nat.lt_trans h (by decide)) And.right⟩

/-- The code point of a number. -/
def pointAt (n : Nat) : Point := Fin.ofNat _ n

theorem pointAt_eq {n : Nat} (h : n < 0x110000) : pointAt n = ⟨n, h⟩ :=
  Fin.ext (Nat.mod_eq_of_lt h)

/-- The code points of a string. -/
def points (s : String) : Points := s.toList.map pointOf

/-! ## Halves -/

/-- Whether a code point is the first half of a pair. -/
def isHigh (p : Point) : Bool := 0xD800 ≤ p.val && p.val < 0xDC00

/-- Whether a code point is the second half of a pair. -/
def isLow (p : Point) : Bool := 0xDC00 ≤ p.val && p.val < 0xE000

theorem isHigh_iff {p : Point} : isHigh p = true ↔ 0xD800 ≤ p.val ∧ p.val < 0xDC00 := by
  simp [isHigh]

theorem isLow_iff {p : Point} : isLow p = true ↔ 0xDC00 ≤ p.val ∧ p.val < 0xE000 := by
  simp [isLow]

/-- The character that two halves stand for. -/
def pair (high low : Point) : Point :=
  pointAt (0x10000 + (high.val - 0xD800) * 0x400 + (low.val - 0xDC00))

/-- The first half of a character beyond the basic plane. -/
def highHalf (p : Point) : Point := ⟨0xD800 + (p.val - 0x10000) / 0x400, by omega⟩

/-- The second half of a character beyond the basic plane. -/
def lowHalf (p : Point) : Point := ⟨0xDC00 + (p.val - 0x10000) % 0x400, by omega⟩

/-- The UTF-16 units of a code point. -/
def units (p : Point) : Points := if p.val < 0x10000 then [p] else [highHalf p, lowHalf p]

/-- A text with a character in the place of every first half that stands before a second one. -/
def joined : Points → Points
  | [] => []
  | [p] => [p]
  | p :: q :: rest =>
    if isHigh p && isLow q then pair p q :: joined rest else p :: joined (q :: rest)

/-! ## Characters -/

/-- The character that a code point is, unless it is half of a pair. -/
def character? (p : Point) : Option Char :=
  if isHigh p || isLow p then none else some (Char.ofNat p.val)

/-- The string of a text, if it holds nothing but characters. -/
def string? (s : Points) : Option String := (s.mapM character?).map String.ofList

/-- What a stream of characters shows of a text: half of a pair is shown by its number. -/
def onStream (s : Points) : String :=
  String.ofList (s.flatMap fun p => ((character? p).map fun c => [c]).getD ('\\' :: 'u' :: hex 4 p.val))

theorem character?_pointOf (c : Char) : character? (pointOf c) = some c := by
  have hbounds := toNat_bounds c
  have hhalf : ¬ (isHigh (pointOf c) || isLow (pointOf c)) = true := by
    rw [Bool.or_eq_true, isHigh_iff, isLow_iff]
    change ¬ (0xD800 ≤ c.toNat ∧ c.toNat < 0xDC00 ∨ 0xDC00 ≤ c.toNat ∧ c.toNat < 0xE000)
    omega
  rw [character?, if_neg hhalf]
  exact congrArg some (Char.ofNat_toNat c)

/-- A string is shown as it is. -/
@[simp] theorem onStream_points (s : String) : onStream (points s) = s := by
  have hchars (cs : List Char) :
      (cs.map pointOf).flatMap (fun p =>
        ((character? p).map fun c => [c]).getD ('\\' :: 'u' :: hex 4 p.val)) = cs := by
    induction cs with
    | nil => rfl
    | cons c cs ih => rw [List.map_cons, List.flatMap_cons, ih, character?_pointOf]; rfl
  rw [onStream, points, hchars, String.ofList_toList]

end Cloister.Text
