import Cloister.Screen
import Cloister.Text.Blank
import Cloister.Text.Pieces

/-! # What the manual of a screen says

A message on a screen may hold tags in square brackets. An opening tag starts a style, a closing tag
ends the last one of its name, or the last one of all if it has no name, and the tags themselves are
not shown. A backslash before a tag makes it plain text, and names between colons stand for pictures.
Lines that do not fit are broken.

* `Screen.readTag`, `Screen.readName`: what is taken for a tag, and for a name between colons.
* `Screen.Wraps`: a text that is shown in lines that fit.
* `Screen.Manual`: what a manual tells of its screen.
* `Screen.Manual.isPlain`: a text in which nothing is taken for markup.
* `Screen.Manual.Describes`: what a manual promises of the messages on a screen.
-/

namespace Cloister.Screen
set_option autoImplicit false

/-! ## Tags and names -/

def startsTag (c : Char) : Bool := c.isLower || c == '#' || c == '/' || c == '@'

/-- Reads up to the bracket that closes a tag; another opening bracket comes too early. -/
def readBody : List Char → Option (List Char)
  | [] => none
  | c :: cs =>
    if c = ']' then some []
    else if c = '[' then none
    else (readBody cs).map (c :: ·)

/-- Reads a tag after its opening bracket. -/
def readTag : List Char → Option (List Char)
  | [] => none
  | c :: cs => if startsTag c then readBody (c :: cs) else none

/-- Reads a name up to the next colon; white space comes too early. -/
def readName : List Char → Option (List Char)
  | [] => none
  | c :: cs =>
    if c = ':' then some []
    else if Text.isBlank c then none
    else (readName cs).map (c :: ·)

/-- A text between the tags of a colour. -/
def colored (s : List Char) : Printout := .message ("[red]" ++ String.ofList s ++ "[/red]")

/-! ## Lines -/

/-- The cells of the characters of a text, each taken by itself. -/
def cellCount (cells : Char → Nat) : List Char → Nat
  | [] => 0
  | c :: cs => cells c + cellCount cells cs

@[simp] theorem cellCount_nil (cells : Char → Nat) : cellCount cells [] = 0 := rfl

@[simp] theorem cellCount_cons (cells : Char → Nat) (c : Char) (s : List Char) :
    cellCount cells (c :: s) = cells c + cellCount cells s := rfl

@[simp] theorem cellCount_append (cells : Char → Nat) (s t : List Char) :
    cellCount cells (s ++ t) = cellCount cells s + cellCount cells t := by
  induction s with
  | nil => simp
  | cons c s ih => rw [List.cons_append, cellCount_cons, ih, cellCount_cons, Nat.add_assoc]

/-- A line that shows a piece of text: it fits, and only white space at the end is left out. -/
def Shows (cells : Char → Nat) (room : Nat) (line piece : List Char) : Prop :=
  cellCount cells line ≤ room ∧
    ∃ blank, piece = line ++ blank ∧ ∀ c ∈ blank, Text.isBlank c = true

/-- A text that is shown in lines, with nothing left out between them but white space: every line
shows its piece of the text. -/
def Wraps (cells : Char → Nat) (room : Nat) (s shown : List Char) : Prop :=
  ∃ rows : List (List Char × List Char), (∀ r ∈ rows, Shows cells room r.1 r.2) ∧
    rows.flatMap Prod.snd = s ∧ Text.glue '\n' (rows.map Prod.fst) = shown

/-! ## Manuals -/

/-- What a manual tells of its screen: how wide it is under an environment, how many cells a
character takes, which characters are left out or change the place of others, and which names stand
for pictures. -/
structure Manual where
  width : Environment → Nat
  cells : Char → Nat
  isAltered : Char → Bool
  isPicture : List Char → Bool

namespace Manual

/-- Whether a character is not shown as it is before the given rest of a text: it is no character that
is, it escapes a bracket, or a tag or the name of a picture starts there. -/
def isMarkup (m : Manual) (c : Char) (rest : List Char) : Bool :=
  m.isAltered c || (c == '\\' && rest.head? == some '[') ||
    (c == '[' && (readTag rest).isSome) || (c == ':' && (readName rest).any m.isPicture)

/-- Whether every character of a text is shown as it is. -/
def isPlain (m : Manual) : List Char → Bool
  | [] => true
  | c :: cs => !m.isMarkup c cs && m.isPlain cs

/-- What a manual promises of the messages on a screen. -/
structure Describes {ε : Type} (m : Manual) (screen : Screen ε) : Prop where
  /-- A text between the tags of a colour, in which nothing is taken for markup and which does not
  escape the closing tag, is shown in lines that fit. If there is room for two cells a character,
  it is shown as it is. -/
  shown (e : Environment) {s : List Char} : m.isPlain s = true → s.getLast? ≠ some '\\' →
      ∃ lines, screen e (colored s) = ⟨String.ofList lines ++ "\n", none⟩ ∧
        (2 ≤ m.width e → Wraps m.cells (m.width e) s lines) ∧
        (2 * s.length ≤ m.width e → lines = s)
  /-- A closing tag without a name ends the style that was opened last. One whose style is not open
  is refused, and nothing of the message is shown. -/
  unmatched (e : Environment) {s t : List Char} : m.isPlain s = true → m.isPlain t = true →
    s.getLast? ≠ some '\\' → t.getLast? ≠ some '\\' →
      ∃ f, screen e (colored (s ++ "[/]".toList ++ t)) = ⟨"", some f⟩

end Manual
end Cloister.Screen
