import Cloister.Console.Markup
import Cloister.Console.Table

/-! # The console as a screen

A console that writes without colours, for output that is not a terminal of its own.

* `Console.columns`: how wide it is under an environment.
* `Console.screen`, `Console.manual`: a console that is as wide as the environment says, and its
  manual.
-/

namespace Cloister.Console
set_option autoImplicit false

/-- The variables that the layout depends on. -/
def variableNames : List String := ["TTY_COMPATIBLE", "FORCE_COLOR", "TERM", "COLUMNS"]

/-- The width where nothing tells it. -/
def defaultColumns : Nat := 80

/-- Whether the environment says that the output is read like that of a terminal. -/
def claimsTerminal (e : Environment) : Bool :=
  match e.get? "TTY_COMPATIBLE" with
  | some "0" => false
  | some "1" => true
  | _ => e.getD "FORCE_COLOR" "" != ""

/-- Whether the environment tells of a terminal that can do nothing but print. -/
def isDumb (e : Environment) : Bool :=
  claimsTerminal e && ["dumb", "unknown"].contains (Text.toLower (e.getD "TERM" ""))

/-- The width that the environment asks for: a number other than zero, unless the terminal is a dumb
one. -/
def columns (e : Environment) : Nat :=
  let digits := (e.getD "COLUMNS" "").toList
  let given := digits.foldl (fun n d => 10 * n + (d.toNat - 48)) 0
  if isDumb e ∨ given = 0 ∨ digits.any (!Char.isDigit ·) then defaultColumns else given

/-- A console that is as wide as the environment says. -/
def screen (width : Environment → Nat) : Screen Markup.Failure
  | e, .message markup =>
    match Markup.render (width e) markup with
    | .ok shown => ⟨shown ++ "\n", none⟩
    | .error f => ⟨"", some f⟩
  | _, .blank => ⟨"\n", none⟩
  | e, .table t => ⟨String.join ((t.lines (width e)).map (· ++ "\n")), none⟩

/-- The manual of such a console. -/
def manual (width : Environment → Nat) : Screen.Manual where
  width := width
  cells := charWidth
  isAltered c := Markup.isSilent c || c == '\t' || c == joiner
  isPicture name := (Emoji.code? name).isSome

end Cloister.Console
