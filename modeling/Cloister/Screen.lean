import Cloister.Settings.Environment

/-! # Screens

What is told to the user goes to a screen: messages with markup, empty lines and tables. How they are
laid out is up to the screen and to the environment, and what is malformed may be refused.

* `Printout`: what can be printed.
* `Screen`: what is written for a printout, and why no more of it.
* `Screen.print`: several printouts, one after another.
-/

namespace Cloister
set_option autoImplicit false

/-- A table of texts, and the style of the heads of its columns. -/
structure Table where
  title : String
  headStyle : String
  heads : List String
  rows : List (List String)
  deriving DecidableEq, Repr

/-- What can be printed. -/
inductive Printout where
  /-- A message, in which tags and names of pictures may stand. -/
  | message (markup : String)
  | blank
  | table (t : Table)
  deriving DecidableEq, Repr

/-- What has been written, and why the rest of it could not be. -/
structure Screen.Outcome (ε : Type) where
  written : String
  failure : Option ε
  deriving DecidableEq, Repr

/-- What is written for a printout under an environment. -/
abbrev Screen (ε : Type) := Environment → Printout → Screen.Outcome ε

namespace Screen
variable {ε : Type}

/-- What is written for several printouts, one after another, up to the first that fails. -/
def print (screen : Screen ε) (e : Environment) : List Printout → Outcome ε
  | [] => ⟨"", none⟩
  | p :: ps =>
    match screen e p with
    | ⟨written, some failure⟩ => ⟨written, some failure⟩
    | ⟨written, none⟩ =>
      let rest := print screen e ps
      ⟨written ++ rest.written, rest.failure⟩

theorem print_singleton (screen : Screen ε) (e : Environment) (p : Printout) :
    screen.print e [p] = screen e p := by
  rw [print]
  obtain ⟨written, failure⟩ := screen e p
  cases failure <;> simp [print]

end Screen
end Cloister
