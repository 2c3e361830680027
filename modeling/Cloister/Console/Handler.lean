import Cloister.Literal
import Cloister.Text.Quoted
import Cloister.Text.Word

/-! # Handlers in markup

A tag with an at sign names an event and what handles it: the name of a handler with its arguments
in round brackets, or only the arguments. They are looked at when the tag is closed.

* `Handler.arguments`: the literal that the arguments of a handler are read from.
* `Handler.check`: whether they are a literal.
* `Handler.Failure`: why they are none.
-/

namespace Cloister.Handler
set_option autoImplicit false

def isEvent (name : List Char) : Bool := name.head? == some '@'

/-- Whether a character may stand in the name of a handler. -/
def inName (c : Char) : Bool := Text.isWordChar c || c == '.'

def noArguments : List Char := ['(', ')']

def isBracketed (s : List Char) : Bool :=
  s.head? == some '(' && s.getLast? == some ')' && !s.contains '\n'

/-- The literal that the arguments of a handler are read from. Without a handler it is the whole
text. -/
def arguments (s : List Char) : List Char :=
  match s.dropWhile inName with
  | [] => noArguments
  | rest => if isBracketed rest then rest else s

/-- Why the arguments of a handler are no literal: the literal, the text of the tag, and the
reason. -/
structure Failure where
  literal : List Char
  given : List Char
  reason : Literal.Refusal
  deriving DecidableEq, Repr

def Failure.message (f : Failure) : String :=
  let given := Text.quoted (String.ofList f.given)
  match f.reason with
  | .text c =>
    "error parsing " ++ Text.quoted (String.ofList f.literal) ++ " in " ++ given ++ "; " ++ c.message
  | .value v => "error parsing " ++ given ++ "; " ++ v.message

/-- Checks the text of a tag that names an event; it may be empty. -/
def check (given : List Char) : Except Failure Unit :=
  if given.isEmpty then .ok ()
  else
    let literal := arguments (Text.trimChars given)
    match Literal.check literal with
    | .ok _ => .ok ()
    | .error reason => .error ⟨literal, given, reason⟩

end Cloister.Handler
