import Cloister.Literal.Grammar

/-! # Literals

A literal is the text of a value: a number, a text, a word for a constant, or a tuple, a set or pairs
of literals.

* `Literal.node`: the expression of a text, or the complaint about it.
* `Literal.Refusal`: why a text is no literal.
* `Literal.check`: whether a text is a literal.
-/

namespace Cloister.Literal
set_option autoImplicit false

def reader (ts : Array Token) (strict : Bool) : Reader :=
  { tokens := ts, strict := strict, memories := Array.replicate (ts.size + 1) [] }

/-- The rules that can be inside each other: all of them at each token. -/
def depthFor (ts : Array Token) : Nat := 16 * (ts.size + 2)

/-- The complaint about the last place without a token, if it counts for the whole text. -/
def grave? (ts : Array Token) : Option Complaint :=
  match ts.back? with
  | some ⟨.broken c true, _, _, _⟩ => some c
  | _ => none

/-- The complaint about a bracket that is never closed, if it stands on an earlier line than the last
token that has been looked at. -/
def unclosed? (r : Reader) : Option Complaint :=
  match r.tokens.back?, r.tokens[r.reach - 1]? with
  | some ⟨.broken _ _, _, (c, line) :: _, _⟩, some t =>
    if line < t.line then some (.unclosed c) else none
  | _, _ => none

/-- Whether the end of the text was noticed with the last token that has been looked at. -/
def Reader.atEnd (r : Reader) : Bool :=
  match r.tokens[r.reach - 1]? with
  | some t =>
    t.atEnd || match t.kind with
      | .broken _ _ | .finish => true
      | _ => false
  | none => true

/-- The complaint that counts where a rule complains. The rest of the text is looked at as well. -/
def settled (c : Complaint) (r : Reader) : Complaint :=
  if r.atEnd then c else ((grave? r.tokens).or (unclosed? r)).getD c

/-- The complaint where no rule complains. The last token of the first reading decides on an
indentation, and the rest of the text is looked at otherwise. -/
def general (first second : Reader) : Complaint :=
  match first.tokens[first.reach - 1]? with
  | some ⟨.indent, _, _, _⟩ => .indented
  | _ => ((grave? second.tokens).or (unclosed? second)).getD .malformed

/-- The expression of tokens. They are read a second time, with a look for likely mistakes, if they
make none. -/
def nodeOf (ts : Array Token) : Except Complaint Node :=
  match Grammar.whole (depthFor ts) (reader ts false) with
  | .accept n _ => .ok n
  | .complain c r => .error (settled c r)
  | .reject first =>
    match Grammar.whole (depthFor ts) (reader ts true) with
    | .accept n _ => .ok n
    | .complain c r => .error (settled c r)
    | .reject second => .error (general first second)

/-- The expression of a text, or the complaint about it. -/
def node (s : List Char) : Except Complaint Node := nodeOf (tokens s).toArray

/-- Why a text is no literal: it is no expression, or one that is no literal. -/
inductive Refusal where
  | text (c : Complaint)
  | value (f : Node.Fault)
  deriving DecidableEq, Repr

def check (s : List Char) : Except Refusal Unit :=
  match node s with
  | .error c => .error (.text c)
  | .ok n =>
    match n.value with
    | .error f => .error (.value f)
    | .ok _ => .ok ()

end Cloister.Literal
