import Cloister.Literal.Node
import Cloister.Literal.Token

/-! # Reading by rules

A rule reads tokens from a place on: it accepts them and goes on behind them, it rejects them, so
that another rule can be tried at the same place, or it complains, and nothing else is tried.

* `Literal.Rule`: the rules whose results are remembered.
* `Literal.Reader`: the tokens, the place, and the results so far.
* `Literal.Parse`: a rule as a function on readers, with the ways to put rules together.
-/

namespace Cloister.Literal
set_option autoImplicit false

/-- The rules that are used by others before they are written down. -/
inductive Rule where
  | expression
  | starExpression
  | disjunction
  | conjunction
  | inversion
  | bitOr
  | bitXor
  | bitAnd
  | shift
  | sum
  | term
  | factor
  | primary
  | arguments
  | target
  | namedFlaw
  deriving DecidableEq, Repr

/-- What was found by a rule at a place: nothing, or an expression and the place after it. -/
structure Memory where
  rule : Rule
  place : Nat
  found : Option (Node × Nat)

/-- The tokens, the place of the next one, the number of tokens that have been looked at, whether
likely mistakes are looked for, and what was found so far. -/
structure Reader where
  tokens : Array Token
  place : Nat := 0
  reach : Nat := 0
  strict : Bool
  memories : Array (List Memory)

/-- How a rule ends. -/
inductive Outcome (α : Type) where
  | accept (a : α) (r : Reader)
  | reject (r : Reader)
  | complain (c : Complaint) (r : Reader)

def Parse (α : Type) : Type := Reader → Outcome α

namespace Parse

variable {α β : Type}

instance : Monad Parse where
  pure a := fun r => .accept a r
  bind p f := fun r =>
    match p r with
    | .accept a r => f a r
    | .reject r => .reject r
    | .complain c r => .complain c r

def reject : Parse α := fun r => .reject r

def complain (c : Complaint) : Parse α := fun r => .complain c r

/-- Complains about an expression, if there is something to complain about. -/
def complain? : Option Complaint → Parse α
  | some c => complain c
  | none => reject

/-- Tries a rule, and another one at the same place if it is rejected. -/
def orElse (p : Parse α) (q : Unit → Parse α) : Parse α := fun r =>
  match p r with
  | .reject left => q () { left with place := r.place }
  | o => o

instance : OrElse (Parse α) := ⟨orElse⟩

/-- A rule only where likely mistakes are looked for. -/
def strictly (p : Parse α) : Parse α := fun r => if r.strict then p r else .reject r

/-- A rule that does not look for likely mistakes. -/
def leniently (p : Parse α) : Parse α := fun r =>
  match p { r with strict := false } with
  | .accept a left => .accept a { left with strict := r.strict }
  | .reject left => .reject { left with strict := r.strict }
  | .complain c left => .complain c { left with strict := r.strict }

/-- A rule, if it accepts. -/
def optional (p : Parse α) : Parse (Option α) := (some <$> p) <|> pure none

/-- Whether a rule accepts what follows, which is left as it is. -/
def follows (p : Parse α) : Parse Bool := fun r =>
  match p r with
  | .accept _ left => .accept true { left with place := r.place }
  | .reject left => .accept false { left with place := r.place }
  | .complain c left => .complain c left

/-- Goes on only if something holds. -/
def guard (b : Bool) : Parse Unit := if b then pure () else reject

/-- Goes on only where a rule rejects what follows. -/
def without (p : Parse α) : Parse Unit := do guard (!(← follows p))

/-- Goes on only where a rule accepts what follows. -/
def ahead (p : Parse α) : Parse Unit := do guard (← follows p)

/-- A rule as often as it accepts, at most `n` times. -/
def repeatUpTo : Nat → Parse α → Parse (List α)
  | 0, _ => pure []
  | n + 1, p => (do
      let a ← p
      return a :: (← repeatUpTo n p)) <|> pure []

/-- A rule as often as it accepts; each time takes a token at least. -/
def many (p : Parse α) : Parse (List α) := fun r => repeatUpTo r.tokens.size p r

/-- The next token, if it is one that is looked for. There is nothing to look at in a broken one. -/
def token (f : Token.Kind → Option α) : Parse α := fun r =>
  match r.tokens[r.place]? with
  | none => .reject r
  | some t =>
    let seen := { r with reach := max r.reach (r.place + 1) }
    match t.kind, f t.kind with
    | .broken c _, _ => .complain c seen
    | _, some a => .accept a { seen with place := r.place + 1 }
    | _, none => .reject seen

def sign (s : String) : Parse Unit :=
  token fun
    | .sign t => if t = s then some () else none
    | _ => none

def oneOf (signs : List String) : Parse String :=
  token fun
    | .sign t => if t ∈ signs then some t else none
    | _ => none

def name : Parse String :=
  token fun
    | .name s => some s
    | _ => none

def text : Parse Quoted :=
  token fun
    | .text q => some q
    | _ => none

def separated (p : Parse α) (s : String) : Parse (List α) := do
  let a ← p
  let rest ← many do
    sign s
    p
  return a :: rest

/-- The number of brackets that are open after the last token. -/
def depth : Parse Nat := fun r =>
  .accept (((r.tokens[r.place - 1]?).map (·.depth)).getD 0) r

def memory? (rule : Rule) (r : Reader) : Option Memory :=
  ((r.memories[r.place]?).getD []).find? (·.rule == rule)

def remember (rule : Rule) (place : Nat) (found : Option (Node × Nat)) (r : Reader) : Reader :=
  { r with memories := r.memories.modify place (⟨rule, place, found⟩ :: ·) }

/-- A rule that is carried out at most once at each place. -/
def remembered (rule : Rule) (p : Parse Node) : Parse Node := fun r =>
  match memory? rule r with
  | some ⟨_, _, some (n, place)⟩ => .accept n { r with place := place }
  | some ⟨_, _, none⟩ => .reject r
  | none =>
    match p r with
    | .accept n left => .accept n (remember rule r.place (some (n, left.place)) left)
    | .reject left => .reject (remember rule r.place none left)
    | .complain c left => .complain c left

end Parse
end Cloister.Literal
