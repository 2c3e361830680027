import Cloister.Literal.Parse

/-! # The rules of expressions

The rules are written over the rules that they use, so that none of them refers to itself. Each group
of rules ends with those that look for likely mistakes; these accept nothing.

* `Literal.Grammar.body`: what each rule stands for.
* `Literal.Grammar.rule`: a rule, carried out with so many rules inside each other at most.
* `Literal.Grammar.whole`: an expression and the end of the text.
-/

namespace Cloister.Literal.Grammar
set_option autoImplicit false

open Parse

/-- The rules that a rule uses. -/
abbrev Rules := Rule → Parse Node

/-! ## Lists -/

/-- An item of a list in brackets: one that is unpacked, or a rule. -/
def starredOr (rs : Rules) (item : Parse Node) : Parse Node :=
  (do
    sign "*"
    return .starred (← rs .bitOr)) <|> item

/-- Expressions between commas, which make a tuple unless there is a single one without a comma. -/
def listed (item : Parse Node) : Parse Node := do
  let first ← item
  let rest ← many do
    sign ","
    item
  let comma ← optional (sign ",")
  return if rest.isEmpty && comma.isNone then first else .tuple (first :: rest)

/-- Expressions between commas, with a comma after the last one or without. -/
def items (item : Parse Node) : Parse (List Node) := do
  let ns ← separated item ","
  let _ ← optional (sign ",")
  return ns

/-- Expressions, some of which may be unpacked. -/
def starExpressions (rs : Rules) : Parse Node := listed (rs .starExpression)

/-! ## Assignments -/

def assignment (rs : Rules) : Parse Node := do
  let _ ← name
  sign ":="
  let _ ← rs .expression
  return .other "named expression"

/-- An expression that is no target of an assignment. -/
def unassigned (rs : Rules) : Parse Node := do
  let n ← rs .expression
  without (sign ":=")
  return n

/-- An expression with a name or without. -/
def named (rs : Rules) : Parse Node :=
  assignment rs <|> strictly (rs .namedFlaw) <|> unassigned rs

def starNamed (rs : Rules) : Parse Node := starredOr rs (named rs)

def starredExpression (rs : Rules) : Parse Node :=
  (do
    sign "*"
    return .starred (← rs .expression)) <|>
  (do
    sign "*"
    complain .bareStar)

def noAssignment : Parse Unit := without (oneOf ["=", ":="])

/-! ## Comprehensions -/

def targetList (rs : Rules) : Parse Node := do
  let first ← rs .target
  let rest ← many do
    sign ","
    rs .target
  let _ ← optional (sign ",")
  return .tuple (first :: rest)

/-- The target of a comprehension: a name, an attribute, or several of them in brackets. -/
def targetBody (rs : Rules) : Parse Node :=
  (do
    sign "*"
    without (sign "*")
    return .starred (← rs .target)) <|>
  (do
    let n ← rs .primary
    guard (n.kind == Node.access)
    return n) <|>
  (do
    return .name (← name)) <|>
  (do
    sign "("
    let n ← rs .target
    sign ")"
    return n) <|>
  (do
    sign "("
    let n ← optional (targetList rs)
    sign ")"
    return n.getD (.tuple []))

def targets (rs : Rules) : Parse Node :=
  (do
    let n ← rs .target
    without (sign ",")
    return n) <|> targetList rs

def targetFlaw (rs : Rules) : Parse Unit := do
  let _ ← optional (sign "async")
  sign "for"
  let n ← starExpressions rs
  complain? (n.target?.map fun t => .assignment t.kind)

/-- A part of a comprehension. After its source is announced, nothing else can be meant. -/
def clause (rs : Rules) : Parse Unit := do
  let opened ← optional do
    let _ ← optional (sign "async")
    sign "for"
    let _ ← targets rs
    sign "in"
  match opened with
  | none => strictly (targetFlaw rs)
  | some _ =>
    let _ ← rs .disjunction
    let _ ← many do
      sign "if"
      rs .disjunction

def clauses (rs : Rules) : Parse Unit := do
  clause rs
  let _ ← many (clause rs)

def comprehensionFlaw (rs : Rules) : Parse Node :=
  (do
    let _ ← oneOf ["[", "(", "\x7b"]
    let _ ← starredExpression rs
    clauses rs
    complain .unpackedComprehension) <|>
  (do
    let _ ← oneOf ["[", "\x7b"]
    let _ ← starNamed rs
    sign ","
    let _ ← optional (items (starNamed rs))
    clauses rs
    complain .comprehensionTarget)

/-! ## Brackets -/

def yielded (rs : Rules) : Parse Node := do
  sign "yield"
  let _ ← (do
    sign "from"
    let _ ← rs .expression) <|> (do
    let _ ← optional (starExpressions rs))
  return .other "yield expression"

def tuple (rs : Rules) : Parse Node := do
  sign "("
  let ns ← optional do
    let first ← starNamed rs
    sign ","
    let rest ← optional (items (starNamed rs))
    return first :: rest.getD []
  sign ")"
  return .tuple (ns.getD [])

def groupFlaw (rs : Rules) : Parse Node :=
  (do
    sign "("
    let _ ← starredExpression rs
    sign ")"
    complain .starred) <|>
  (do
    sign "("
    sign "**"
    let _ ← rs .expression
    sign ")"
    complain .doublyStarred)

def group (rs : Rules) : Parse Node :=
  (do
    sign "("
    let n ← yielded rs <|> named rs
    sign ")"
    return n) <|> strictly (groupFlaw rs)

def generator (rs : Rules) : Parse Node :=
  (do
    sign "("
    let _ ← assignment rs <|> unassigned rs
    clauses rs
    sign ")"
    return .other "generator expression") <|> strictly (comprehensionFlaw rs)

def pair (rs : Rules) : Parse (Option Node × Node) := do
  let k ← rs .expression
  sign ":"
  return (some k, ← rs .expression)

/-- A key and its value, or pairs that are unpacked. -/
def starredPair (rs : Rules) : Parse (Option Node × Node) :=
  (do
    sign "**"
    return (none, ← rs .bitOr)) <|> pair rs

/-- A value that is unpacked, or that is missing. -/
def valueFlaw (rs : Rules) : Parse Unit :=
  (do
    let _ ← rs .expression
    sign ":"
    sign "*"
    let _ ← rs .bitOr
    complain .starredValue) <|>
  (do
    let _ ← rs .expression
    sign ":"
    ahead (oneOf ["\x7d", ","])
    complain .valueMissing)

def pairFlaw (rs : Rules) : Parse Unit :=
  (do
    let _ ← rs .expression
    without (sign ":")
    complain .colonMissing) <|> valueFlaw rs

def pairsFlaw (rs : Rules) : Parse Unit :=
  (do
    let _ ← separated (starredPair rs) ","
    sign ","
    pairFlaw rs) <|> valueFlaw rs

def pairs (rs : Rules) : Parse Node :=
  (do
    sign "\x7b"
    let ps ← optional do
      let ps ← separated (starredPair rs) ","
      let _ ← optional (sign ",")
      return ps
    sign "\x7d"
    return .pairs (ps.getD [])) <|>
  (do
    sign "\x7b"
    pairsFlaw rs
    reject)

def set (rs : Rules) : Parse Node := do
  sign "\x7b"
  let ns ← items (starNamed rs)
  sign "\x7d"
  return .set ns

def pairsComprehension (rs : Rules) : Parse Node :=
  (do
    sign "\x7b"
    let _ ← pair rs
    clauses rs
    sign "\x7d"
    return .other "dict comprehension") <|>
  strictly do
    sign "\x7b"
    sign "**"
    let _ ← rs .bitOr
    clauses rs
    sign "\x7d"
    complain .unpackedPairs

def setComprehension (rs : Rules) : Parse Node :=
  (do
    sign "\x7b"
    let _ ← named rs
    clauses rs
    sign "\x7d"
    return .other "set comprehension") <|> strictly (comprehensionFlaw rs)

/-! ## Atoms -/

/-- Checks texts beside each other, which make one text. -/
def checkTexts (bytes : Option Bool) : List Quoted → Except Complaint Unit
  | [] => .ok ()
  | q :: qs =>
    match q.check with
    | .error c => .error c
    | .ok _ =>
      if bytes.any (· != q.bytes) then .error .mixedTexts else checkTexts (some q.bytes) qs

/-- Texts beside each other. -/
def texts : Parse Node := do
  let first ← text
  let rest ← many text
  match checkTexts none (first :: rest) with
  | .error c => complain c
  | .ok _ =>
    return if (first :: rest).any (·.fields) then .other "f-string expression" else .constant .text

def number : Parse Node := do
  let (n, written) ← token fun
    | .numeral n written => some (n, written)
    | _ => none
  match checkLength written with
  | .error c => complain c
  | .ok _ => return .constant (.numeral n.imaginary)

def constants : List (String × Constant) :=
  [("True", .true), ("False", .false), ("None", .none), ("...", .ellipsis)]

def constant : Parse Node := do
  let s ← oneOf (constants.map (·.1))
  match constants.lookup s with
  | some c => return .constant c
  | none => reject

/-- What needs no operator. -/
def atom (rs : Rules) : Parse Node :=
  (do
    return .name (← name)) <|> constant <|> texts <|> number <|>
  tuple rs <|> group rs <|> generator rs <|>
  pairs rs <|> set rs <|> pairsComprehension rs <|> setComprehension rs

/-! ## Calls -/

/-- An argument without a name. -/
def positional (rs : Rules) : Parse Node := do
  let n ← starredExpression rs <|> assignment rs <|> unassigned rs
  without (sign "=")
  return n

def keywordFlaw (rs : Rules) : Parse Node :=
  (do
    let s ← oneOf ["True", "False", "None"]
    sign "="
    complain (.assignment s)) <|>
  (do
    let _ ← name
    sign "="
    let _ ← rs .expression
    clauses rs
    complain .equalsSign) <|>
  (do
    without do
      let _ ← name
      sign "="
    let _ ← rs .expression
    sign "="
    complain .namedExpression)

def keyword (rs : Rules) : Parse Node := do
  let _ ← name
  sign "="
  let _ ← rs .expression
  return .arguments 0 false

/-- An argument with a name, or a list that is unpacked. -/
def keywordOrStarred (rs : Rules) : Parse Node :=
  strictly (keywordFlaw rs) <|> keyword rs <|> do
    let _ ← starredExpression rs
    return .arguments 1 false

/-- An argument with a name, or pairs that are unpacked. -/
def keywordOrPairs (rs : Rules) : Parse Node :=
  strictly (keywordFlaw rs) <|> keyword rs <|> do
    sign "**"
    let _ ← rs .expression
    return .arguments 0 true

def joined (parts : List Node) : Node :=
  parts.foldl
    (fun all part =>
      match all, part with
      | .arguments m u, .arguments n v => .arguments (m + n) (u || v)
      | all, _ => all)
    (.arguments 0 false)

def keywords (rs : Rules) : Parse Node :=
  (do
    let some ← separated (keywordOrStarred rs) ","
    sign ","
    let more ← separated (keywordOrPairs rs) ","
    return joined (some ++ more)) <|>
  (do
    return joined (← separated (keywordOrStarred rs) ",")) <|>
  (do
    return joined (← separated (keywordOrPairs rs) ","))

/-- Arguments without names, and those with names after them. -/
def argumentList (rs : Rules) : Parse Node :=
  (do
    let ns ← separated (positional rs) ","
    let rest ← optional do
      sign ","
      keywords rs
    return joined [.arguments ns.length false, rest.getD (.arguments 0 false)]) <|> keywords rs

def orderFlaw : Node → Complaint
  | .arguments _ true => .positionAfterPairs
  | _ => .positionAfterName

def argumentsFlaw (rs : Rules) : Parse Node :=
  (do
    let _ ← argumentList rs
    sign ","
    sign "*"
    complain .listAfterPairs) <|>
  (do
    let _ ← rs .expression
    clauses rs
    sign ","
    let _ ← optional ((do
      let _ ← argumentList rs) <|> do
      let _ ← rs .expression
      clauses rs)
    complain .bareGenerator) <|>
  (do
    let _ ← name
    sign "="
    let _ ← rs .expression
    clauses rs
    complain .equalsSign) <|>
  (do
    let n ← argumentList rs
    clauses rs
    match n with
    | .arguments n _ => if 1 < n then complain .bareGenerator else reject
    | _ => reject) <|>
  (do
    let _ ← argumentList rs
    sign ","
    let _ ← rs .expression
    clauses rs
    complain .bareGenerator) <|>
  (do
    let n ← argumentList rs
    sign ","
    let _ ← argumentList rs
    complain (orderFlaw n))

def argumentsBody (rs : Rules) : Parse Node :=
  (do
    let n ← argumentList rs
    let _ ← optional (sign ",")
    ahead (sign ")")
    return n) <|> strictly (argumentsFlaw rs)

/-- What may come after an expression at once: an attribute, or the arguments of a call. -/
def trailer (rs : Rules) : Parse (Node → Node) :=
  (do
    sign "."
    let _ ← name
    return fun _ => .other Node.access) <|>
  (do
    let _ ← generator rs
    return fun n => .call n false) <|>
  (do
    sign "("
    let given ← optional (rs .arguments)
    sign ")"
    return fun n => .call n given.isNone)

def primaryBody (rs : Rules) : Parse Node := do
  let n ← atom rs
  let ts ← many (trailer rs)
  return ts.foldl (fun n t => t n) n

/-! ## Operators -/

def chain (operand : Parse Node) (operators : List String) : Parse Node := do
  let first ← operand
  let rest ← many do
    let _ ← oneOf operators
    operand
  return if rest.isEmpty then first else .other Node.operation

/-- A sum. Two operands are kept, since a complex number is written as one. -/
def sumBody (rs : Rules) : Parse Node := do
  let first ← rs .term
  let rest ← many do
    let _ ← oneOf ["+", "-"]
    rs .term
  return match rest with
    | [] => first
    | [n] => .sum first n
    | _ => .other Node.operation

def awaited (rs : Rules) : Parse Node :=
  (do
    sign "await"
    let _ ← rs .primary
    return .other "await expression") <|> rs .primary

/-- A power, or a sign before one. -/
def factorBody (rs : Rules) : Parse Node :=
  (do
    let s ← oneOf ["+", "-", "~"]
    let n ← rs .factor
    return if s = "~" then .other Node.operation else .signed n) <|>
  (do
    let n ← awaited rs
    let power ← optional do
      sign "**"
      rs .factor
    return if power.isSome then .other Node.operation else n)

def comparisonSign : Parse String :=
  oneOf ["==", "!=", "<=", "<", ">=", ">"] <|>
  (do
    sign "not"
    sign "in"
    return "not in") <|>
  (do
    sign "in"
    return "in") <|>
  (do
    sign "is"
    let _ ← optional (sign "not")
    return "is")

def comparison (rs : Rules) : Parse Node := do
  let first ← rs .bitOr
  let rest ← many do
    let s ← comparisonSign
    let _ ← rs .bitOr
    return s
  return match rest with
    | [] => first
    | s :: _ => if s = "in" then .member first else .other "comparison"

def inversionBody (rs : Rules) : Parse Node :=
  (do
    sign "not"
    let _ ← rs .inversion
    return .other Node.operation) <|> comparison rs

/-! ## Expressions -/

def choice (rs : Rules) : Parse Node := do
  let _ ← rs .disjunction
  sign "if"
  let _ ← rs .disjunction
  sign "else"
  let _ ← rs .expression
  return .other "conditional expression"

/-- A parameter of a function, or a sign between parameters. -/
def parameter (rs : Rules) : Parse Unit :=
  (do
    let _ ← oneOf ["*", "**"]
    let _ ← name) <|>
  (do
    let _ ← oneOf ["*", "/"]) <|>
  (do
    let _ ← name
    let _ ← optional do
      sign "="
      rs .expression)

/-- A function without a name. -/
def function (rs : Rules) : Parse Node := do
  sign "lambda"
  let _ ← optional do
    let _ ← separated (parameter rs) ","
    let _ ← optional (sign ",")
  sign ":"
  let _ ← rs .expression
  return .other "lambda"

/-- An expression without a look for mistakes. -/
def plainExpression (rs : Rules) : Parse Node :=
  choice rs <|> rs .disjunction <|> function rs

/-- Words that have a meaning only at the head of a statement. -/
def softWords : List String := ["match", "case", "_"]

/-- Whether a name is such a word, or the beginning of one. -/
def isSoft (name : String) : Bool := softWords.any fun w => name.toList.isPrefixOf w.toList

def formerStatements : List String := ["print", "exec"]

def isFormerStatement : Node → Bool
  | .name s => formerStatements.contains s
  | _ => false

/-- Two expressions beside each other in brackets, or a choice without its second part. -/
def expressionFlaw (rs : Rules) : Parse Node :=
  (do
    without ((do
      let _ ← name
      let _ ← text) <|> do
      let s ← name
      guard (isSoft s))
    let n ← rs .disjunction
    let _ ← leniently (plainExpression rs)
    guard (!isFormerStatement n && (← depth) != 0)
    complain .comma) <|>
  (do
    let _ ← rs .disjunction
    sign "if"
    let _ ← rs .disjunction
    without (oneOf ["else", ":"])
    complain .elseMissing)

def statementFlaw (rs : Rules) : Parse Node := do
  let s ← name
  without (sign "(")
  let _ ← starExpressions rs
  if formerStatements.contains s then complain (.callWords s) else reject

def expressionBody (rs : Rules) : Parse Node :=
  strictly (expressionFlaw rs) <|> strictly (statementFlaw rs) <|> plainExpression rs

/-- Whether an expression can stand before a mistaken sign of assignment. -/
def mistakenTarget (rs : Rules) : Parse Unit :=
  without (tuple rs <|> generator rs <|> do
    let _ ← oneOf ["True", "None", "False"]
    return .tuple [])

def namedFlawBody (rs : Rules) : Parse Node :=
  (do
    let n ← rs .expression
    sign ":="
    let _ ← rs .expression
    complain (.assignedExpression n.kind)) <|>
  (do
    let _ ← name
    sign "="
    let _ ← rs .bitOr
    noAssignment
    complain .equalsSign) <|>
  (do
    mistakenTarget rs
    let n ← rs .bitOr
    sign "="
    let _ ← rs .bitOr
    noAssignment
    complain (.assignmentHere n.kind))

/-! ## All rules -/

/-- What each rule stands for. -/
def body (rs : Rules) : Rule → Parse Node
  | .expression => expressionBody rs
  | .starExpression => starredOr rs (rs .expression)
  | .disjunction => chain (rs .conjunction) ["or"]
  | .conjunction => chain (rs .inversion) ["and"]
  | .inversion => inversionBody rs
  | .bitOr => chain (rs .bitXor) ["|"]
  | .bitXor => chain (rs .bitAnd) ["^"]
  | .bitAnd => chain (rs .shift) ["&"]
  | .shift => chain (rs .sum) ["<<", ">>"]
  | .sum => sumBody rs
  | .term => chain (rs .factor) ["*", "/", "//", "%", "@"]
  | .factor => factorBody rs
  | .primary => primaryBody rs
  | .arguments => argumentsBody rs
  | .target => targetBody rs
  | .namedFlaw => namedFlawBody rs

/-- A rule, with at most `depth` rules inside each other. -/
def rule : Nat → Rules
  | 0, _ => reject
  | depth + 1, r => remembered r (body (rule depth) r)

def whole (depth : Nat) : Parse Node := do
  let n ← listed (rule depth .expression)
  let _ ← many (token fun k => if k = .newline then some () else none)
  token fun k => if k = .finish then some () else none
  return n

end Cloister.Literal.Grammar
