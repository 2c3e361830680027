import Cloister.Literal.Numeral
import Cloister.Literal.Quoted
import Cloister.Text.Printable
import Cloister.Text.Word

/-! # Tokens of literals

* `Literal.Token`: a token, with its line and the brackets that are open after it.
* `Literal.tokens`: the tokens of a text up to its end or to the first place without a token.
-/

namespace Cloister.Literal
set_option autoImplicit false

/-- What a token is. -/
inductive Token.Kind where
  | name (s : String)
  /-- A word with a fixed meaning, an operator or a bracket. -/
  | sign (s : String)
  | numeral (n : Numeral) (written : List Char)
  | text (q : Quoted)
  | newline
  /-- A change of the indentation of lines. -/
  | indent
  /-- The end of the text. -/
  | finish
  /-- A place where there can be no token. A grave one counts for the whole text, any other one only
  where it is reached. -/
  | broken (c : Complaint) (grave : Bool)
  deriving DecidableEq, Repr

/-- A token, its line, the brackets that are open after it, the last one first and each with its
line, and whether the end of the text was noticed with it. -/
structure Token where
  kind : Token.Kind
  line : Nat
  opened : List (Char × Nat)
  atEnd : Bool := false
  deriving DecidableEq, Repr

def Token.depth (t : Token) : Nat := t.opened.length

def keywords : List String :=
  ["False", "None", "True", "and", "as", "assert", "async", "await", "break", "class", "continue",
    "def", "del", "elif", "else", "except", "finally", "for", "from", "global", "if", "import",
    "in", "is", "lambda", "nonlocal", "not", "or", "pass", "raise", "return", "try", "while",
    "with", "yield"]

def longOperators : List String :=
  ["**=", "//=", "<<=", ">>=", "...", "!=", "%=", "&=", "**", "*=", "+=", "-=", "->", "//", "/=",
    ":=", "<<", "<=", "<>", "==", ">=", ">>", "@=", "^=", "|="]

/-! ## Names and texts -/

def checkName (s : List Char) : Except Complaint Unit :=
  let bad := match s with
    | c :: rest =>
      if Text.isNameStart c then rest.find? (!Text.isNameChar ·) else some c
    | [] => none
  match bad with
  | some c => .error (if Text.isPrintable c then .strangeCharacter c else .hiddenCharacter c)
  | none => .ok ()

def textMarks : List String := ["", "b", "r", "u", "f", "br", "rb", "fr", "rf"]

def isQuote (c : Char) : Bool := c == '"' || c == '\''

/-- The letters before a text at the head of a text, in lower case. -/
def textMark? (s : List Char) : Option String :=
  let letters := s.takeWhile Char.isAlpha
  let mark := String.ofList (letters.map Char.toLower)
  if mark ∈ textMarks ∧ (s.drop letters.length).head?.any isQuote then some mark else none

/-- Reads a text on one line up to its quote mark. -/
def readShort (quote : Char) : List Char → Option (List Char × List Char)
  | [] => none
  | '\\' :: c :: rest => (readShort quote rest).map fun (body, left) => ('\\' :: c :: body, left)
  | c :: rest =>
    if c = quote then some ([], rest)
    else if c = '\n' then none
    else (readShort quote rest).map fun (body, left) => (c :: body, left)

/-- Reads a text on several lines up to its three quote marks. -/
def readLong (quote : Char) : List Char → Option (List Char × List Char)
  | [] => none
  | '\\' :: c :: rest => (readLong quote rest).map fun (body, left) => ('\\' :: c :: body, left)
  | c :: rest =>
    if c = quote ∧ rest.take 2 = [quote, quote] then some ([], rest.drop 2)
    else (readLong quote rest).map fun (body, left) => (c :: body, left)

def lineEnds (s : List Char) : Nat := s.count '\n'

/-- The line on which a text that is not closed is noticed: that of the first line end without a
backslash. -/
def openLine (line : Nat) : List Char → Nat
  | [] => line
  | '\\' :: c :: rest => openLine (if c = '\n' then line + 1 else line) rest
  | c :: rest => if c = '\n' then line else openLine line rest

/-- A text after its mark, and the rest. -/
def readQuoted (line : Nat) (mark : String) (s : List Char) :
    Except Complaint (Quoted × List Char) :=
  let quoted (body : List Char) : Quoted :=
    ⟨mark.contains 'b', mark.contains 'r', mark.contains 'f', body⟩
  match s with
  | q :: rest =>
    if rest.take 2 = [q, q] then
      match readLong q (rest.drop 2) with
      | some (body, left) => .ok (quoted body, left)
      | none => .error (.openLongText (line + lineEnds rest))
    else
      match readShort q rest with
      | some (body, left) => .ok (quoted body, left)
      | none => .error (.openText (openLine line rest))
  | [] => .error .malformed

/-! ## Brackets -/

def mostBrackets : Nat := 200

def closing? (c : Char) : Option Char :=
  [('(', ')'), ('[', ']'), ('\x7b', '\x7d')].lookup c

/-- The brackets that are open after a character, each with its line, the last one first. -/
def brackets (line : Nat) (opened : List (Char × Nat)) (c : Char) :
    Except Complaint (List (Char × Nat)) :=
  if (closing? c).isSome then
    if mostBrackets ≤ opened.length then .error .tooDeep else .ok ((c, line) :: opened)
  else if c = ')' ∨ c = ']' ∨ c = '\x7d' then
    match opened with
    | [] => .error (.unmatched c)
    | (o, at_) :: rest =>
      if closing? o = some c then .ok rest
      else .error (.mismatched c o (if at_ = line then none else some at_))
  else .ok opened

/-! ## Texts -/

/-- What is known while tokens are read: the line, the brackets that are open, the indentation, and
whether nothing has been read on the line. -/
structure Scan where
  line : Nat := 1
  opened : List (Char × Nat) := []
  column : Nat := 0
  fresh : Bool := true

def Scan.token (s : Scan) (kind : Token.Kind) : Token := ⟨kind, s.line, s.opened, false⟩

/-- The complaint at the end of a text in which brackets are open, or another one. -/
def Scan.unclosed (s : Scan) (other : Complaint) : Complaint :=
  (s.opened.head?.map fun o => Complaint.unclosed o.1).getD other

def Scan.last (s : Scan) : Token :=
  s.token (if s.opened.isEmpty then .finish else .broken (s.unclosed .endOfText) false)

def isGap (c : Char) : Bool := c == ' ' || c == '\t' || c == '\x0c'

/-- The column after white space at the head of a line. -/
def columnOf (gap : List Char) : Nat :=
  gap.foldl (fun n c => if c = ' ' then n + 1 else if c = '\t' then (n / 8 + 1) * 8 else 0) 0

def operatorOf (s : List Char) : String :=
  (longOperators.find? fun o => o.toList.isPrefixOf s).getD (String.ofList (s.take 1))

/-- A token at the head of a text that does not start with white space, the rest, and what is known
after it. -/
def readToken (s : Scan) (text : List Char) : Except Complaint (Token × List Char × Scan) :=
  match text with
  | [] => .ok (s.last, [], s)
  | c :: rest =>
    match textMark? text with
    | some mark =>
      (readQuoted s.line mark (text.drop mark.length)).map fun (q, left) =>
        (s.token (.text q), left, { s with line := s.line + lineEnds q.body })
    | none =>
      if c.isDigit then
        (readNumeral text).map fun (n, left) =>
          (s.token (.numeral n (text.take (text.length - left.length))), left, s)
      else if inName c then
        let word := text.takeWhile inName
        (checkName word).map fun _ =>
          let w := String.ofList word
          (s.token (if w ∈ keywords then .sign w else .name w), text.drop word.length, s)
      else if c = '.' ∧ rest.head?.any Char.isDigit then
        (readFraction rest).map fun (n, left) => (s.token (.numeral n ['.']), left, s)
      else if !Text.isPrintable c then .error (.hiddenCharacter c)
      else
        let o := operatorOf text
        (brackets s.line s.opened c).map fun opened =>
          let s := { s with opened := opened }
          (s.token (.sign o), text.drop o.length, s)

/-- The token for a change of the indentation, if there is one at this place. -/
def Scan.indentation (s : Scan) (column : Nat) : List Token :=
  if s.fresh ∧ s.opened.isEmpty ∧ column ≠ s.column then [s.token .indent] else []

/-- Whether the end of the text is noticed with a token before it: a text ends with its quote mark,
all others end with the character after them. -/
def noticesEnd : Token.Kind → Bool
  | .text _ => false
  | _ => true

/-- The tokens of a text of less than `fuel` characters. -/
def tokensFrom : Nat → Scan → List Char → List Token
  | 0, s, _ => [s.last]
  | fuel + 1, s, text =>
    let gap := text.takeWhile isGap
    match text.drop gap.length with
    | [] => [s.last]
    | '#' :: rest => tokensFrom fuel s (rest.dropWhile (· ≠ '\n'))
    | '\n' :: rest =>
      let more := tokensFrom fuel { s with line := s.line + 1, fresh := true } rest
      if s.fresh ∨ !s.opened.isEmpty then more else s.token .newline :: more
    | ['\\', '\n'] => [s.token (.broken (s.unclosed .endOfText) false)]
    | '\\' :: '\n' :: rest => tokensFrom fuel { s with line := s.line + 1, fresh := false } rest
    | '\\' :: _ => [s.token (.broken .continuation false)]
    | c :: rest =>
      let column := columnOf gap
      let changes := s.indentation column
      let s := if s.fresh ∧ s.opened.isEmpty then { s with column := column } else s
      match readToken { s with fresh := false } (c :: rest) with
      | .error e => changes ++ [s.token (.broken e true)]
      | .ok (t, left, s) =>
        changes ++ { t with atEnd := left.isEmpty && noticesEnd t.kind } :: tokensFrom fuel s left

/-- A text with one character for every line end. -/
def withLineEnds : List Char → List Char
  | [] => []
  | '\r' :: '\n' :: rest => '\n' :: withLineEnds rest
  | c :: rest => (if c = '\r' then '\n' else c) :: withLineEnds rest

/-- The tokens of a text up to its end or to the first place without a token. -/
def tokens (s : List Char) : List Token :=
  if s.contains '\x00' then [({} : Scan).token (.broken .nullCharacter true)]
  else tokensFrom (s.length + 1) {} (withLineEnds s)

end Cloister.Literal
