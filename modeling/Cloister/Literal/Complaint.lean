import Cloister.Text.Hex

/-! # What can be wrong with a literal

* `Literal.Complaint`: why a text is no expression.
* `Literal.Complaint.message`: the words for it.
-/

namespace Cloister.Literal
set_option autoImplicit false

/-- Why a text is no expression. -/
inductive Complaint where
  /-- Nothing more is known than that it is none. -/
  | malformed
  | nullCharacter
  | strangeCharacter (c : Char)
  | hiddenCharacter (c : Char)
  | invalidNumber (base : String)
  | invalidDigit (digit : Char) (base : String)
  | leadingZeros
  | longNumber (digits : Nat)
  | openText (line : Nat)
  | openLongText (line : Nat)
  | unmatched (closing : Char)
  | mismatched (closing opening : Char) (line : Option Nat)
  | tooDeep
  | unclosed (opening : Char)
  | endOfText
  | continuation
  | indented
  | byteRange
  | mixedTexts
  | escape (first last : Nat) (reason : String)
  | byteEscape (position : Nat)
  | openField
  | closedField
  | emptyField
  /-- Two expressions beside each other. -/
  | comma
  | elseMissing
  /-- An equals sign in the place of a comparison. -/
  | equalsSign
  | assignmentHere (kind : String)
  | assignment (kind : String)
  | assignedExpression (kind : String)
  | callWords (name : String)
  | bareStar
  | starred
  | doublyStarred
  | starredValue
  | valueMissing
  | colonMissing
  | unpackedComprehension
  | unpackedPairs
  | comprehensionTarget
  | bareGenerator
  | listAfterPairs
  | positionAfterName
  | positionAfterPairs
  | namedExpression
  deriving DecidableEq, Repr

/-- The code point of a character in at least four capital digits. -/
def codePoint (c : Char) : String :=
  let digits := (Nat.toDigits 16 c.toNat).map Char.toUpper
  "U+" ++ String.ofList (List.replicate (4 - digits.length) '0' ++ digits)

def Complaint.message : Complaint → String
  | malformed => "invalid syntax"
  | nullCharacter => "source code string cannot contain null bytes"
  | strangeCharacter c => "invalid character '" ++ c.toString ++ "' (" ++ codePoint c ++ ")"
  | hiddenCharacter c => "invalid non-printable character " ++ codePoint c
  | invalidNumber base => "invalid " ++ base ++ " literal"
  | invalidDigit digit base => "invalid digit '" ++ digit.toString ++ "' in " ++ base ++ " literal"
  | leadingZeros =>
    "leading zeros in decimal integer literals are not permitted; " ++
      "use an 0o prefix for octal integers"
  | longNumber digits =>
    "Exceeds the limit (4300 digits) for integer string conversion: value has " ++
      toString digits ++ " digits; use sys.set_int_max_str_digits() to increase the limit" ++
      " - Consider hexadecimal for huge integer literals to avoid decimal conversion limits."
  | openText line => "unterminated string literal (detected at line " ++ toString line ++ ")"
  | openLongText line =>
    "unterminated triple-quoted string literal (detected at line " ++ toString line ++ ")"
  | unmatched closing => "unmatched '" ++ closing.toString ++ "'"
  | mismatched closing opening line =>
    "closing parenthesis '" ++ closing.toString ++ "' does not match opening parenthesis '" ++
      opening.toString ++ "'" ++ (line.map fun n => " on line " ++ toString n).getD ""
  | tooDeep => "too many nested parentheses"
  | unclosed opening => "'" ++ opening.toString ++ "' was never closed"
  | endOfText => "unexpected EOF while parsing"
  | continuation => "unexpected character after line continuation character"
  | indented => "unexpected indent"
  | byteRange => "bytes can only contain ASCII literal characters"
  | mixedTexts => "cannot mix bytes and nonbytes literals"
  | escape first last reason =>
    "(unicode error) 'unicodeescape' codec can't decode bytes in position " ++ toString first ++
      "-" ++ toString last ++ ": " ++ reason
  | byteEscape position =>
    "(value error) invalid \\x escape at position " ++ toString position
  | openField => "f-string: expecting '\x7d'"
  | closedField => "f-string: single '\x7d' is not allowed"
  | emptyField => "f-string: empty expression not allowed"
  | comma => "invalid syntax. Perhaps you forgot a comma?"
  | elseMissing => "expected 'else' after 'if' expression"
  | equalsSign => "invalid syntax. Maybe you meant '==' or ':=' instead of '='?"
  | assignmentHere kind =>
    "cannot assign to " ++ kind ++ " here. Maybe you meant '==' instead of '='?"
  | assignment kind => "cannot assign to " ++ kind
  | assignedExpression kind => "cannot use assignment expressions with " ++ kind
  | callWords name =>
    "Missing parentheses in call to '" ++ name ++ "'. Did you mean " ++ name ++ "(...)?"
  | bareStar => "Invalid star expression"
  | starred => "cannot use starred expression here"
  | doublyStarred => "cannot use double starred expression here"
  | starredValue => "cannot use a starred expression in a dictionary value"
  | valueMissing => "expression expected after dictionary key and ':'"
  | colonMissing => "':' expected after dictionary key"
  | unpackedComprehension => "iterable unpacking cannot be used in comprehension"
  | unpackedPairs => "dict unpacking cannot be used in dict comprehension"
  | comprehensionTarget => "did you forget parentheses around the comprehension target?"
  | bareGenerator => "Generator expression must be parenthesized"
  | listAfterPairs => "iterable argument unpacking follows keyword argument unpacking"
  | positionAfterName => "positional argument follows keyword argument"
  | positionAfterPairs => "positional argument follows keyword argument unpacking"
  | namedExpression => "expression cannot contain assignment, perhaps you meant \"==\"?"

end Cloister.Literal
