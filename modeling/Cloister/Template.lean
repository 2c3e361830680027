import Cloister.Datum
import Cloister.Text.Point

/-! # Message templates

A template is a text with slots. A slot starts with a percent sign; it may name a key, set flags, a
width and a precision, and it ends in a letter that says how its argument is written. A number may be
written as the code point that it is, so that the text of a template can hold halves of pairs.

* `Template.Slot`, `Template.Segment`: slots, and the parts of a template.
* `Template.segments`: the parts of a template.
* `Template.Arguments`: arguments by position, or by key.
* `Template.Failure`: why a template cannot be filled.
* `Template.fill`: the text of a template with its slots filled.
-/

namespace Cloister.Template
set_option autoImplicit false

/-- A width or a precision: none, a number, or the next argument. -/
inductive Extent where
  | unset
  | given (n : Nat)
  | argument
  deriving DecidableEq, Repr

/-- A slot. Its letter is missing if the template ends before it; `index` is the place of the
letter in the template. -/
structure Slot where
  key : Option (List Char)
  flags : List Char
  width : Extent
  precision : Extent
  letter : Option Char
  index : Nat
  deriving DecidableEq, Repr

/-- A part of a template: a character that stands for itself, a slot, or a key without an end. -/
inductive Segment where
  | char (c : Char)
  | slot (s : Slot)
  | openKey
  deriving DecidableEq, Repr

/-! ## Reading templates -/

def isFlag (c : Char) : Bool := c == '-' || c == '+' || c == ' ' || c == '#' || c == '0'

/-- The letters that may stand before the last one and mean nothing. -/
def isSizeLetter (c : Char) : Bool := c == 'h' || c == 'l' || c == 'L'

/-- Reads a key up to the parenthesis that closes it; `depth` of the inner ones are open. -/
def readKey (depth : Nat) : List Char → Option (List Char × List Char)
  | [] => none
  | c :: cs =>
    if c = ')' then
      if depth = 0 then some ([], cs)
      else (readKey (depth - 1) cs).map fun (k, rest) => (c :: k, rest)
    else (readKey (if c = '(' then depth + 1 else depth) cs).map fun (k, rest) => (c :: k, rest)

def number (digits : List Char) : Nat := digits.foldl (fun n d => 10 * n + (d.toNat - 48)) 0

def readExtent : List Char → Extent × List Char
  | [] => (.unset, [])
  | c :: cs =>
    if c = '*' then (.argument, cs)
    else if c.isDigit then
      (.given (number ((c :: cs).takeWhile Char.isDigit)), (c :: cs).dropWhile Char.isDigit)
    else (.unset, c :: cs)

/-- Reads a precision; a point without a number after it means none at all is wanted. -/
def readPrecision : List Char → Extent × List Char
  | [] => (.unset, [])
  | c :: cs =>
    if c = '.' then
      match readExtent cs with
      | (.unset, rest) => (.given 0, rest)
      | other => other
    else (.unset, c :: cs)

def skipSize : List Char → List Char
  | [] => []
  | c :: cs => if isSizeLetter c then cs else c :: cs

def readLetter : List Char → Option Char × List Char
  | [] => (none, [])
  | c :: cs => (some c, cs)

/-- Reads a slot after its key, in a template of the given length. -/
def readSlot (length : Nat) (key : Option (List Char)) (s : List Char) : Slot × List Char :=
  let flags := s.takeWhile isFlag
  let (width, s₁) := readExtent (s.dropWhile isFlag)
  let (precision, s₂) := readPrecision s₁
  let s₃ := skipSize s₂
  let (letter, s₄) := readLetter s₃
  (⟨key, flags, width, precision, letter, length - s₃.length⟩, s₄)

/-- Reads what follows a percent sign: another one, or a slot with or without a key. A key without
an end is none. -/
def readSegment (length : Nat) : List Char → Option (Segment × List Char)
  | '%' :: rest => some (.char '%', rest)
  | '(' :: rest => (readKey 0 rest).map fun (key, rest') =>
    let (slot, rest'') := readSlot length (some key) rest'
    (.slot slot, rest'')
  | rest =>
    let (slot, rest') := readSlot length none rest
    some (.slot slot, rest')

/-- The parts of what is left of a template of the given length, after the `skip` characters that
belong to the part read last. -/
def segmentsFrom (length : Nat) (skip : Nat) : List Char → List Segment
  | [] => []
  | c :: cs =>
    if 0 < skip then segmentsFrom length (skip - 1) cs
    else if c ≠ '%' then .char c :: segmentsFrom length 0 cs
    else match readSegment length cs with
      | some (segment, rest) => segment :: segmentsFrom length (cs.length - rest.length) cs
      | none => [.openKey]

def segments (template : List Char) : List Segment := segmentsFrom template.length 0 template

/-! ## Filling slots -/

/-- Why a template cannot be filled. -/
inductive Failure where
  | incomplete
  | openKey
  | noMapping
  | noKey (key : String)
  | tooFew
  | tooMany
  | extentNotInt
  | numberNeeded (letter : Char) (given : String)
  | integerNeeded (letter : Char) (given : String)
  | realNeeded (given : String)
  | charNeeded
  | charOutOfRange
  | widthTooBig
  | precisionTooBig
  | precisionTooLarge
  | widthOutOfRange
  | precisionOutOfRange
  | infiniteWhole
  | noNumberWhole
  | tooLargeForReal
  | memory
  | unknownLetter (letter : Char) (index : Nat)
  deriving DecidableEq, Repr

/-- The kinds of failures, as error reports tell them apart. -/
inductive Failure.Kind where
  | value
  | type
  | key
  | overflow
  | memory
  deriving DecidableEq, Repr

def Failure.kind : Failure → Failure.Kind
  | incomplete | openKey | unknownLetter .. | widthTooBig | precisionTooBig | noNumberWhole => .value
  | noKey _ => .key
  | charOutOfRange | precisionTooLarge | widthOutOfRange | precisionOutOfRange | infiniteWhole
  | tooLargeForReal => .overflow
  | memory => .memory
  | _ => .type

def Failure.message : Failure → String
  | incomplete => "incomplete format"
  | openKey => "incomplete format key"
  | noMapping => "format requires a mapping"
  | noKey key => Text.quoted key
  | tooFew => "not enough arguments for format string"
  | tooMany => "not all arguments converted during string formatting"
  | extentNotInt => "* wants int"
  | numberNeeded letter given =>
    "%" ++ letter.toString ++ " format: a real number is required, not " ++ given
  | integerNeeded letter given =>
    "%" ++ letter.toString ++ " format: an integer is required, not " ++ given
  | realNeeded given => "must be real number, not " ++ given
  | charNeeded => "%c requires int or char"
  | charOutOfRange => "%c arg not in range(0x110000)"
  | widthTooBig => "width too big"
  | precisionTooBig => "precision too big"
  | precisionTooLarge => "precision too large"
  | widthOutOfRange => "Python int too large to convert to C ssize_t"
  | precisionOutOfRange => "Python int too large to convert to C int"
  | infiniteWhole => "cannot convert float infinity to integer"
  | noNumberWhole => "cannot convert float NaN to integer"
  | tooLargeForReal => "int too large to convert to float"
  | memory => ""
  | unknownLetter letter index =>
    let shown := if 31 ≤ letter.toNat ∧ letter.toNat ≤ 126 then letter else '?'
    "unsupported format character '" ++ shown.toString ++ "' (0x" ++
      String.ofList (Nat.toDigits 16 letter.toNat) ++ ") at index " ++ toString index

/-- The arguments of a template: those that are still to be used, and the fields of the single
object that they are looked up in by key. -/
structure Arguments where
  pending : List Datum
  mapping : Option (List (String × Datum))

/-- The arguments of a list: a single object with fields is looked up by key. -/
def Arguments.ofList : List Datum → Arguments
  | [.object (f :: fs)] => ⟨[.object (f :: fs)], some (f :: fs)⟩
  | ds => ⟨ds, none⟩

/-- What stands in a slot before it is brought to its width. -/
structure Filling where
  sign : List Char := []
  mark : List Char := []
  body : Text.Points
  numeric : Bool := false

/-- A filling brought to a width: to the left if the flags ask for it, else to the right, where a
number may be filled with zeros after its sign. -/
def Filling.padded (f : Filling) (flags : List Char) (width : Nat) : Text.Points :=
  let front := (f.sign ++ f.mark).map Text.pointOf
  let text := front ++ f.body
  let missing (c : Char) : Text.Points := List.replicate (width - text.length) (Text.pointOf c)
  if '-' ∈ flags then text ++ missing ' '
  else if f.numeric ∧ '0' ∈ flags then front ++ missing '0' ++ f.body
  else missing ' ' ++ text

def signOf (flags : List Char) (negative : Bool) : List Char :=
  if negative then ['-'] else if '+' ∈ flags then ['+'] else if ' ' ∈ flags then [' '] else []

/-- The whole number that a binary number stands for: what it has before the point. -/
def wholeOfReal : Binary64 → Except Failure Int
  | .finite negative m e => .ok (Binary64.wholePart negative m e)
  | .infinite _ => .error .infiniteWhole
  | .nan => .error .noNumberWhole

def whole (letter : Char) (d : Datum) : Except Failure Int :=
  match d, d.integer? with
  | _, some n => .ok n
  | .real x, none => wholeOfReal x
  | _, none => .error (.numberNeeded letter d.typeName)

/-- The binary number that an argument stands for; a whole number may be beyond all of them. -/
def real (d : Datum) : Except Failure Binary64 :=
  match d, d.integer? with
  | .real x, _ => .ok x
  | _, some n =>
    match Binary64.ofInt n with
    | .infinite _ => .error .tooLargeForReal
    | x => .ok x
  | _, none => .error (.realNeeded d.typeName)

def precisionBound : Nat := 2147483644

section Slots

-- `room` is the length beyond which there is no room for a number or for what is put around it
variable (room : Nat)

/-- A whole number in a base, with at least as many digits as the precision says. -/
def integerFilling (letter : Char) (flags : List Char) (precision : Option Nat) (n : Int) :
    Except Failure Filling :=
  let base := if letter = 'o' then 8 else if letter = 'x' ∨ letter = 'X' then 16 else 10
  let digits := Nat.toDigits base n.natAbs
  let digits := if letter = 'X' then digits.map Char.toUpper else digits
  let least := precision.getD 0
  if precisionBound < least then .error .precisionTooLarge
  else if room < least then .error .memory
  else .ok
    { sign := signOf flags (decide (n < 0))
      mark := if '#' ∈ flags ∧ base ≠ 10 then ['0', letter] else []
      body := (List.replicate (least - digits.length) '0' ++ digits).map Text.pointOf
      numeric := true }

/-- The digits of a binary number with places, without its sign. -/
def realDigits (letter : Char) (alternate : Bool) (places : Nat) : Binary64 → List Char
  | .finite _ m e =>
    let (n, k) := Binary64.expansion m e
    if letter = 'f' ∨ letter = 'F' then Text.fixedDigits n k places alternate
    else if letter = 'e' ∨ letter = 'E' then Text.scientificDigits n k places alternate
    else Text.generalDigits n k (max places 1) alternate
  | .infinite _ => ['i', 'n', 'f']
  | .nan => ['n', 'a', 'n']

def realFilling (letter : Char) (flags : List Char) (precision : Option Nat) (x : Binary64) :
    Except Failure Filling :=
  let places := precision.getD 6
  if room < places then .error .memory
  else
    let body := realDigits letter (decide ('#' ∈ flags)) places x
    let upper := letter = 'E' ∨ letter = 'G' ∨ letter = 'F'
    .ok
      { sign := signOf flags x.isNegative
        body := (if upper then body.map Char.toUpper else body).map Text.pointOf
        numeric := true }

/-- A quoted text with every character outside ASCII escaped. -/
def asciiQuoted (s : String) : String :=
  String.ofList (s.toList.flatMap fun c => if c.toNat < 128 then [c] else Text.numericEscape c)

def filling (letter : Char) (flags : List Char) (precision : Option Nat) (index : Nat) (d : Datum) :
    Except Failure Filling :=
  let cut (s : String) : Text.Points := match precision with
    | some p => (Text.points s).take p
    | none => Text.points s
  if letter = 's' then .ok { body := cut d.plain }
  else if letter = 'r' then .ok { body := cut d.quoted }
  else if letter = 'a' then .ok { body := cut (asciiQuoted d.quoted) }
  else if letter = 'd' ∨ letter = 'i' ∨ letter = 'u' then
    (whole letter d).bind (integerFilling room letter flags precision)
  else if letter = 'o' ∨ letter = 'x' ∨ letter = 'X' then
    match d.integer? with
    | some n => integerFilling room letter flags precision n
    | none => .error (.integerNeeded letter d.typeName)
  else if "eEfFgG".toList.contains letter then
    (real d).bind (realFilling room letter flags precision)
  else if letter = 'c' then
    match d with
    | .text s => match s.toList with
      | [c] => .ok { body := [Text.pointOf c] }
      | _ => .error .charNeeded
    | d => match d.integer? with
      | some n =>
        -- half of a pair is no character, but a code point all the same
        if n < 0 ∨ 0x10FFFF < n then .error .charOutOfRange
        else .ok { body := [Text.pointAt n.toNat] }
      | none => .error .charNeeded
  else .error (.unknownLetter letter index)

def take (pending : List Datum) : Except Failure (Datum × List Datum) :=
  match pending with
  | [] => .error .tooFew
  | d :: ds => .ok (d, ds)

/-- The numbers that may stand for an extent, and the failures of one written in the slot and of
one taken from the arguments beyond them. -/
structure Limits where
  least : Int
  greatest : Int
  written : Failure
  taken : Failure

/-- Widths are signed words of 64 bits. -/
def widthLimits : Limits :=
  ⟨-0x8000000000000000, 0x7FFFFFFFFFFFFFFF, .widthTooBig, .widthOutOfRange⟩

/-- Precisions are signed words of 32 bits. -/
def precisionLimits : Limits :=
  ⟨-0x80000000, 0x7FFFFFFF, .precisionTooBig, .precisionOutOfRange⟩

/-- The number of an extent within limits, and the arguments that are left. -/
def extent (l : Limits) (e : Extent) (pending : List Datum) :
    Except Failure (Option Int × List Datum) :=
  match e with
  | .unset => .ok (none, pending)
  | .given n => if l.greatest < n then .error l.written else .ok (some n, pending)
  | .argument =>
    match pending with
    | [] => .error .tooFew
    | d :: ds =>
      match d.integer? with
      | some n =>
        if n < l.least ∨ l.greatest < n then .error l.taken else .ok (some n, ds)
      | none => .error .extentNotInt

/-- The arguments of a slot: a key puts its value in the place of all that is left. -/
def select (mapping : Option (List (String × Datum))) (pending : List Datum)
    (key : Option (List Char)) : Except Failure (List Datum) :=
  match key, mapping with
  | none, _ => .ok pending
  | some _, none => .error .noMapping
  | some k, some fields =>
    match fields.lookup (String.ofList k) with
    | some d => .ok [d]
    | none => .error (.noKey (String.ofList k))

/-- The text of a slot, and the arguments that are left. -/
def fillSlot (mapping : Option (List (String × Datum))) (pending : List Datum) (s : Slot) :
    Except Failure (Text.Points × List Datum) := do
  let pending ← select mapping pending s.key
  let (width, pending) ← extent widthLimits s.width pending
  let (precision, pending) ← extent precisionLimits s.precision pending
  match s.letter with
  | none => .error .incomplete
  | some letter =>
    let (d, pending) ← take pending
    let flags := if width.any (· < 0) then '-' :: s.flags else s.flags
    let f ← filling room letter flags (precision.map Int.toNat) s.index d
    let width := (width.getD 0).natAbs
    if room < width then .error .memory
    else if mapping.isSome ∧ pending ≠ [] then .error .tooMany
    else .ok (f.padded flags width, pending)

/-- The text of the parts of a template. Without a mapping, every argument has to be used. -/
def fillSegments (mapping : Option (List (String × Datum))) (pending : List Datum) :
    List Segment → Except Failure Text.Points
  | [] => if mapping.isNone ∧ pending ≠ [] then .error .tooMany else .ok []
  | .char c :: ss => (fillSegments mapping pending ss).map (Text.pointOf c :: ·)
  | .openKey :: _ => .error (if mapping.isNone then .noMapping else .openKey)
  | .slot s :: ss =>
    match fillSlot room mapping pending s with
    | .error e => .error e
    | .ok (text, pending') => (fillSegments mapping pending' ss).map (text ++ ·)

/-- The text of a template with its slots filled. A template without arguments stands for itself. -/
def fill (template : String) (arguments : List Datum) : Except Failure Text.Points :=
  if arguments.isEmpty then .ok (Text.points template)
  else
    let a := Arguments.ofList arguments
    fillSegments room a.mapping a.pending (segments template.toList)

end Slots

end Cloister.Template
