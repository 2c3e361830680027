import Cloister.Datum
import Cloister.Path
import Cloister.Text.Blank
import Cloister.Text.Point
import Cloister.Text.Quoted

/-! # Faults

A log record may tell of a fault: a failure of a known kind, with details.

* `Fault.Untold`: why something cannot be told.
* `Fault`: the faults, by what their details mean.
* `Fault.Misfit`: why details do not make a fault of a kind.
* `Fault.build`: a fault from the name of its kind and its details.
* `Fault.name`, `Fault.words`, `Fault.report`: what is shown of a fault.
-/

namespace Cloister.Log
set_option autoImplicit false

/-- A place in a source text: the file, the line, the column, the text of the line, and the column
where the place ends. Columns are counted from one. -/
structure SourcePlace where
  file : Datum
  line : Datum
  column : Datum
  text : Datum
  endColumn : Datum

/-- Why something cannot be told: to ask for it leads to a fault itself, of a kind and with words of its
own. -/
structure Fault.Untold where
  kind : String
  message : String
  deriving DecidableEq, Repr

/-- A fault. -/
inductive Fault where
  /-- Details that speak for themselves. -/
  | general (kind : String) (details : List Datum)
  /-- A missing key. -/
  | missingKey (kind : String) (details : List Datum)
  /-- A failure of the system, with its number, its words, and the files it is about. -/
  | system (kind : String) (number words : Datum) (files : List Datum)
  /-- A malformed source text. -/
  | source (kind : String) (words : Datum) (place : Option SourcePlace)
  /-- Characters that cannot be encoded, or not be mapped if no encoding is named. -/
  | characters (kind : String) (encoding : Option String) (text : String) (first last : Int)
    (reason : String)
  /-- A fault of any other kind, or one that tells where it came from: what is shown of it. Its words
  are missing if it counts as none, and both its words and its report may be impossible to tell. -/
  | other (kind : Text.Points) (words : Except Fault.Untold (Option Text.Points))
    (report : Except Fault.Untold Text.Points)

namespace Fault

/-! ## Kinds -/

def generalKinds : List String :=
  ["ArithmeticError", "AssertionError", "AttributeError", "BaseException", "BufferError",
    "BytesWarning", "DeprecationWarning", "EOFError", "EncodingWarning", "Exception",
    "FloatingPointError", "FutureWarning", "GeneratorExit", "ImportError", "ImportWarning",
    "IndexError", "KeyboardInterrupt", "LookupError", "MemoryError", "ModuleNotFoundError",
    "NameError", "NotImplementedError", "OverflowError", "PendingDeprecationWarning",
    "RecursionError", "ReferenceError", "ResourceWarning", "RuntimeError", "RuntimeWarning",
    "StopAsyncIteration", "StopIteration", "SyntaxWarning", "SystemError", "SystemExit",
    "TypeError", "UnboundLocalError", "UnicodeError", "UnicodeWarning", "UserWarning",
    "ValueError", "Warning", "ZeroDivisionError"]

def sourceKinds : List String := ["SyntaxError", "IndentationError", "TabError"]

def groupKinds : List String := ["BaseExceptionGroup", "ExceptionGroup"]

/-- The failures of the system that have a kind of their own, by their numbers. -/
def systemKinds : List (Int × String) :=
  [(1, "PermissionError"), (2, "FileNotFoundError"), (3, "ProcessLookupError"),
    (4, "InterruptedError"), (10, "ChildProcessError"), (11, "BlockingIOError"),
    (13, "PermissionError"), (17, "FileExistsError"), (20, "NotADirectoryError"),
    (21, "IsADirectoryError"), (32, "BrokenPipeError"), (103, "ConnectionAbortedError"),
    (104, "ConnectionResetError"), (108, "BrokenPipeError"), (110, "TimeoutError"),
    (111, "ConnectionRefusedError"), (114, "BlockingIOError"), (115, "BlockingIOError")]

/-- The names of the kind of all failures of the system; the first is the proper one. -/
def systemNames : List String := ["OSError", "EnvironmentError", "IOError"]

/-- The kind of a failure of the system of that name, if it is one. -/
def systemKind? (kind : String) : Option String :=
  if kind ∈ systemNames then some "OSError"
  else if kind = "ConnectionError" ∨ systemKinds.any (·.2 == kind) then some kind
  else none

/-! ## Building faults -/

/-- Why details do not make a fault of a kind, or not one that can be shown. -/
inductive Misfit where
  | unknownKind (kind : String)
  | noList (given : String)
  | shortPlace (given : Nat)
  | longPlace (given : Nat)
  | openEnd
  | lineText (given : String)
  | columnSum (given : String)
  | columnDifference (given : String)
  | columnPart
  | columnCount
  | columnKind (given : String)
  | columnRange
  | detailCount (needed given : Nat)
  | textNeeded (index : Nat) (given : Datum)
  | wholeNeeded (given : String)
  | wholeRange
  | countRange
  | bytesNeeded (given : String)
  | memberCount (given : Nat)
  | memberWords (given : Datum)
  | noMembers
  | emptyMembers
  | strangeMember

/-- The kinds of misfits, as error reports tell them apart. -/
inductive Misfit.Kind where
  | attribute
  | type
  | value
  | overflow
  deriving DecidableEq, Repr

def Misfit.kind : Misfit → Misfit.Kind
  | unknownKind _ | lineText _ => .attribute
  | countRange | emptyMembers | strangeMember => .value
  | wholeRange | columnRange => .overflow
  | _ => .type

/-- The name of a value's kind where a text was asked for. -/
def givenName : Datum → String
  | .null => Datum.null.quoted
  | d => d.typeName

/-- The complaint about details that do not make a fault. -/
def Misfit.message : Misfit → String
  | unknownKind kind => "module 'builtins' has no attribute " ++ "'" ++ kind ++ "'"
  | noList given => "'" ++ given ++ "' object is not iterable"
  | shortPlace given => "function takes at least 4 arguments (" ++ toString given ++ " given)"
  | longPlace given => "function takes at most 6 arguments (" ++ toString given ++ " given)"
  | openEnd => "end_offset must be provided when end_lineno is provided"
  | lineText given => "'" ++ given ++ "' object has no attribute 'rstrip'"
  | columnSum given =>
    if given = "dict" then "unsupported operand type(s) for +: 'dict' and 'int'"
    else "can only concatenate " ++ given ++ " (not \"int\") to " ++ given
  | columnDifference given => "unsupported operand type(s) for -: '" ++ given ++ "' and 'int'"
  | columnPart => "slice indices must be integers or None or have an __index__ method"
  | columnCount => "can't multiply sequence by non-int of type 'float'"
  | columnKind given => "unhashable type: '" ++ given ++ "'"
  | columnRange => "cannot fit 'int' into an index-sized integer"
  | detailCount needed given =>
    "function takes exactly " ++ toString needed ++ " arguments (" ++ toString given ++ " given)"
  | textNeeded index given =>
    "argument " ++ toString index ++ " must be str, not " ++ givenName given
  | wholeNeeded given => "'" ++ given ++ "' object cannot be interpreted as an integer"
  | wholeRange => "Python int too large to convert to C ssize_t"
  | countRange => "cannot fit 'int' into an index-sized integer"
  | bytesNeeded given => "a bytes-like object is required, not '" ++ given ++ "'"
  | memberCount given =>
    "BaseExceptionGroup.__new__() takes exactly 2 arguments (" ++ toString given ++ " given)"
  | memberWords given =>
    "BaseExceptionGroup.__new__() argument 1 must be str, not " ++ givenName given
  | noMembers => "second argument (exceptions) must be a sequence"
  | emptyMembers => "second argument (exceptions) must be a non-empty sequence"
  | strangeMember => "Item 0 of second argument (exceptions) is not an exception"

/-- Whether a whole number fits into a signed word of 64 bits. -/
def fitsWord (n : Int) : Bool := -0x8000000000000000 ≤ n && n < 0x8000000000000000

def textDetail (index : Nat) : Datum → Except Misfit String
  | .text s => .ok s
  | d => .error (.textNeeded index d)

def wholeDetail (d : Datum) : Except Misfit Int :=
  match d.integer? with
  | some n => if fitsWord n then .ok n else .error .wholeRange
  | none => .error (.wholeNeeded d.typeName)

/-- A failure of the system. One whose number has a kind of its own is of that kind. A third detail
that is a number is no file where a call would have blocked: it counts what was written before. -/
def buildSystem (kind : String) (details : List Datum) : Except Misfit Fault :=
  match details with
  | number :: words :: more =>
    if 3 < more.length then .ok (.general kind details)
    else
      let kind := match number.integer? with
        | some n => if kind = "OSError" then (systemKinds.lookup n).getD kind else kind
        | none => kind
      match more.headD .null with
      | .null => .ok (.system kind number words [])
      | file =>
        if kind = "BlockingIOError" ∧ countsAsNumber file then
          match file.integer? with
          | none => .error (.wholeNeeded file.typeName)
          | some n => if fitsWord n then .ok (.system kind number words []) else .error .countRange
        else .ok (.system kind number words (file :: others more))
  | _ => .ok (.general kind details)
where
  countsAsNumber : Datum → Bool
    | .real _ => true
    | d => d.integer?.isSome
  /-- The second file: the fifth detail, unless it is null. -/
  others : List Datum → List Datum
    | [_, _, .null] => []
    | [_, _, d] => [d]
    | _ => []

/-- The parts of a detail that is a list of some kind. -/
def parts? : Datum → Option (List Datum)
  | .list ds => some ds
  | .text s => some (s.toList.map fun c => .text c.toString)
  | .object fs => some (fs.map fun f => .text f.1)
  | _ => none

/-- Where the marks under a line start, counted from the first character shown, and their count; no
marks if the column is none or before that character. -/
def marks? (p : SourcePlace) (indent : Int) : Except Misfit (Option (Int × Int)) :=
  match p.column, p.endColumn with
  | .null, _ => .ok none
  | _, .list _ => .error (.columnKind "list")
  | _, .object _ => .error (.columnKind "dict")
  | column, last =>
    let last := if last.agrees .null || last.agrees (.int 0) then column else last
    let isPoint := column.agrees last || last.agrees (.int (-1))
    match column, column.integer?, last.integer? with
    | .real x, _, _ =>
      match x with
      | .finite negative m e =>
        if Binary64.wholePart negative m e - 1 - indent < 0 then .ok none else .error .columnPart
      | .infinite true => .ok none
      | .infinite false => .error .columnPart
      | .nan => .ok none
    | _, none, _ =>
      .error (if isPoint then .columnSum column.typeName else .columnDifference column.typeName)
    | _, some n, m =>
      let start := n - 1 - indent
      match isPoint, m, last with
      | true, _, _ => .ok (if 0 ≤ start then some (start, 1) else none)
      | false, some m, _ =>
        if start < 0 then .ok none
        else if fitsWord (m - n) then .ok (some (start, m - n)) else .error .columnRange
      | false, none, .real _ => if start < 0 then .ok none else .error .columnCount
      | false, none, last => .error (.columnDifference last.typeName)

/-- The text of a line without the line breaks at its end. -/
def withoutBreaks (s : List Char) : List Char := (s.reverse.dropWhile (· = '\n')).reverse

/-- The text of a line from its first character on that is neither a space nor a break. -/
def fromFirst (s : List Char) : List Char :=
  (withoutBreaks s).dropWhile fun c => c = ' ' ∨ c = '\n' ∨ c = '\x0c'

/-- How many characters of a line are not shown. -/
def indentOf (s : List Char) : Int := ((withoutBreaks s).length : Int) - (fromFirst s).length

/-- A place from the details that describe it; it is only taken if it can be shown. -/
def buildPlace (details : List Datum) : Except Misfit SourcePlace :=
  match details with
  | file :: line :: column :: text :: more =>
    if 2 < more.length then .error (.longPlace details.length)
    else if more.length = 1 then .error .openEnd
    else
      let p : SourcePlace := ⟨file, line, column, text, (more.drop 1).headD .null⟩
      match text with
      | .null => .ok p
      | .text s => (marks? p (indentOf s.toList)).map fun _ => p
      | d => .error (.lineText d.typeName)
  | _ => .error (.shortPlace details.length)

/-- A fault of a malformed source text; a second detail is its place. -/
def buildSource (kind : String) (details : List Datum) : Except Misfit Fault :=
  match details with
  | [words, place] =>
    match parts? place with
    | some ds => (buildPlace ds).map fun p => .source kind words (some p)
    | none => .error (.noList place.typeName)
  | _ => .ok (.source kind (details.headD .null) none)

/-- Several faults in one: no value is a fault, so there are no such faults. -/
def buildGroup (details : List Datum) : Misfit :=
  match details with
  | [words, members] =>
    match words, members with
    | .text _, .list [] => .emptyMembers
    | .text _, .text "" => .emptyMembers
    | .text _, .list _ => .strangeMember
    | .text _, .text _ => .strangeMember
    | .text _, _ => .noMembers
    | words, _ => .memberWords words
  | _ => .memberCount details.length

def buildEncoding (kind : String) : List Datum → Except Misfit Fault
  | [encoding, text, first, last, reason] => do
    let encoding ← textDetail 1 encoding
    let text ← textDetail 2 text
    let first ← wholeDetail first
    let last ← wholeDetail last
    let reason ← textDetail 5 reason
    return .characters kind (some encoding) text first last reason
  | details => .error (.detailCount 5 details.length)

/-- Bytes that cannot be decoded: no value holds bytes, so there are no such faults. -/
def buildDecoding : List Datum → Misfit
  | [encoding, bytes, first, last, reason] =>
    let checked : Except Misfit Unit := do
      let _ ← textDetail 1 encoding
      let _ ← wholeDetail first
      let _ ← wholeDetail last
      let _ ← textDetail 5 reason
    match checked with
    | .ok _ => .bytesNeeded bytes.typeName
    | .error e => e
  | details => .detailCount 5 details.length

def buildRemapping (kind : String) : List Datum → Except Misfit Fault
  | [text, first, last, reason] => do
    let text ← textDetail 1 text
    let first ← wholeDetail first
    let last ← wholeDetail last
    let reason ← textDetail 4 reason
    return .characters kind none text first last reason
  | details => .error (.detailCount 4 details.length)

def build (kind : String) (details : List Datum) : Except Misfit Fault :=
  if kind ∈ generalKinds then .ok (.general kind details)
  else if kind = "KeyError" then .ok (.missingKey kind details)
  else if kind ∈ sourceKinds then buildSource kind details
  else if kind ∈ groupKinds then .error (buildGroup details)
  else if kind = "UnicodeEncodeError" then buildEncoding kind details
  else if kind = "UnicodeDecodeError" then .error (buildDecoding details)
  else if kind = "UnicodeTranslateError" then buildRemapping kind details
  else match systemKind? kind with
    | some kind => buildSystem kind details
    | none => .error (.unknownKind kind)

/-! ## What is shown -/

def name : Fault → Text.Points
  | general kind _ | missingKey kind _ | system kind _ _ _ | source kind _ _
  | characters kind _ _ _ _ _ => Text.points kind
  | other kind _ _ => kind

/-- Several details in one text; a single one speaks for itself. -/
def listed : List Datum → String
  | [] => ""
  | [d] => d.plain
  | ds => "(" ++ ", ".intercalate (ds.map Datum.quoted) ++ ")"

/-- Where a malformed source text is, in short. -/
def placeNote (p : SourcePlace) : String :=
  let file := match p.file with
    | .text s => [String.ofList (Path.baseName Path.slash s.toList)]
    | _ => []
  let line := match p.line with
    | .int n => ["line " ++ toString (if fitsWord n then n else -1)]
    | _ => []
  match file ++ line with
  | [] => ""
  | notes => " (" ++ ", ".intercalate notes ++ ")"

/-- The numeric escape of a character, with as many digits as it needs. -/
def escape (c : Char) : String := String.ofList (Text.numericEscape c)

/-- Which characters a fault is about: a single one is shown, several are told by their places. -/
def charactersNote (text : String) (first last : Int) : String :=
  match if 0 ≤ first ∧ last = first + 1 then text.toList[first.toNat]? else none with
  | some c => "character '" ++ escape c ++ "' in position " ++ toString first
  | none => "characters in position " ++ toString first ++ "-" ++ toString (last - 1)

/-- The failure to show a single character before the start of a text. -/
def untoldCharacter : Untold :=
  ⟨"SystemError", "<class 'str'> returned a result with an exception set"⟩

/-- The words of a fault, unless it counts as none. -/
def words : Fault → Except Untold (Option Text.Points)
  | general _ details => told (listed details)
  | missingKey _ [d] => told d.quoted
  | missingKey _ details => told (listed details)
  | system _ number words files =>
    told ("[Errno " ++ number.plain ++ "] " ++ words.plain ++
      (if files.isEmpty then "" else ": " ++ " -> ".intercalate (files.map Datum.quoted)))
  | source _ words place => told (words.plain ++ (place.map placeNote).getD "")
  | characters _ encoding text first last reason =>
    if first < 0 ∧ last = first + 1 then .error untoldCharacter
    else
      told ((match encoding with
        | some e => "'" ++ e ++ "' codec can't encode "
        | none => "can't translate ") ++ charactersNote text first last ++ ": " ++ reason)
  | other _ words _ => words
where
  told (s : String) : Except Untold (Option Text.Points) := .ok (some (Text.points s))

/-- The marks under a line; white space before them is kept, so that they stand in their place. -/
def marksLine (shown : List Char) (start count : Int) : String :=
  String.ofList
    ((shown.take start.toNat).map (fun c => if Text.isBlank c then c else ' ') ++
      List.replicate count.toNat '^')

def placeLines (p : SourcePlace) : List String :=
  let head := match p.line with
    | .null => []
    | line =>
      ["  File \"" ++ (if p.file.isTruthy then p.file.plain else "<string>") ++ "\", line " ++
        line.plain]
  let body := match p.text with
    | .text s =>
      let shown := fromFirst s.toList
      let marks := match marks? p (indentOf s.toList) with
        | .ok (some (start, count)) => ["    " ++ marksLine shown start count]
        | _ => []
      ("    " ++ String.ofList shown) :: marks
    | _ => []
  head ++ body

/-- The file of a place whose line is not known. -/
def fileNote (p : SourcePlace) : String :=
  match p.line, p.file with
  | .null, .null => ""
  | .null, file => " (" ++ file.plain ++ ")"
  | _, _ => ""

/-- What stands in a report for words that cannot be told. -/
def untoldWords : String := "<exception str() failed>"

def report : Fault → Except Untold Text.Points
  | source kind words place =>
    let lines := (place.map placeLines).getD []
    let words := if words.isTruthy then words.plain else "<no detail available>"
    .ok (Text.points
      ("\n".intercalate (lines ++ [kind ++ ": " ++ words ++ (place.map fileNote).getD ""])))
  | other _ _ report => report
  | f =>
    .ok (match f.words with
      | .ok none | .ok (some []) => f.name
      | .ok (some words) => f.name ++ Text.points ": " ++ words
      | .error _ => f.name ++ Text.points (": " ++ untoldWords))

end Fault
end Cloister.Log
