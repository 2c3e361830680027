import Cloister.Log.Record

/-! # The log channel

* `Log.Channel`: the least severity that is let through, and the handlers that write lines.
* `Log.Channel.setUp`, `Log.Channel.setUpWith`: a new severity and a single new handler.
* `Log.Channel.emit`: what is written for a record.
-/

namespace Cloister.Log
set_option autoImplicit false

/-- The form of log lines. -/
inductive LineForm where
  | text
  | json
  deriving DecidableEq, Repr

def LineForm.name : LineForm → String
  | text => "text"
  | json => "json"

/-- The form that a word asks for; any word but one asks for text. -/
def LineForm.ofWord (word : String) : LineForm := if word = "json" then .json else .text

/-- Writes the records of at least its severity. -/
structure Handler where
  severity : Int
  form : LineForm
  deriving DecidableEq, Repr

/-- The least severity that is let through, where zero leaves the choice to the surroundings, and
the handlers. -/
structure Channel where
  severity : Int := 0
  handlers : List Handler := []
  deriving DecidableEq, Repr

namespace Channel

def name : String := "sandbox_util"

def surroundings : Int := Notice.warning

/-- Why a channel cannot be set up: the word for the severity names a text or something else, or a
value of another kind stands in its place. -/
inductive SetupError where
  | noSeverity (found : String)
  | noLevel (shown : String)
  | noWord (given : String)
  deriving DecidableEq, Repr

/-- The complaint about what names no severity. -/
def SetupError.message : SetupError → String
  | noSeverity found => "Unknown level: " ++ Text.quoted found
  | noLevel shown => "Level not an integer or a valid string: " ++ shown
  | noWord given => "'" ++ given ++ "' object has no attribute 'upper'"

def severities : List (String × Int) :=
  [("DEBUG", 10), ("INFO", 20), ("WARN", 30), ("WARNING", 30), ("ERROR", 40), ("FATAL", 50),
    ("CRITICAL", 50), ("NOTSET", 0)]

/-- The text that the word for the basic form of lines stands for. -/
def basicForm : String := "%(levelname)s:%(name)s:%(message)s"

/-- What the word for the styles of lines stands for, as it is shown. -/
def lineStyles : String :=
  "\x7b'%': (<class 'logging.PercentStyle'>, '%(levelname)s:%(name)s:%(message)s'), " ++
    "'\x7b': (<class 'logging.StrFormatStyle'>, " ++
    "'\x7blevelname\x7d:\x7bname\x7d:\x7bmessage\x7d'), " ++
    "'$': (<class 'logging.StringTemplateStyle'>, " ++
    "'$\x7blevelname\x7d:$\x7bname\x7d:$\x7bmessage\x7d')\x7d"

/-- The severity that a word asks for, whatever the case of its letters. A word that is unknown
asks for warnings. -/
def severityOf (word : String) : Except SetupError Int :=
  let name := Text.toUpper word
  if name = "BASIC_FORMAT" then .error (.noSeverity basicForm)
  else if name = "_STYLES" then .error (.noLevel lineStyles)
  else .ok ((severities.lookup name).getD Notice.warning)

/-- A channel with a new severity and, in the place of all its handlers, a single new one. -/
def setUp (_ : Channel) (level : String := "WARNING") (form : String := "text") :
    Except SetupError Channel :=
  (severityOf level).map fun n => ⟨n, [⟨n, .ofWord form⟩]⟩

/-- The same for values, of which at most two are given. A form that is no word asks for text. -/
def setUpWith (c : Channel) : List Datum → Except SetupError Channel
  | [] => c.setUp
  | .text level :: rest =>
    match rest with
    | [] => c.setUp level
    | .text form :: _ => c.setUp level form
    | _ => c.setUp level LineForm.text.name
  | level :: _ => .error (.noWord level.typeName)

def threshold (c : Channel) : Int := if c.severity = 0 then surroundings else c.severity

def line (form : LineForm) (r : Record) (m : Moment) : Except Failure Text.Points :=
  match form with
  | .text => r.text m
  | .json => (r.json m).map Text.points

/-- What a stream of characters shows of a line, with the end of the line. -/
def onStream (l : Text.Points) : String := Text.onStream l ++ "\n"

def Handler.write (h : Handler) (r : Record) (m : Moment) : Except Failure String :=
  if r.severity < h.severity then .ok "" else (line h.form r m).map onStream

def writeAll (r : Record) (m : Moment) : List Handler → Except Failure String
  | [] => .ok ""
  | h :: hs =>
    match Handler.write h r m, writeAll r m hs with
    | .ok a, .ok b => .ok (a ++ b)
    | .error e, _ => .error e
    | _, .error e => .error e

/-- What is written for a record. Without a handler, the words of a warning are written as they
are. -/
def emit (c : Channel) (r : Record) (m : Moment) : Except Failure String :=
  if r.severity < c.threshold then .ok ""
  else if c.handlers.isEmpty then
    if r.severity < surroundings then .ok "" else (r.bare m.room).map onStream
  else writeAll r m c.handlers

end Channel
end Cloister.Log
