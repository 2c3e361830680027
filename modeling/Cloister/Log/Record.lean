import Cloister.Json
import Cloister.Log.Fault
import Cloister.Notice
import Cloister.Template

/-! # Log records

* `Log.Moment`: when a record is written, and the room that there is for its words.
* `Log.Message`, `Log.Record`: a message, and a record with one.
* `Log.Record.message`: the words of a record.
* `Log.Told`: what is told of a failure.
* `Log.Record.objectOf`, `Log.Record.json`, `Log.Record.text`: the two forms of a log line.
-/

namespace Cloister.Log
set_option autoImplicit false

def severityName (n : Int) : String :=
  if n = 0 then "NOTSET"
  else if n = 10 then "DEBUG"
  else if n = 20 then "INFO"
  else if n = 30 then "WARNING"
  else if n = 40 then "ERROR"
  else if n = 50 then "CRITICAL"
  else "Level " ++ toString n

/-- The moment at which a record is written: the instant of universal time, what the clock on the wall
shows, and the length of text for which there is room. -/
structure Moment where
  instant : String
  wall : String
  room : Nat
  deriving DecidableEq, Repr

/-- A moment that stands still, for runs whose output is to be the same every time. -/
def Moment.still : Moment := ⟨"2000-01-01T00:00:00Z", "2000-01-01 00:00:00,000", 1000000000⟩

/-! ## Failures that records tell of -/

/-- What a record shows of a failure: the fault, or that there is none. -/
def reportOf : Option Fault → Except Fault.Untold Text.Points
  | some f => f.report
  | none => .ok (Text.points "NoneType: None")

/-- What is told of a failure: the name of its kind, its words, and its report. -/
structure Told where
  name : Option Text.Points
  words : Option Text.Points
  report : Text.Points
  deriving DecidableEq, Repr

/-- What is told of a failure, where all of it can be told. -/
def toldOf (failure : Option Fault) : Except Fault.Untold Told := do
  let words ← match failure with
    | some f => f.words
    | none => .ok none
  let report ← reportOf failure
  return ⟨failure.map Fault.name, words, report⟩

/-- Why a record cannot be written. -/
inductive Failure where
  | template (e : Template.Failure)
  | untold (e : Fault.Untold)
  deriving DecidableEq, Repr

/-! ## Messages -/

/-- What a record says. -/
inductive Message where
  | template (text : String) (arguments : List Datum)
  /-- Anything else, with its words, unless these cannot be told. -/
  | other (words : Except Fault.Untold Text.Points)

/-- The words of a message. -/
def Message.words (room : Nat) : Message → Except Failure Text.Points
  | template text arguments => (Template.fill room text arguments).mapError .template
  | other words => words.mapError .untold

/-! ## Records -/

/-- A record: its severity, its logger, its message, the place that it comes from, and a failure if
it tells of one. -/
structure Record where
  severity : Int
  logger : Text.Points
  said : Message
  path : Text.Points
  line : Int
  function : Option Text.Points := none
  failure : Option (Option Fault) := none

namespace Record

def message (r : Record) (room : Nat) : Except Failure Text.Points := r.said.words room

/-- The module that a record comes from: its file name without the extension. -/
def module (r : Record) : Text.Points :=
  Path.stem (Text.pointOf '.') (Path.baseName (Text.pointOf Path.slash) r.path)

/-- The words of a record, and something about its failure if it tells of one. -/
def tell {α : Type} (r : Record) (about : Option Fault → Except Fault.Untold α) (room : Nat) :
    Except Failure (Text.Points × Option α) := do
  let words ← r.message room
  let told ← (r.failure.mapM about).mapError .untold
  return (words, told)

/-! ## Lines in JSON -/

/-- What is told of a failure, as an object. -/
def failureObject (t : Told) : Json :=
  .object
    [(Text.points "type", .ofText? t.name), (Text.points "message", .ofText? t.words),
      (Text.points "traceback", .text t.report)]

/-- The field of an object for what is told of a failure, if there is one. -/
def exceptionField (told : Option Told) : List (Text.Points × Json) :=
  told.toList.map fun t => (Text.points "exception", failureObject t)

@[simp] theorem exceptionField_none : exceptionField none = [] := rfl

@[simp] theorem exceptionField_some (t : Told) :
    exceptionField (some t) = [(Text.points "exception", failureObject t)] := rfl

/-- A record with the given words, and with what is told of its failure, as an object. -/
def objectOf (r : Record) (m : Moment) (words : Text.Points) (told : Option Told) : Json :=
  .object <|
    [(Text.points "timestamp", .text (Text.points m.instant)),
      (Text.points "level", .text (Text.points (severityName r.severity))),
      (Text.points "logger", .text r.logger), (Text.points "message", .text words),
      (Text.points "module", .text r.module), (Text.points "function", .ofText? r.function),
      (Text.points "line", .int r.line)] ++ exceptionField told

def json (r : Record) (m : Moment) : Except Failure String :=
  (r.tell toldOf m.room).map fun (words, told) => String.ofList (r.objectOf m words told).written

/-! ## Lines of text -/

/-- A line, and a report on the next unless it is empty. -/
def withReport (line : Text.Points) : Option Text.Points → Text.Points
  | none | some [] => line
  | some report =>
    line ++ (if line.getLast? = some (Text.pointOf '\n') then [] else [Text.pointOf '\n']) ++ report

/-- The line of a record with the given words. -/
def lineOf (r : Record) (m : Moment) (words : Text.Points) : Text.Points :=
  Text.points (m.wall ++ " - ") ++ r.logger ++
    Text.points (" - " ++ severityName r.severity ++ " - ") ++ words

def text (r : Record) (m : Moment) : Except Failure Text.Points :=
  (r.tell reportOf m.room).map fun (words, report) => withReport (r.lineOf m words) report

/-- The words of a record and its failure, without anything else. -/
def bare (r : Record) (room : Nat) : Except Failure Text.Points :=
  (r.tell reportOf room).map fun (words, report) => withReport words report

end Record
end Cloister.Log

namespace Cloister.Notice

/-- The record of a notice that is told in the given line of the source. -/
def record (n : Notice) (line : Int) : Log.Record where
  severity := n.severity
  logger := Text.points n.origin.logger
  said := .template n.message []
  path := Text.points n.place.file
  line := line
  function := some (Text.points n.place.function)

end Cloister.Notice
