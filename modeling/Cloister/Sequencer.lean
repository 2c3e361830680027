import Cloister.Directive.Reader
import Cloister.Draft

/-! # Lists under construction

A sequencer puts a list of directives together step by step, from directives and places that nobody
has checked. It is open until the list is finished; afterwards every addition is refused.

* `Sequencer.Places`: the places to lock, each of them once.
* `Sequencer`: the content, the places, and whether the list is finished.
* `Sequencer.perform`: what an operation answers, and the sequencer after it.
-/

namespace Cloister
set_option autoImplicit false

/-! ## Places -/

/-- Places to lock, in the order in which they were first added. -/
structure Sequencer.Places where
  toList : List Datum := []

namespace Sequencer.Places

def contains (ps : Places) (d : Datum) : Bool := ps.toList.any d.agrees

/-- Adds a place at the end, unless it is there already. -/
def insert (ps : Places) (d : Datum) : Places := if ps.contains d then ps else ⟨ps.toList ++ [d]⟩

def size (ps : Places) : Nat := ps.toList.length

/-- Lists and objects change, so they cannot be told from places that are there already. -/
def isComparable : Datum → Bool
  | .list _ | .object _ => false
  | _ => true

def incomparableMessage (d : Datum) : String := "unhashable type: '" ++ d.typeName ++ "'"

def add (ps : Places) (d : Datum) : Except String Places :=
  if isComparable d then .ok (ps.insert d) else .error (incomparableMessage d)

def has (ps : Places) (d : Datum) : Except String Bool :=
  if isComparable d then .ok (ps.contains d) else .error (incomparableMessage d)

/-- Several places, unless one of them cannot be compared. -/
def ofList (ds : List Datum) : Except String Places := ds.foldlM add {}

end Sequencer.Places

/-! ## Sequencers -/

/-- A list of directives under construction. -/
structure Sequencer where
  content : List Directive.Loose := []
  places : Sequencer.Places := {}
  finished : Bool := false

namespace Sequencer

/-- An operation on a sequencer. -/
inductive Operation where
  /-- Adds a directive. -/
  | emit (x : Directive.Loose)
  /-- Clears a directory now and locks it in the end. -/
  | clear (place : Datum)
  /-- Locks a place in the end. -/
  | lock (place : Datum)
  /-- Completes the list, with a program or without. -/
  | finish (program : Option Directive.Loose)

/-- The reason for a refused operation. -/
inductive Refusal where
  /-- The list is finished. -/
  | finished
  /-- A place is no path. -/
  | flawed (flaws : List Flaw)
  /-- A place that cannot be compared to others. -/
  | incomparable (place : Datum)

def finishedMessage : String := "Directive list already finalized"

/-- A sequencer that is open for additions, and locks the root if asked to. -/
def start (lockRoot : Bool) : Sequencer :=
  { places := if lockRoot then ({} : Places).insert (.text Draft.root) else {} }

/-- A place as the path of a directive; it may be left open. -/
def path (d : Datum) : Checked (Option String) :=
  Checked.within (.field "target") (Checked.optionalText d)

/-- The paths of places, or the flaw of the first one that is none. -/
def paths : List Datum → Checked (List (Option String))
  | [] => .ok []
  | d :: ds =>
    match path d with
    | .error flaws => .error flaws
    | .ok p => (paths ds).map (p :: ·)

/-- The complete list: content, the program, the locks, the terminator. -/
def complete (s : Sequencer) (program : Option Directive.Loose) : Checked (List Directive.Loose) :=
  (paths s.places.toList).map fun ps =>
    s.content ++ program.toList ++ ps.map (fun p => (Directive.lock p).loose) ++
      [Directive.terminator.loose]

def emit (s : Sequencer) (x : Directive.Loose) : Except Refusal Sequencer :=
  if s.finished then .error .finished else .ok { s with content := s.content ++ [x] }

/-- Locks a place in the end; this is not refused to a finished list, which it does not change. -/
def lock (s : Sequencer) (d : Datum) : Except Refusal Sequencer :=
  if Places.isComparable d then .ok { s with places := s.places.insert d }
  else .error (.incomparable d)

def clear (s : Sequencer) (d : Datum) : Except Refusal Sequencer :=
  match path d with
  | .error flaws => .error (.flawed flaws)
  | .ok p =>
    match s.emit (Directive.clear p).loose with
    | .error e => .error e
    | .ok t => t.lock d

/-- Carries out an operation: its answer, which is a list only for a finish, and the sequencer
afterwards. A refused addition changes nothing; a list is finished even if it has a flaw. -/
def perform (s : Sequencer) :
    Operation → Except Refusal (Option (List Directive.Loose)) × Sequencer
  | .emit x => after (s.emit x)
  | .clear d => after (s.clear d)
  | .lock d => after (s.lock d)
  | .finish program =>
    if s.finished then (.error .finished, s)
    else
      (match s.complete program with
        | .ok ds => .ok (some ds)
        | .error flaws => .error (.flawed flaws),
        { s with finished := true })
where
  /-- The sequencer after an addition, or as it was. -/
  after : Except Refusal Sequencer → Except Refusal (Option (List Directive.Loose)) × Sequencer
    | .ok t => (.ok none, t)
    | .error e => (.error e, s)

end Sequencer
end Cloister
