import Cloister.Bubblewrap.Launch
import Cloister.Help
import Cloister.Log.Channel
import Cloister.Settings.Snapshot

/-! # Sessions

A session is a process that is asked to launch programs. It keeps the settings in force and the log
channel from one call to the next.

* `Session`: what is kept.
* `Session.Call`: the surroundings of one call. How the screen lays out what is printed and how a
  launch ends are up to them.
* `Session.Answer`: how a call ends, what is launched, and what is written.
* `Session.call`: one call. `Session.calls`: several, one after another.
-/

namespace Cloister
set_option autoImplicit false

/-- What a process keeps from one call to the next. -/
structure Session where
  store : SettingsStore := {}
  channel : Log.Channel := {}

namespace Session

/-- The surroundings of a call: its command line, the environment, the host, the moment, the screen as
it is then, how a launch ends, whether the kept settings are dropped before, and the lines that
notices are told in. The screen fails with an `ε`, and a launch with an `ω`. -/
structure Call (ε ω : Type) where
  argv : List String
  environment : Environment
  host : Host
  moment : Log.Moment
  screen : Screen ε
  launched : Launch → Except ω Unit
  drop : Bool
  lineOf : Notice → Int := fun n => n.place.line

/-- Why a call ends without an exit code. -/
inductive Failure (ε ω : Type) where
  | logging (e : Log.Channel.SetupError)
  | console (e : ε)
  | launch (e : ω)
  deriving DecidableEq, Repr

/-- The exit code of a call that did what it was asked for. -/
def exitOk : Nat := 0

/-- The exit code of a call whose command line is malformed. -/
def exitUsage : Nat := 1

/-- How a call ends, what is launched, and what is written. -/
structure Answer (ε ω : Type) where
  exit : Except (Failure ε ω) Nat
  launch : Option Launch
  written : String

variable {ε ω : Type}

def written (channel : Log.Channel) (c : Call ε ω) (notices : List Notice) : String :=
  String.join (notices.map fun n => ((channel.emit (n.record (c.lineOf n)) c.moment).toOption).getD "")

/-- The complaint about a malformed command line. -/
def complaint (e : Invocation.UsageError) : Printout :=
  .message ("[red]ERROR: " ++ e.message ++ "[/red]")

/-- How a call ends that prints something, if all goes well with the given code. -/
def printExit (code : Nat) : Option ε → Except (Failure ε ω) Nat
  | none => .ok code
  | some e => .error (.console e)

/-- The answer of a call that prints something and launches nothing. -/
def printing (c : Call ε ω) (code : Nat) (ps : List Printout) : Answer ε ω :=
  let shown := c.screen.print c.environment ps
  ⟨printExit code shown.failure, none, shown.written⟩

/-- How a call ends that launches something. -/
def launchExit (c : Call ε ω) (launch : Launch) : Except (Failure ε ω) Nat :=
  match c.launched launch with
  | .ok _ => .ok exitOk
  | .error e => .error (.launch e)

def settingsNotices (s : Settings) : List Notice :=
  .settings s :: s.problems.map Notice.problem

/-- The answer of a process with the given settings and a channel that is set up. -/
def run (s : Settings) (channel : Log.Channel) (c : Call ε ω) : Answer ε ω :=
  match Plan.build c.argv s c.host with
  | .error .help => printing c exitOk Help.printouts
  | .error (.usage e) => printing c exitUsage [complaint e]
  | .ok (plan, notices) =>
    let launch := Launch.ofPlan plan s
    { exit := launchExit c launch
      launch := some launch
      written := written channel c (notices ++ settingsNotices s ++ [launch.notice]) }

/-- The settings in force for a call, and the store afterwards. -/
def settingsFor (store : SettingsStore) (c : Call ε ω) : Settings × SettingsStore :=
  let kept := if c.drop then none else store.kept
  let (snapshot, store) := { store with kept := kept, environment := c.environment : SettingsStore }.get
  (snapshot.settings, store)

/-- One call: its answer and the session afterwards. A channel that cannot be set up stays as it
is. -/
def call (s : Session) (c : Call ε ω) : Answer ε ω × Session :=
  let (settings, store) := settingsFor s.store c
  match s.channel.setUp settings.logLevel settings.logFormat with
  | .error e => (⟨.error (.logging e), none, ""⟩, { s with store := store })
  | .ok channel => (run settings channel c, ⟨store, channel⟩)

def calls (s : Session) : List (Call ε ω) → List (Answer ε ω)
  | [] => []
  | c :: cs =>
    let (answer, t) := s.call c
    answer :: t.calls cs

end Session
end Cloister
