import Cloister.Datum
import Cloister.Directive
import Cloister.Settings
import Cloister.Text.ShellWord

/-! # Notices

What happens on the way to a confined program is told in notices.

* `Notice`: the things that are told.
* `Notice.severity`, `Notice.message`, `Notice.origin`: how urgent, in which words, by which part.
* `Notice.place`: where in the source.
-/

namespace Cloister
set_option autoImplicit false

/-- The things that are told. -/
inductive Notice where
  /-- A grant was left out, because its source is not on the host. -/
  | skipped (kind : Directive.Kind) (source : Option String)
  /-- An entry was left out, because it leads out of its base directory. -/
  | outside (base entry : String)
  /-- The settings in force. -/
  | settings (s : Settings)
  /-- Something is odd about the settings. -/
  | problem (p : Settings.Problem)
  /-- The confinement program is started. -/
  | executing (binary : String) (words : List (Option String))

namespace Notice

/-- The parts that tell something. -/
inductive Origin where
  | compiler
  | backend
  | commandLine
  deriving DecidableEq, Repr

def Origin.logger : Origin → String
  | compiler => "sandbox_util.compiler.compiler"
  | backend => "sandbox_util.backend.bwrap"
  | commandLine => "sandbox_util.cli"

def debug : Int := 10

def info : Int := 20

def warning : Int := 30

def severity : Notice → Int
  | skipped .. => debug
  | outside .. => warning
  | settings .. => debug
  | problem .. => warning
  | executing .. => info

def origin : Notice → Origin
  | skipped .. | outside .. => .compiler
  | settings .. | problem .. => .commandLine
  | executing .. => .backend

/-- A place in the source: the file, the function, and the line. -/
structure Place where
  file : String
  function : String
  line : Int

/-- The place that log lines name for a notice. -/
def place : Notice → Place
  | skipped .. => ⟨"compiler.py", "_checked", 140⟩
  | outside .. => ⟨"compiler.py", "beneath", 75⟩
  | settings .. => ⟨"cli.py", "main", 80⟩
  | problem .. => ⟨"cli.py", "main", 83⟩
  | executing .. => ⟨"bwrap.py", "exec_sandbox", 97⟩

def message : Notice → String
  | skipped kind source =>
    "Skipping " ++ kind.name ++ ", source missing: " ++ source.getD Datum.null.quoted
  | outside base entry => "Ignoring entry outside " ++ base ++ ": " ++ entry
  | settings s => "Settings: " ++ s.summary.quoted
  | problem p => p.message
  | executing binary words => "Executing " ++ binary ++ " " ++ Text.shellLine words

end Notice
end Cloister
