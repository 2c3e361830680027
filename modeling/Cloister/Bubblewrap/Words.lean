import Cloister.Directive.Reader

/-! # Directives as words of a command line

Directives are written as options of the bubblewrap program. Grants use the options that pass over
a path that has disappeared in the meantime, unless they are required.

* `Bubblewrap.Word`: a word, or the place of one that a directive does not have.
* `Bubblewrap.words`, `Bubblewrap.wordsAll`: the words of one directive and of a list.
* `Bubblewrap.looseWords`: a directive that nobody has checked has no form.
-/

namespace Cloister.Bubblewrap
set_option autoImplicit false

/-- A word of a command line, or the place of one that is missing. -/
abbrev Word := Option String

def clearedMode : String := "555"

def words (d : Directive) : List Word :=
  match d.kind with
  | .bindWritable => [some "--bind-try", d.source, d.target]
  | .bindReadOnly => [some "--ro-bind-try", d.source, d.target]
  | .bindDevice =>
    [some (if d.required then "--dev-bind" else "--dev-bind-try"), d.source, d.target]
  | .clear => [some "--perms", some clearedMode, some "--tmpfs", d.target]
  | .maskFile => [some "--ro-bind-try", d.source, d.target]
  | .lock => [some "--remount-ro", d.target]
  | .unsetVariable => [some "--unsetenv", d.value]
  | .setHostname => [some "--hostname", d.value]
  | .unshare => [some ("--unshare-" ++ d.value.getD Datum.null.quoted)]
  | .dropCapability => [some "--cap-drop", d.value]
  | .mountProc => [some "--proc", d.target]
  | .minimalDev => [some "--dev", d.target]
  | .symlink => [some "--symlink", d.source, d.target]
  | .newSession => [some "--new-session"]
  | .terminator => [some "--"]

def wordsAll (ds : List Directive) : List Word := ds.flatMap words

/-- A directive that has no form on the command line. -/
structure Unspoken where
  word : String
  deriving DecidableEq, Repr

/-- The complaint about a directive that has no form. -/
def Unspoken.message (u : Unspoken) : String :=
  "No bwrap rendering for directive type: " ++ u.word

/-- Only checked directives have a form; a mere word has none, even if it names an operation. -/
def looseWords (l : Directive.Loose) : Except Unspoken (List Word) := .error ⟨l.word.plain⟩

end Cloister.Bubblewrap
