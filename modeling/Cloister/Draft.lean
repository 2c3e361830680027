import Cloister.Directive
import Cloister.Distinct

/-! # Drafts of directive lists

A list of directives has two phases. While it is a draft, content is added in order, and directories
that are cleared are remembered. Then it is finished once: the program comes after all content, each
remembered directory is locked after everything that is mounted in it, and the list is terminated.

* `Draft`: content and the directories to lock.
* `Draft.emit`, `Draft.clear`, `Draft.lock`: additions.
* `Draft.finish`: the complete list.
-/

namespace Cloister
set_option autoImplicit false

/-- Content in order, and the directories to lock in the end. As in a directive, a directory may be
left open. -/
structure Draft where
  content : List Directive
  locked : Distinct (Option String)

namespace Draft

def root : String := "/"

/-- An empty draft, which locks the root if asked to. -/
def start (lockRoot : Bool) : Draft :=
  ⟨[], if lockRoot then Distinct.empty.insert (some root) else Distinct.empty⟩

def emit (d : Draft) (x : Directive) : Draft := { d with content := d.content ++ [x] }

def lock (d : Draft) (path : Option String) : Draft := { d with locked := d.locked.insert path }

def clear (d : Draft) (path : Option String) : Draft := (d.emit (.clear path)).lock path

/-- The complete list: content, the program, the locks, the terminator. -/
def finish (d : Draft) (program : Option Directive) : List Directive :=
  d.content ++ program.toList ++ d.locked.toList.map Directive.lock ++ [Directive.terminator]

@[simp] theorem content_start (lockRoot : Bool) : (start lockRoot).content = [] := rfl

@[simp] theorem content_emit (d : Draft) (x : Directive) :
    (d.emit x).content = d.content ++ [x] := rfl

@[simp] theorem locked_emit (d : Draft) (x : Directive) : (d.emit x).locked = d.locked := rfl

@[simp] theorem content_lock (d : Draft) (p : Option String) : (d.lock p).content = d.content := rfl

@[simp] theorem locked_lock (d : Draft) (p : Option String) :
    (d.lock p).locked = d.locked.insert p := rfl

@[simp] theorem content_clear (d : Draft) (p : Option String) :
    (d.clear p).content = d.content ++ [.clear p] := rfl

@[simp] theorem locked_clear (d : Draft) (p : Option String) :
    (d.clear p).locked = d.locked.insert p := rfl

end Draft

end Cloister
