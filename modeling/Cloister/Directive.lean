/-! # Directives

A directive is one primitive operation of a confinement backend. It says what to do, not how a
backend spells it.

* `Directive.Kind`: the operations, with the word for each.
* `Directive`: an operation with its paths or its value.
* `Directive.bindReadOnly` and its neighbours: the well-formed directives.
* `Directive.isGrant`: whether a directive shows something of the host.
-/

namespace Cloister
set_option autoImplicit false

/-- The primitive operations. -/
inductive Directive.Kind where
  | bindWritable
  | bindReadOnly
  | bindDevice
  | clear
  | maskFile
  | lock
  | unsetVariable
  | setHostname
  | unshare
  | dropCapability
  | mountProc
  | minimalDev
  | symlink
  | newSession
  | terminator
  deriving DecidableEq, Repr

namespace Directive.Kind

def all : List Kind :=
  [bindWritable, bindReadOnly, bindDevice, clear, maskFile, lock, unsetVariable, setHostname,
    unshare, dropCapability, mountProc, minimalDev, symlink, newSession, terminator]

def name : Kind → String
  | bindWritable => "bind_rw"
  | bindReadOnly => "bind_ro"
  | bindDevice => "dev_bind"
  | clear => "tmpfs_clear"
  | maskFile => "null_bind_file"
  | lock => "remount_ro"
  | unsetVariable => "unset_env"
  | setHostname => "set_hostname"
  | unshare => "unshare_flag"
  | dropCapability => "cap_drop"
  | mountProc => "proc_mount"
  | minimalDev => "dev_minimal"
  | symlink => "symlink"
  | newSession => "new_session"
  | terminator => "terminator"

def ofName? (word : String) : Option Kind := all.find? (·.name == word)

def isGrant : Kind → Bool
  | bindWritable | bindReadOnly | bindDevice => true
  | _ => false

theorem mem_all (k : Kind) : k ∈ all := by cases k <;> decide

/-- Every word reads back as its operation. -/
theorem ofName?_name (k : Kind) : ofName? k.name = some k := by cases k <;> decide

end Directive.Kind

/-- One operation. Operations on paths have a source on the host, a target in the sandbox, or
both; the others have a value. A required one is never left out for a missing source. -/
structure Directive where
  kind : Directive.Kind
  source : Option String := none
  target : Option String := none
  value : Option String := none
  required : Bool := false
  deriving DecidableEq, Repr

namespace Directive

/-- Shows a path of the host, for reading and writing. -/
def bindWritable (path : String) : Directive := ⟨.bindWritable, some path, some path, none, false⟩

/-- Shows a path of the host, for reading only. -/
def bindReadOnly (path : String) : Directive := ⟨.bindReadOnly, some path, some path, none, false⟩

def bindDevice (path : String) (required : Bool) : Directive :=
  ⟨.bindDevice, some path, some path, none, required⟩

/-- Covers a directory with an empty one; the directory may be left open. -/
def clear (path : Option String) : Directive := ⟨.clear, none, path, none, false⟩

def nullFile : String := "/dev/null"

def maskFile (path : String) : Directive := ⟨.maskFile, some nullFile, some path, none, false⟩

/-- Makes a mounted directory read-only; the directory may be left open. -/
def lock (path : Option String) : Directive := ⟨.lock, none, path, none, false⟩

def unsetVariable (name : String) : Directive := ⟨.unsetVariable, none, none, some name, false⟩

def setHostname (name : String) : Directive := ⟨.setHostname, none, none, some name, false⟩

def unshare (namespaceName : String) : Directive := ⟨.unshare, none, none, some namespaceName, false⟩

def dropCapability (capability : String) : Directive :=
  ⟨.dropCapability, none, none, some capability, false⟩

def mountProc (path : String) : Directive := ⟨.mountProc, none, some path, none, false⟩

/-- Mounts a directory with the few devices that every program needs. -/
def minimalDev (path : String) : Directive := ⟨.minimalDev, none, some path, none, false⟩

/-- Makes a symbolic link at `target` that leads to `source`. -/
def symlink (source target : String) : Directive := ⟨.symlink, some source, some target, none, false⟩

def newSession : Directive := ⟨.newSession, none, none, none, false⟩

def terminator : Directive := ⟨.terminator, none, none, none, false⟩

def isGrant (d : Directive) : Bool := d.kind.isGrant

end Directive
end Cloister
