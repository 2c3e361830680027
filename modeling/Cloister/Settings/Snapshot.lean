import Cloister.Settings

/-! # Snapshots of the settings

The settings in force are read from the environment at the first request and kept until they are
dropped. A reading that is asked for explicitly is always fresh and is not kept.

* `Snapshot`: settings with the number of the reading that produced them.
* `SettingsStore`: the environment, the kept snapshot and the number of the next reading.
* `SettingsStore.perform`: the effect of one request.
-/

namespace Cloister
set_option autoImplicit false

/-- Settings as they were at one reading; two snapshots are the same iff their numbers are. -/
structure Snapshot where
  number : Nat
  settings : Settings
  deriving DecidableEq, Repr

/-- The environment, the kept snapshot and the number of the next reading. -/
structure SettingsStore where
  environment : Environment := .empty
  kept : Option Snapshot := none
  next : Nat := 0
  deriving DecidableEq, Repr

namespace SettingsStore

/-- A request to a store. -/
inductive Request where
  | set (name value : String)
  | unset (name : String)
  | drop
  | get
  | read
  deriving DecidableEq, Repr

def read (s : SettingsStore) : Snapshot × SettingsStore :=
  (⟨s.next, Settings.ofEnvironment s.environment⟩, { s with next := s.next + 1 })

/-- The kept snapshot; if there is none, a fresh one, which is kept from then on. -/
def get (s : SettingsStore) : Snapshot × SettingsStore :=
  match s.kept with
  | some snapshot => (snapshot, s)
  | none =>
    let (snapshot, t) := s.read
    (snapshot, { t with kept := some snapshot })

/-- The answer to a request, if it has one, and the store afterwards. -/
def perform (s : SettingsStore) : Request → Option Snapshot × SettingsStore
  | .set name value => (none, { s with environment := s.environment.set name value })
  | .unset name => (none, { s with environment := s.environment.unset name })
  | .drop => (none, { s with kept := none })
  | .get => let (snapshot, t) := s.get; (some snapshot, t)
  | .read => let (snapshot, t) := s.read; (some snapshot, t)

end SettingsStore
end Cloister
