import Cloister.Session

/-! # What the answer to a call depends on

The answer to a call depends on the settings in force and on the call, and on nothing else that a
session keeps.

* `Session.settled`: the answer to a call under given settings.
* `Session.fst_call`: each answer is one under the settings in force.
* `Session.fst_settingsFor`, `Session.kept_call`: which settings those are, and that they are kept.
-/

namespace Cloister.Session
set_option autoImplicit false

variable {ε ω : Type}

/-- The answer to a call under given settings. -/
def settled (settings : Settings) (c : Call ε ω) : Answer ε ω :=
  match ({} : Log.Channel).setUp settings.logLevel settings.logFormat with
  | .error e => ⟨.error (.logging e), none, ""⟩
  | .ok channel => run settings channel c

theorem settled_of_setUp {settings : Settings} {channel : Log.Channel}
    (h : ({} : Log.Channel).setUp settings.logLevel settings.logFormat = .ok channel)
    (c : Call ε ω) : settled settings c = run settings channel c := by
  rw [settled, h]

/-- Setting a channel up does not look at what it was before. -/
theorem setUp_eq_setUp (a b : Log.Channel) (level form : String) :
    a.setUp level form = b.setUp level form := rfl

theorem fst_call (s : Session) (c : Call ε ω) :
    (s.call c).1 = settled (settingsFor s.store c).1 c := by
  let settings := (settingsFor s.store c).1
  unfold call settled
  dsimp only
  rw [setUp_eq_setUp s.channel {}]
  cases ({} : Log.Channel).setUp settings.logLevel settings.logFormat <;> rfl

/-- The settings in force are the kept ones. They are read anew if there are none or if they are
dropped. -/
theorem fst_settingsFor (store : SettingsStore) (c : Call ε ω) :
    (settingsFor store c).1 =
      if c.drop then .ofEnvironment c.environment
      else (store.kept.map Snapshot.settings).getD (.ofEnvironment c.environment) := by
  unfold settingsFor SettingsStore.get
  cases c.drop <;> cases store.kept <;> rfl

theorem fst_settingsFor_start (c : Call ε ω) :
    (settingsFor ({} : Session).store c).1 = .ofEnvironment c.environment := by
  rw [fst_settingsFor]
  exact ite_self _

/-- The first answer of a session. -/
theorem fst_call_start (c : Call ε ω) :
    (({} : Session).call c).1 = settled (.ofEnvironment c.environment) c := by
  rw [fst_call, fst_settingsFor_start]

end Cloister.Session
