import Cloister.Proofs.Bubblewrap.Commands
import Cloister.Proofs.Log.Channel
import Cloister.Proofs.Session.Settled
import Mathlib.Control.Monad.Basic

/-! # What a session launches

An invocation launches the confinement program with the command line of its plan. Neither odd
settings nor the log stand in its way, and nothing but an invocation launches anything.

* `Session.channel_call`: a call is an attempt to set up the log channel.
* `Session.launch_settled_eq_none`: without an invocation nothing is launched.
* `Session.run_of_parse_eq_ok`: the answer to an invocation.
* `Session.call_launches`: both for the first call of a session.
-/

namespace Cloister
set_option autoImplicit false

/-- The words of a notice can be told, and it tells of no failure. -/
theorem Notice.message_record (n : Notice) (line : Int) (room : Nat) :
    (n.record line).message room = .ok (Text.points n.message) := rfl

namespace Session

variable {ε ω : Type}

/-! ## The log channel -/

/-- A call is an attempt to set up the log channel, as the settings in force ask for it. -/
theorem channel_call (s : Session) (c : Call ε ω) :
    (s.call c).2.channel =
      s.channel.attempt
        ((settingsFor s.store c).1.logLevel, (settingsFor s.store c).1.logFormat) := by
  rw [call, Log.Channel.attempt, Log.Channel.run_settingUp]
  obtain ⟨settings, store⟩ := settingsFor s.store c
  dsimp only
  cases s.channel.setUp settings.logLevel settings.logFormat <;> rfl

/-! ## Launches -/

variable {settings : Settings} {channel : Log.Channel} {c : Call ε ω}

/-- Without an invocation nothing is launched. -/
theorem launch_settled_eq_none {r : Invocation.Refusal} (h : Invocation.parse c.argv = .error r)
    (settings : Settings) : (settled settings c).launch = none := by
  have hplan : Plan.build c.argv settings c.host = .error r := by rw [Plan.build, h]; rfl
  unfold settled
  split
  · rfl
  · rw [run, hplan]
    cases r <;> rfl

/-- The answer to an invocation: its plan is launched, and the notices on the way are written. -/
theorem run_of_parse_eq_ok {i : Invocation} (h : Invocation.parse c.argv = .ok i)
    (settings : Settings) (channel : Log.Channel) :
    let plan := Plan.ofInvocation i settings c.host
    let launch := Launch.ofPlan plan.1 settings
    run settings channel c =
      { exit := launchExit c launch
        launch := some launch
        written := written channel c
          (plan.2 ++ settingsNotices settings ++ [launch.notice]) } := by
  rw [run, Plan.build_eq_ok h]

/-- The first call of a session launches the plan of its command line, if that is an invocation and
the log channel can be set up, and else nothing. The environment is handed on but for the search
path, a failure of the launch, whatever it is, is the failure of the call, and no log line is in the
way. -/
theorem call_launches (c : Call ε ω) (channel : Log.Channel)
    (h : ({} : Log.Channel).setUp (Settings.ofEnvironment c.environment).logLevel
      (Settings.ofEnvironment c.environment).logFormat = .ok channel) :
    let settings := Settings.ofEnvironment c.environment
    let answer := (({} : Session).call c).1
    (∀ i, Invocation.parse c.argv = .ok i →
      ∃ plan notices launch, Plan.build c.argv settings c.host = .ok (plan, notices) ∧
        answer.launch = some launch ∧
        launch.binary = c.environment.getD "SB_BWRAP_BIN" "/usr/bin/bwrap" ∧
        launch.words = plan.command ∧
        (∀ name, launch.environment.get? name =
          if name = "PATH" then some "/bin:/usr/bin" else c.environment.get? name) ∧
        (c.launched launch = .ok () → answer.exit = .ok exitOk) ∧
        (∀ e, c.launched launch = .error e → answer.exit = .error (.launch e)) ∧
        ∀ n ∈ notices ++ settingsNotices settings ++ [launch.notice],
          ∃ l, channel.emit (n.record (c.lineOf n)) c.moment = .ok l) ∧
      ∀ r, Invocation.parse c.argv = .error r → answer.launch = none := by
  intro settings answer
  have hanswer : answer = run settings channel c :=
    (fst_call_start c).trans (settled_of_setUp h c)
  constructor
  · intro i hi
    obtain ⟨⟨plan, notices⟩, hplan⟩ : ∃ p, Plan.ofInvocation i settings c.host = p := ⟨_, rfl⟩
    have hrun := run_of_parse_eq_ok hi settings channel
    rw [← hanswer, hplan] at hrun
    have hexit := congrArg Answer.exit hrun
    refine ⟨plan, notices, Launch.ofPlan plan settings, hplan ▸ Plan.build_eq_ok hi settings c.host,
      congrArg Answer.launch hrun, rfl, rfl, ?_, fun h => ?_, fun e h => ?_, fun n _ => ?_⟩
    · exact c.environment.get?_set "PATH" settings.searchPath
    · rw [hexit, launchExit, h]
    · rw [hexit, launchExit, h]
    · exact channel.exists_emit_eq (n.message_record _ _) rfl
  · intro r hr
    exact (congrArg Answer.launch (fst_call_start c)).trans (launch_settled_eq_none hr settings)

/-- With a relative home, every log line wanted and a launch that is not permitted, the plan is
launched. -/
theorem call_launches_verbose :
    let c : Call Empty String :=
      { argv := ["-c", "ls", "-l"]
        environment := ⟨[("LOG_LEVEL", "debug"), ("HOME", "home"), ("PATH", "/opt")]⟩
        host := fun _ => true, moment := .still, screen := fun _ _ => ⟨"", none⟩
        launched := fun l => .error ("[Errno 13] Permission denied: '" ++ l.binary ++ "'")
        drop := false }
    let settings := Settings.ofEnvironment c.environment
    settings.isValid = false ∧
      ({} : Log.Channel).setUp settings.logLevel settings.logFormat = .ok ⟨10, [⟨10, .text⟩]⟩ ∧
      Invocation.parse c.argv = .ok ⟨.command, "ls", ["-l"]⟩ ∧
      ∃ launch, (({} : Session).call c).1.launch = some launch ∧
        launch.binary = "/usr/bin/bwrap" ∧
        launch.environment.get? "PATH" = some "/bin:/usr/bin" ∧
        launch.environment.get? "HOME" = some "home" ∧
        (({} : Session).call c).1.exit =
          .error (.launch "[Errno 13] Permission denied: '/usr/bin/bwrap'") := by
  intro c settings
  have hlevel : settings.logLevel = "DEBUG" := by decide +kernel
  have hformat : settings.logFormat = "text" := by decide +kernel
  have hsetup : ({} : Log.Channel).setUp settings.logLevel settings.logFormat =
      .ok ⟨10, [⟨10, .text⟩]⟩ := by
    rw [hlevel, hformat]
    decide +kernel
  obtain ⟨plan, notices, launch, -, hlaunch, hbinary, -, henvironment, -, hexit, -⟩ :=
    (call_launches c _ hsetup).1 ⟨.command, "ls", ["-l"]⟩ rfl
  refine ⟨by decide +kernel, hsetup, rfl, launch, hlaunch, hbinary, ?_, ?_, hexit _ ?_⟩
  · exact henvironment "PATH"
  · exact henvironment "HOME"
  · show Except.error ("[Errno 13] Permission denied: '" ++ launch.binary ++ "'") = _
    rw [hbinary]
    rfl

end Session
end Cloister
