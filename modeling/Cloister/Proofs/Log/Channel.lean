import Cloister.Log.Channel
import Mathlib.Data.List.Induction

/-! # Setting up the log channel

However often the log channel is set up, it has one handler, and that of the last success. An attempt
that fails leaves the channel as it was, and a record is written once or not at all.

* `Log.Channel.settingUp`: setting up a channel, step by step.
* `Log.Channel.run_settingUp`: a failure comes before the first change.
* `Log.Channel.Refused`: the words that no channel can be set up with.
* `Log.Channel.attempts`: a channel after attempts to set it up, some of which may fail.
* `Log.Channel.exists_emit_eq`: the line of a record whose words can be told can be written.
* `Log.Channel.emit_single`: what a channel with a single handler of its own severity writes.
* `Log.Channel.attempts_settle`: what channel there is after attempts, and what it writes.
-/

namespace Cloister.Log.Channel
set_option autoImplicit false

/-! ## One attempt -/

/-- Setting up a channel, step by step: its severity is found and changed, all handlers are removed,
and one is added that has the severity which the channel has by then. -/
def settingUp (level form : String) : EStateM SetupError Channel Unit := do
  let n ← MonadExcept.ofExcept (severityOf level)
  modify fun c => { c with severity := n }
  modify fun c => { c with handlers := [] }
  let changed ← get
  modify fun c => { c with handlers := c.handlers ++ [⟨changed.severity, .ofWord form⟩] }

/-- A failure comes before the first change. -/
theorem run_settingUp (c : Channel) (level form : String) :
    (settingUp level form).run c =
      match c.setUp level form with
      | .ok d => .ok () d
      | .error e => .error e c := by
  rw [setUp]
  cases h : severityOf level with
  | ok n =>
    rw [settingUp, h]
    rfl
  | error e =>
    rw [settingUp, h]
    rfl

/-- Words that no channel can be set up with: they name something else than a severity. -/
def Refused (level : String) : Prop := Text.toUpper level ∈ ["BASIC_FORMAT", "_STYLES"]

instance (level : String) : Decidable (Refused level) :=
  inferInstanceAs (Decidable (_ ∈ ["BASIC_FORMAT", "_STYLES"]))

/-- The severity that a word names, or that of warnings. -/
def severityNamed (level : String) : Int :=
  (severities.lookup (Text.toUpper level)).getD Notice.warning

section Words
variable {level : String}

theorem severityOf_of_refused (h : Refused level) : ∃ e, severityOf level = .error e := by
  simp only [Refused, List.mem_cons, List.not_mem_nil, or_false] at h
  unfold severityOf
  rcases h with h | h <;> rw [h]
  · exact ⟨_, rfl⟩
  · exact ⟨_, rfl⟩

theorem severityOf_of_not_refused (h : ¬ Refused level) :
    severityOf level = .ok (severityNamed level) := by
  simp only [Refused, List.mem_cons, List.not_mem_nil, or_false, not_or] at h
  rw [severityOf, if_neg h.1, if_neg h.2, severityNamed]

theorem run_settingUp_of_refused (h : Refused level) (c : Channel) (form : String) :
    ∃ e, (settingUp level form).run c = .error e c := by
  obtain ⟨e, he⟩ := severityOf_of_refused h
  exact ⟨e, by rw [run_settingUp, setUp, he]; rfl⟩

theorem run_settingUp_of_not_refused (h : ¬ Refused level) (c : Channel) (form : String) :
    (settingUp level form).run c =
      .ok () ⟨severityNamed level, [⟨severityNamed level, .ofWord form⟩]⟩ := by
  rw [run_settingUp, setUp, severityOf_of_not_refused h]
  rfl

end Words

theorem ofWord_eq_json_iff {form : String} : LineForm.ofWord form = .json ↔ form = "json" := by
  rw [LineForm.ofWord]
  split <;> simp_all

/-! ## Several attempts -/

/-- The channel after an attempt to set it up, with a word for the severity and one for the form. -/
def attempt (c : Channel) (words : String × String) : Channel :=
  match (settingUp words.1 words.2).run c with
  | .ok _ d | .error _ d => d

/-- The channel after several attempts. -/
def attempts (c : Channel) (calls : List (String × String)) : Channel := calls.foldl attempt c

section Attempts
variable {level : String}

theorem attempt_of_refused (h : Refused level) (c : Channel) (form : String) :
    c.attempt (level, form) = c := by
  obtain ⟨e, he⟩ := run_settingUp_of_refused h c form
  rw [attempt, he]

theorem attempt_of_not_refused (h : ¬ Refused level) (c : Channel) (form : String) :
    c.attempt (level, form) = ⟨severityNamed level, [⟨severityNamed level, .ofWord form⟩]⟩ := by
  rw [attempt, run_settingUp_of_not_refused h]

/-- Attempts that fail, one after another, change nothing. -/
theorem attempts_of_refused {calls : List (String × String)} (h : ∀ call ∈ calls, Refused call.1)
    (c : Channel) : c.attempts calls = c := by
  induction calls with
  | nil => rfl
  | cons call calls ih =>
    have hfirst : c.attempt call = c := attempt_of_refused (h call List.mem_cons_self) c call.2
    rw [attempts, List.foldl_cons, hfirst]
    exact ih fun x hx => h x (List.mem_cons_of_mem call hx)

theorem attempts_append (c : Channel) (calls later : List (String × String)) :
    c.attempts (calls ++ later) = (c.attempts calls).attempts later := List.foldl_append

/-- The channel is that of the last success. -/
theorem attempts_of_last {calls later : List (String × String)} (h : ¬ Refused level)
    (hlater : ∀ call ∈ later, Refused call.1) (c : Channel) (form : String) :
    c.attempts (calls ++ (level, form) :: later) =
      ⟨severityNamed level, [⟨severityNamed level, .ofWord form⟩]⟩ := by
  rw [attempts_append, attempts, List.foldl_cons, attempt_of_not_refused h]
  exact attempts_of_refused hlater _

/-- Among attempts of which one succeeds, there is a last success. -/
theorem exists_last_success {calls : List (String × String)}
    (h : ∃ call ∈ calls, ¬ Refused call.1) :
    ∃ before level form later, calls = before ++ (level, form) :: later ∧ ¬ Refused level ∧
      ∀ call ∈ later, Refused call.1 := by
  induction calls using List.reverseRecOn with
  | nil => simp at h
  | append_singleton calls last ih =>
    by_cases hlast : Refused last.1
    · obtain ⟨call, hcall, hne⟩ := h
      have hmem : call ∈ calls := by
        rcases List.mem_append.mp hcall with hcall | hcall
        · exact hcall
        · rw [List.mem_singleton.mp hcall] at hne
          exact absurd hlast hne
      obtain ⟨before, level, form, later, rfl, hlevel, hlater⟩ := ih ⟨call, hmem, hne⟩
      refine ⟨before, level, form, later ++ [last], by simp, hlevel, fun x hx => ?_⟩
      rcases List.mem_append.mp hx with hx | hx
      · exact hlater x hx
      · rw [List.mem_singleton.mp hx]
        exact hlast
    · exact ⟨calls, last.1, last.2, [], rfl, hlast, by simp⟩

end Attempts

/-! ## Lines -/

section Lines
variable {r : Record} {m : Moment} {words : Text.Points}

/-- A record can be told if its words can and if the same goes for its failure. -/
theorem tell_eq_ok {α : Type} {about : Option Fault → Except Fault.Untold α} {told : Option α}
    {room : Nat} (hwords : r.message room = .ok words)
    (htold : r.failure.mapM about = .ok told) : r.tell about room = .ok (words, told) := by
  rw [Record.tell, hwords, htold]
  rfl

theorem line_text {report : Option Text.Points} (hwords : r.message m.room = .ok words)
    (hreport : r.failure.mapM reportOf = .ok report) :
    line .text r m = .ok (Record.withReport (r.lineOf m words) report) := by
  rw [line, Record.text, tell_eq_ok hwords hreport]
  rfl

theorem line_json {told : Option Told} (hwords : r.message m.room = .ok words)
    (htold : r.failure.mapM toldOf = .ok told) :
    line .json r m = .ok (Text.points (String.ofList (r.objectOf m words told).written)) := by
  rw [line, Record.json, tell_eq_ok hwords htold]
  rfl

theorem exists_writeAll_eq {hs : List Handler}
    (h : ∀ form, ∃ l, line form r m = .ok l) : ∃ s, writeAll r m hs = .ok s := by
  induction hs with
  | nil => exact ⟨"", rfl⟩
  | cons handler hs ih =>
    obtain ⟨rest, hrest⟩ := ih
    obtain ⟨l, hline⟩ := h handler.form
    have hwrite : ∃ s, Handler.write handler r m = .ok s := by
      unfold Handler.write
      split
      · exact ⟨"", rfl⟩
      · exact ⟨onStream l, by rw [hline]; rfl⟩
    obtain ⟨first, hfirst⟩ := hwrite
    exact ⟨first ++ rest, by rw [writeAll, hfirst, hrest]⟩

/-- A record whose words can be told and that tells of no failure is written, whatever the channel. -/
theorem exists_emit_eq (c : Channel) (hwords : r.message m.room = .ok words)
    (hfailure : r.failure = none) : ∃ s, c.emit r m = .ok s := by
  have htold {α : Type} (about : Option Fault → Except Fault.Untold α) :
      r.failure.mapM about = .ok none := by rw [hfailure]; rfl
  unfold emit
  split
  · exact ⟨"", rfl⟩
  split
  · split
    · exact ⟨"", rfl⟩
    · exact ⟨_, by rw [Record.bare, tell_eq_ok hwords (htold reportOf)]; rfl⟩
  · refine exists_writeAll_eq fun form => ?_
    cases form with
    | text => exact ⟨_, line_text hwords (htold reportOf)⟩
    | json => exact ⟨_, line_json hwords (htold toldOf)⟩

/-- A single handler of the channel's own severity writes what the channel lets through. Where zero
leaves the choice to the surroundings, the channel is stricter than its handler. -/
theorem emit_single {n : Int} {form : LineForm} {l : Text.Points} (h : line form r m = .ok l) :
    emit ⟨n, [⟨n, form⟩]⟩ r m =
      .ok (if (if n = 0 then Notice.warning else n) ≤ r.severity then onStream l else "") := by
  have hthreshold : threshold ⟨n, [⟨n, form⟩]⟩ = if n = 0 then Notice.warning else n := rfl
  rw [emit, hthreshold]
  by_cases hlow : r.severity < if n = 0 then Notice.warning else n
  · rw [if_pos hlow, if_neg (Int.not_le.mpr hlow)]
  -- of the two filters, the handler's stops nothing that has passed the channel's
  · have hreached : ¬ r.severity < n := by
      have hwarning : (0 : Int) ≤ Notice.warning := by decide
      split at hlow <;> omega
    have hwrite : Handler.write ⟨n, form⟩ r m = .ok (onStream l) := by
      rw [Handler.write, if_neg hreached, h]
      rfl
    rw [if_neg hlow, if_pos (Int.not_lt.mp hlow), List.isEmpty_cons, if_neg Bool.false_ne_true,
      writeAll, hwrite, writeAll]
    simp only [String.append_empty]

end Lines

/-! ## What is left of several attempts -/

/-- An attempt that fails changes nothing, whatever the channel is. After attempts of which one
succeeds, the channel has the severity and the form of the last success, and one handler with both.
A record whose words can be told, and its failure if it tells of one, is written in one line of this
form, or not at all, as its severity reaches that of the channel or not; zero leaves the choice to the
surroundings, which ask for warnings. -/
theorem attempts_settle (c : Channel) (calls : List (String × String))
    (h : ∃ call ∈ calls, ¬ Refused call.1) :
    (∀ (d : Channel) (level form : String),
      (Refused level → ∃ e, (settingUp level form).run d = .error e d) ∧
      (¬ Refused level → ∃ d', (settingUp level form).run d = .ok () d')) ∧
    ∃ before level form later, calls = before ++ (level, form) :: later ∧ ¬ Refused level ∧
      (∀ call ∈ later, Refused call.1) ∧
      let n := (severities.lookup (Text.toUpper level)).getD Notice.warning
      let f := LineForm.ofWord form
      c.attempts calls = ⟨n, [⟨n, f⟩]⟩ ∧ (f = .json ↔ form = "json") ∧
      ∀ (r : Record) (m : Moment) (words : Text.Points), r.message m.room = .ok words →
        let reached := (if n = 0 then Notice.warning else n) ≤ r.severity
        (f = .text → ∀ report, r.failure.mapM reportOf = .ok report →
          let l := Text.points (m.wall ++ " - ") ++ r.logger ++
            Text.points (" - " ++ severityName r.severity ++ " - ") ++ words
          let shown := match report with
            | none | some [] => l
            | some p =>
              l ++ (if l.getLast? = some (Text.pointOf '\n') then [] else [Text.pointOf '\n']) ++ p
          (c.attempts calls).emit r m =
            .ok (if reached then Text.onStream shown ++ "\n" else "")) ∧
        (f = .json → ∀ told, r.failure.mapM toldOf = .ok told →
          (c.attempts calls).emit r m =
            .ok (if reached then String.ofList (r.objectOf m words told).written ++ "\n"
              else "")) := by
  refine ⟨fun d level form => ⟨fun hlevel => run_settingUp_of_refused hlevel d form,
    fun hlevel => ⟨_, run_settingUp_of_not_refused hlevel d form⟩⟩, ?_⟩
  obtain ⟨before, level, form, later, rfl, hlevel, hlater⟩ := exists_last_success h
  refine ⟨before, level, form, later, rfl, hlevel, hlater, attempts_of_last hlevel hlater c form,
    ofWord_eq_json_iff, fun r m words hwords => ⟨fun hform report hreport => ?_,
      fun hform told htold => ?_⟩⟩
  · have hline := line_text hwords hreport
    rw [← hform] at hline
    rw [attempts_of_last hlevel hlater, severityNamed, emit_single hline]
    rcases report with _ | _ | ⟨p, ps⟩ <;> rfl
  · have hline := line_json hwords htold
    rw [← hform] at hline
    rw [attempts_of_last hlevel hlater, severityNamed, emit_single hline, onStream,
      Text.onStream_points]

/-- A failure between and after successes changes nothing, and no handler is left of what was there
before. Without a severity of its own, the channel writes warnings. -/
theorem attempts_settle_notset :
    let c : Channel := ⟨10, [⟨10, .text⟩, ⟨20, .json⟩]⟩
    let calls := [("info", "json"), ("basic_format", "json"), ("NotSet", "JSON"), ("_styles", "json")]
    let r (severity : Int) : Record :=
      { severity, logger := Text.points "x", path := [], line := 1
        said := .template "%s of %d\n" [.text "é", .int 2]
        failure := some (some (.general "ValueError" [.text "bad"])) }
    c.attempts calls = ⟨0, [⟨0, .text⟩]⟩ ∧
      (c.attempts calls).emit (r 30) .still =
        .ok "2000-01-01 00:00:00,000 - x - WARNING - é of 2\nValueError: bad\n" ∧
      (c.attempts calls).emit (r 29) .still = .ok "" := by
  intro c calls r
  have hchannel : c.attempts calls = ⟨0, [⟨0, .text⟩]⟩ := by decide +kernel
  have hsome : ∃ call ∈ calls, ¬ Refused call.1 :=
    ⟨("info", "json"), List.mem_cons_self, by decide +kernel⟩
  obtain ⟨-, before, level, form, later, -, -, -, hsettled, -, hemit⟩ :=
    attempts_settle c calls hsome
  rw [hchannel, mk.injEq, List.cons.injEq, Handler.mk.injEq] at hsettled
  obtain ⟨hseverity, ⟨-, hform⟩, -⟩ := hsettled
  rw [← hseverity, ← hform] at hemit
  have hfill : Template.fill Moment.still.room "%s of %d\n" [.text "é", .int 2] =
      .ok (Text.points "é of 2\n") := by decide +kernel
  have hwords (severity : Int) :
      (r severity).message Moment.still.room = .ok (Text.points "é of 2\n") :=
    congrArg (Except.mapError Failure.template) hfill
  have hreport : (r 30).failure.mapM reportOf = .ok (some (Text.points "ValueError: bad")) := rfl
  refine ⟨hchannel, ?_, ?_⟩
  · rw [(hemit (r 30) _ _ (hwords 30)).1 rfl _ hreport]
    decide +kernel
  · rw [(hemit (r 29) _ _ (hwords 29)).1 rfl _ hreport]
    rfl

/-- A record in JSON that tells of a failure whose words cannot be told is not written at all, although
its own words can be told and although it is urgent enough. -/
theorem emit_untold :
    let c : Channel := ({} : Channel).attempts [("info", "json")]
    let r : Record :=
      { severity := 20, logger := Text.points "x", said := .template "m" [], path := [], line := 1
        failure := some (some (.characters "UnicodeEncodeError" (some "ascii") "abc" (-5) (-4) "r")) }
    c = ⟨20, [⟨20, .json⟩]⟩ ∧ r.message Moment.still.room = .ok (Text.points "m") ∧
      c.threshold ≤ r.severity ∧
      c.emit r .still = .error (.untold ⟨"SystemError",
        "<class 'str'> returned a result with an exception set"⟩) := by
  intro c r
  have hchannel : c = ⟨20, [⟨20, .json⟩]⟩ := by decide +kernel
  refine ⟨hchannel, rfl, ?_, ?_⟩
  · rw [hchannel]
    decide
  · rw [hchannel]
    rfl

end Cloister.Log.Channel
