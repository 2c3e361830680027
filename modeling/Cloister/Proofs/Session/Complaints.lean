import Cloister.Proofs.Console.Screen
import Cloister.Proofs.Session.Launches

/-! # How malformed command lines are answered

A malformed command line launches nothing. The complaint about it is put between the tags of a
colour as it is, so that a selector that looks like markup is taken for it. What becomes of it then is
up to the screen, of which only its manual is known.

* `Session.complaintText`, `Session.complaint_eq`: what is to be shown, and in which colour.
* `Session.exists_shown_complaint`, `Session.exists_refused_complaint`: what a screen makes of it.
* `Session.call_of_usage`: the answer to a malformed command line.
* `Session.call_of_usage_markup`: a selector with tags is lost, or ends the call without an answer.
-/

namespace Cloister.Session
set_option autoImplicit false

variable {ε ω : Type} {e : Invocation.UsageError}

/-! ## Complaints -/

/-- What is to be shown of a malformed command line. -/
def complaintText (e : Invocation.UsageError) : List Char := ("ERROR: " ++ e.message).toList

theorem complaint_eq (e : Invocation.UsageError) :
    complaint e = Screen.colored (complaintText e) := by
  have hfront : "[red]" ++ "ERROR: " = "[red]ERROR: " := rfl
  rw [complaint, Screen.colored, complaintText, String.ofList_toList, ← String.append_assoc, hfront]

theorem getLast?_complaintText (e : Invocation.UsageError) :
    (complaintText e).getLast? ≠ some '\\' := by
  cases e with
  | missing => decide
  | unrecognized selector =>
    have hlast : "' unrecognized argument".toList.getLast? = some 't' := by decide
    rw [complaintText, Invocation.UsageError.message, ← String.append_assoc, String.toList_append,
      List.getLast?_append, hlast, Option.some_or]
    decide

/-- The text before a tag in a selector, and the text behind it. -/
theorem complaintText_unrecognized (a b : List Char) :
    complaintText (.unrecognized (String.ofList (a ++ "[/]".toList ++ b))) =
      ("ERROR: '".toList ++ a) ++ "[/]".toList ++ (b ++ "' unrecognized argument".toList) := by
  simp [complaintText, Invocation.UsageError.message]

/-! ## What is shown of them -/

section Shown
variable {m : Screen.Manual} {screen : Screen ε}

/-- A complaint without markup is shown as it is, in lines that fit. -/
theorem exists_shown_complaint (h : m.Describes screen) (environment : Environment)
    (hplain : m.isPlain (complaintText e) = true) :
    ∃ lines, screen environment (complaint e) = ⟨String.ofList lines ++ "\n", none⟩ ∧
      (2 ≤ m.width environment →
        Screen.Wraps m.cells (m.width environment) (complaintText e) lines) ∧
      (2 * (complaintText e).length ≤ m.width environment → lines = complaintText e) := by
  rw [complaint_eq]
  exact h.shown environment hplain (getLast?_complaintText e)

/-- A selector with a closing tag that has no name closes the colour of the complaint, which is
refused. -/
theorem exists_refused_complaint (h : m.Describes screen) (environment : Environment)
    {a b : List Char} (ha : m.isPlain ("ERROR: '".toList ++ a) = true)
    (hb : m.isPlain (b ++ "' unrecognized argument".toList) = true)
    (hlast : a.getLast? ≠ some '\\') :
    ∃ f, screen environment
        (complaint (.unrecognized (String.ofList (a ++ "[/]".toList ++ b)))) = ⟨"", some f⟩ := by
  have halast : ("ERROR: '".toList ++ a).getLast? ≠ some '\\' := by
    rw [List.getLast?_append]
    cases h : a.getLast? with
    | none => decide
    | some x => rwa [Option.some_or, ← h]
  have hblast : (b ++ "' unrecognized argument".toList).getLast? ≠ some '\\' := by
    have htail : "' unrecognized argument".toList.getLast? = some 't' := by decide
    rw [List.getLast?_append, htail, Option.some_or]
    decide
  rw [complaint_eq, complaintText_unrecognized]
  exact h.unmatched environment ha hb halast hblast

end Shown

/-! ## Answers -/

/-- A malformed command line has no plan and launches nothing; its complaint is printed. -/
theorem settled_of_usage {settings : Settings} {channel : Log.Channel} {c : Call ε ω}
    (hparse : Invocation.parse c.argv = .error (.usage e))
    (hsetup : ({} : Log.Channel).setUp settings.logLevel settings.logFormat = .ok channel) :
    settled settings c = printing c exitUsage [complaint e] := by
  rw [settled_of_setUp hsetup, run, Plan.build, hparse]
  rfl

theorem printing_singleton (c : Call ε ω) (code : Nat) (p : Printout) :
    printing c code [p] =
      ⟨printExit code (c.screen c.environment p).failure, none,
        (c.screen c.environment p).written⟩ := by
  rw [printing, Screen.print_singleton]

/-- A malformed command line has no plan and launches nothing. The call writes what the screen writes
of the complaint in red, and it ends with the exit code for it, unless the screen refuses it. A
complaint without markup is shown as it is, in lines that fit. One with a closing tag in it that has
no name is refused, and nothing is written. -/
theorem call_of_usage (s : Session) (c : Call ε ω) (m : Screen.Manual) (e : Invocation.UsageError)
    (channel : Log.Channel) (hscreen : m.Describes c.screen)
    (hparse : Invocation.parse c.argv = .error (.usage e))
    (hsetup : s.channel.setUp (settingsFor s.store c).1.logLevel
      (settingsFor s.store c).1.logFormat = .ok channel) :
    let answer := (s.call c).1
    let shown := c.screen c.environment (.message ("[red]ERROR: " ++ e.message ++ "[/red]"))
    let width := m.width c.environment
    Plan.build c.argv (settingsFor s.store c).1 c.host = .error (.usage e) ∧
      answer.launch = none ∧ answer.written = shown.written ∧
      (shown.failure = none → answer.exit = .ok exitUsage) ∧
      (∀ f, shown.failure = some f → answer.exit = .error (.console f)) ∧
      (m.isPlain (complaintText e) = true →
        answer.exit = .ok exitUsage ∧ ∃ lines, answer.written = String.ofList lines ++ "\n" ∧
          (2 ≤ width → Screen.Wraps m.cells width (complaintText e) lines) ∧
          (2 * (complaintText e).length ≤ width → lines = complaintText e)) ∧
      ∀ a b : List Char, e = .unrecognized (String.ofList (a ++ "[/]".toList ++ b)) →
        m.isPlain ("ERROR: '".toList ++ a) = true →
        m.isPlain (b ++ "' unrecognized argument".toList) = true → a.getLast? ≠ some '\\' →
        (∃ f, answer.exit = .error (.console f)) ∧ answer.written = "" := by
  intro answer shown width
  have hanswer : answer = printing c exitUsage [complaint e] :=
    (fst_call s c).trans (settled_of_usage hparse hsetup)
  rw [printing_singleton] at hanswer
  have hwritten : answer.written = shown.written := congrArg Answer.written hanswer
  have hcode : answer.exit = printExit exitUsage shown.failure := congrArg Answer.exit hanswer
  have hexit (h : shown.failure = none) : answer.exit = .ok exitUsage := by
    rw [hcode, h, printExit]
  have hfail (f : ε) (h : shown.failure = some f) : answer.exit = .error (.console f) := by
    rw [hcode, h, printExit]
  have hshown : shown = c.screen c.environment (complaint e) := rfl
  refine ⟨by rw [Plan.build, hparse]; rfl, by rw [hanswer], hwritten, hexit, hfail,
    fun hplain => ?_, fun a b he ha hb hlast => ?_⟩
  · obtain ⟨lines, hlines, hwraps, hshort⟩ :=
      exists_shown_complaint hscreen c.environment hplain
    rw [hlines] at hshown
    exact ⟨hexit (by rw [hshown]), lines, by rw [hwritten, hshown], hwraps, hshort⟩
  · obtain ⟨f, hf⟩ := exists_refused_complaint hscreen c.environment ha hb hlast
    rw [he, hf] at hshown
    exact ⟨⟨f, hfail f (by rw [hshown])⟩, by rw [hwritten, hshown]⟩

theorem setUp_empty :
    ({} : Log.Channel).setUp (Settings.ofEnvironment .empty).logLevel
      (Settings.ofEnvironment .empty).logFormat = .ok ⟨30, [⟨30, .text⟩]⟩ := by
  have hlevel : (Settings.ofEnvironment .empty).logLevel = "WARNING" := by decide +kernel
  have hformat : (Settings.ofEnvironment .empty).logFormat = "text" := by decide +kernel
  rw [hlevel, hformat]
  decide +kernel

/-- Brackets, colons and backslashes are shown as they are where no markup starts. -/
theorem call_of_usage_brackets :
    let c : Call Markup.Failure Empty :=
      { argv := ["a:[B]\\", "app"], environment := .empty, host := fun _ => true, moment := .still
        screen := Console.screen Console.columns, launched := fun _ => .ok (), drop := false }
    let answer := (({} : Session).call c).1
    answer.exit = .ok exitUsage ∧ answer.launch = none ∧
      answer.written = "ERROR: 'a:[B]\\' unrecognized argument\n" := by
  intro c answer
  have hsetup : ({} : Log.Channel).setUp (settingsFor ({} : Session).store c).1.logLevel
      (settingsFor ({} : Session).store c).1.logFormat = .ok ⟨30, [⟨30, .text⟩]⟩ := by
    rw [fst_settingsFor_start]
    exact setUp_empty
  obtain ⟨-, hlaunch, -, -, -, hplain, -⟩ :=
    call_of_usage {} c (Console.manual Console.columns) (.unrecognized "a:[B]\\") _
      (Console.describes _) rfl hsetup
  obtain ⟨hexit, lines, hwritten, -, hlines⟩ := hplain (by decide +kernel)
  refine ⟨hexit, hlaunch, ?_⟩
  rw [hwritten, hlines (by decide +kernel)]
  rfl

/-- A selector with tags: one that closes the colour ends the call without an answer, and one that
opens a style is not shown. -/
theorem call_of_usage_markup :
    let c (selector : String) : Call Markup.Failure Empty :=
      { argv := [selector, "app"], environment := .empty, host := fun _ => true, moment := .still
        screen := Console.screen Console.columns, launched := fun _ => .ok (), drop := false }
    let answer (selector : String) : Answer Markup.Failure Empty :=
      (({} : Session).call (c selector)).1
    Invocation.parse (c "[/]").argv = .error (.usage (.unrecognized "[/]")) ∧
      (answer "[/]").exit = .error (.console (.unmatched ['/', 'r', 'e', 'd'] 39)) ∧
      (answer "[/]").written = "" ∧
      Invocation.parse (c "[b]").argv = .error (.usage (.unrecognized "[b]")) ∧
      (answer "[b]").exit = .ok exitUsage ∧
      (answer "[b]").written = "ERROR: '' unrecognized argument\n" := by
  intro c answer
  have hanswer (selector : String)
      (h : Invocation.parse [selector, "app"] = .error (.usage (.unrecognized selector))) :
      answer selector = printing (c selector) exitUsage [complaint (.unrecognized selector)] :=
    (fst_call_start (c selector)).trans (settled_of_usage h setUp_empty)
  have hclosed : (c "[/]").screen .empty (complaint (.unrecognized "[/]")) =
      ⟨"", some (.unmatched ['/', 'r', 'e', 'd'] 39)⟩ := by
    decide +kernel
  have hopened : (c "[b]").screen .empty (complaint (.unrecognized "[b]")) =
      ⟨"ERROR: '' unrecognized argument\n", none⟩ := by
    decide +kernel
  have hrefused := (hanswer "[/]" rfl).trans (printing_singleton ..)
  have hshown := (hanswer "[b]" rfl).trans (printing_singleton ..)
  rw [show (c "[/]").environment = .empty from rfl, hclosed] at hrefused
  rw [show (c "[b]").environment = .empty from rfl, hopened] at hshown
  exact ⟨rfl, congrArg Answer.exit hrefused, congrArg Answer.written hrefused, rfl,
    congrArg Answer.exit hshown, congrArg Answer.written hshown⟩

end Cloister.Session
