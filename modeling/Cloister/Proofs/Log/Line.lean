import Cloister.Log.Record
import Cloister.Proofs.Json.Reader

/-! # Log lines that cannot be forged

A log record in JSON is a single line of ASCII, whatever stands in its words, its names and what it
tells of a failure. All of it is read back from the line, and nothing else.

* `Log.Record.faithful_objectOf`: the object of a record can be read back.
* `Log.Record.json_eq_ok_iff`: which records have a line in JSON, and which one.
* `Log.Record.json_reads_back`: the line of a record is read as its object, with a character in the
  place of every two halves of a pair that stand together.
-/

namespace Cloister.Log
set_option autoImplicit false

/-- What is told of a failure is what can be told of each part of it. -/
theorem toldOf_eq_ok_iff {failure : Option Fault} {t : Told} :
    toldOf failure = .ok t ↔
      (failure.map Fault.words).getD (.ok none) = .ok t.words ∧ reportOf failure = .ok t.report ∧
        t.name = failure.map Fault.name := by
  obtain ⟨name, words, report⟩ := t
  cases failure with
  | none =>
    simp [toldOf, reportOf, pure, Except.pure, bind, Except.bind]
    tauto
  | some f =>
    cases hwords : f.words <;> cases hreport : f.report <;>
      simp [toldOf, reportOf, hwords, hreport, pure, Except.pure, bind, Except.bind]
    tauto

namespace Record

theorem faithful_ofText? (s : Option Text.Points) : (Json.ofText? s).Faithful := by
  cases s with
  | none => exact .null
  | some s => exact .text s

/-- An object whose fields are named by strings, none of them twice, is read back. -/
theorem faithful_object (names : List String) {fs : List (Text.Points × Json)}
    (hnames : fs.map Prod.fst = names.map Text.points) (hnodup : (names.map Text.points).Nodup)
    (hfields : ∀ f ∈ fs, f.2.Faithful) : (Json.object fs).Faithful := by
  refine .object (hnames ▸ hnodup) (fun f hf => ?_) hfields
  have hname := List.mem_map_of_mem (f := Prod.fst) hf
  rw [hnames] at hname
  obtain ⟨name, -, hname⟩ := List.mem_map.mp hname
  rw [← hname, Text.joined_points]

theorem faithful_failureObject (t : Told) : (failureObject t).Faithful := by
  refine faithful_object ["type", "message", "traceback"] rfl (by decide +kernel) ?_
  simp only [List.forall_mem_cons, faithful_ofText?, true_and]
  exact ⟨.text _, nofun⟩

/-- No name is there twice in the object of a record, with or without a failure. -/
theorem faithful_objectOf (r : Record) (m : Moment) (words : Text.Points) (told : Option Told) :
    (r.objectOf m words told).Faithful := by
  have hfields : ∀ f ∈ [(Text.points "timestamp", Json.text (Text.points m.instant)),
      (Text.points "level", .text (Text.points (severityName r.severity))),
      (Text.points "logger", .text r.logger), (Text.points "message", .text words),
      (Text.points "module", .text r.module), (Text.points "function", .ofText? r.function),
      (Text.points "line", .int r.line)], f.2.Faithful := by
    simp only [List.forall_mem_cons, faithful_ofText?, true_and]
    exact ⟨.text _, .text _, .text _, .text _, .text _, .int _, nofun⟩
  let names := ["timestamp", "level", "logger", "message", "module", "function", "line"]
  cases told with
  | none =>
    exact faithful_object names rfl (by decide +kernel)
      (List.forall_mem_append.mpr ⟨hfields, nofun⟩)
  | some t =>
    refine faithful_object (names ++ ["exception"]) rfl (by decide +kernel)
      (List.forall_mem_append.mpr ⟨hfields, ?_⟩)
    exact List.forall_mem_singleton.mpr (faithful_failureObject t)

/-- The line of a record has the words of the record and what is told of its failure, and is the text
of its object. -/
theorem json_eq_ok_iff {r : Record} {m : Moment} {line : String} :
    r.json m = .ok line ↔
      ∃ words told, r.message m.room = .ok words ∧ r.failure.mapM toldOf = .ok told ∧
        line = String.ofList (r.objectOf m words told).written := by
  rw [json, tell]
  cases r.message m.room with
  | error e => simp [Except.map, bind, Except.bind]
  | ok words =>
    cases r.failure.mapM toldOf with
    | error e => simp [Except.map, Except.mapError, bind, Except.bind]
    | ok told => simp [Except.map, Except.mapError, bind, Except.bind, pure, Except.pure, eq_comm]

theorem joined_ofText? (s : Option Text.Points) :
    (Json.ofText? s).joined = .ofText? (s.map Text.joined) := by
  cases s <;> rfl

theorem joined_failureObject (t : Told) :
    (failureObject t).joined =
      .object
        [(Text.points "type", .ofText? (t.name.map Text.joined)),
          (Text.points "message", .ofText? (t.words.map Text.joined)),
          (Text.points "traceback", .text (Text.joined t.report))] := by
  simp only [failureObject, Json.joined, Json.joinedFields, joined_ofText?]

theorem joinedFields_append (fs gs : List (Text.Points × Json)) :
    Json.joinedFields (fs ++ gs) = Json.joinedFields fs ++ Json.joinedFields gs := by
  induction fs with
  | nil => rfl
  | cons f fs ih => rw [List.cons_append, Json.joinedFields, ih, Json.joinedFields, List.cons_append]

/-- The line of a record, if its words and its failure can be told, holds nothing but printable ASCII.
It is read as the object that has the time, the severity, the logger, the words, the module, the
function, the number of the line, and the failure if the record tells of one. Every text in it is as
it was, whatever characters it holds, unless it holds halves of a pair that stand together: they are
read as the character that they stand for. -/
theorem json_reads_back (r : Record) (m : Moment) (line : String) (h : r.json m = .ok line) :
    (∀ c ∈ line.toList, 0x20 ≤ c.toNat ∧ c.toNat ≤ 0x7E) ∧
    (∃ words exception, r.message m.room = .ok words ∧
      (r.failure = none → exception = []) ∧
      (∀ f, r.failure = some f → ∃ said report, (f.map Fault.words).getD (.ok none) = .ok said ∧
        reportOf f = .ok report ∧
        exception = [(Text.points "exception", .object
          [(Text.points "type", .ofText? ((f.map Fault.name).map Text.joined)),
            (Text.points "message", .ofText? (said.map Text.joined)),
            (Text.points "traceback", .text (Text.joined report))])]) ∧
      Json.read? line = some (.object
        ([(Text.points "timestamp", .text (Text.points m.instant)),
          (Text.points "level", .text (Text.points (severityName r.severity))),
          (Text.points "logger", .text (Text.joined r.logger)),
          (Text.points "message", .text (Text.joined words)),
          (Text.points "module", .text (Text.joined r.module)),
          (Text.points "function", .ofText? (r.function.map Text.joined)),
          (Text.points "line", .int r.line)] ++ exception))) ∧
    ∀ s : Text.Points, Text.joined s = s ↔
      s.IsChain fun p q => ¬ (Text.isHigh p = true ∧ Text.isLow q = true) := by
  obtain ⟨words, told, hwords, htold, rfl⟩ := json_eq_ok_iff.mp h
  have hfaithful := faithful_objectOf r m words told
  have hread := Json.read?_written hfaithful
  refine ⟨?_, ⟨words, Json.joinedFields (exceptionField told), hwords, ?_, ?_, ?_⟩,
    fun s => Text.joined_eq_self_iff⟩
  · rw [String.toList_ofList]
    exact Json.isAsciiLine_written hfaithful
  · intro hnone
    rw [hnone] at htold
    obtain rfl : none = told := Except.ok.inj htold
    rfl
  · intro f hf
    rw [hf] at htold
    cases htoldf : toldOf f with
    | error e => simp [htoldf] at htold
    | ok t =>
      obtain ⟨hsaid, hreport, hname⟩ := toldOf_eq_ok_iff.mp htoldf
      have ht : told = some t := by simpa [htoldf] using htold.symm
      refine ⟨t.words, t.report, hsaid, hreport, ?_⟩
      rw [ht, exceptionField_some, Json.joinedFields, joined_failureObject, hname, Json.joinedFields]
  · rw [hread, objectOf, Json.joined, joinedFields_append]
    simp only [Json.joinedFields, Json.joined, joined_ofText?, Text.joined_points]

/-- Breaks of lines, quotes, backslashes and characters beyond the basic plane in all places, words
that are made to look like the end of a record and another one, and a half of a pair by itself. -/
theorem json_reads_back_forged :
    let half : Text.Point := 0xD83D
    let r : Record :=
      { severity := 40
        logger := Text.points "log\"ger" ++ [half]
        said := .template "Ignoring entry outside %s: %s"
          [.text "/home/\\", .text "x\"\x7d\n\x7b\"level\": \"INFO\", \"message\": \"\u2028😀"]
        path := Text.points "/x/mod\t.py"
        line := -7
        function := none
        failure := some (some (.other (Text.points "Öops") (.ok none)
          (.ok (Text.points "Traceback:\r\n\x00")))) }
    ∃ line, r.json .still = .ok line ∧
      (∀ c ∈ line.toList, 0x20 ≤ c.toNat ∧ c.toNat ≤ 0x7E) ∧
      Json.read? line = some (.object
        [(Text.points "timestamp", .text (Text.points "2000-01-01T00:00:00Z")),
          (Text.points "level", .text (Text.points "ERROR")),
          (Text.points "logger", .text (Text.points "log\"ger" ++ [half])),
          (Text.points "message", .text (Text.points
            "Ignoring entry outside /home/\\: x\"\x7d\n\x7b\"level\": \"INFO\", \"message\": \"\u2028😀")),
          (Text.points "module", .text (Text.points "mod\t")), (Text.points "function", .null),
          (Text.points "line", .int (-7)),
          (Text.points "exception", .object
            [(Text.points "type", .text (Text.points "Öops")), (Text.points "message", .null),
              (Text.points "traceback", .text (Text.points "Traceback:\r\n\x00"))])]) := by
  intro half r
  have hwords : r.message Moment.still.room = .ok (Text.points
      "Ignoring entry outside /home/\\: x\"\x7d\n\x7b\"level\": \"INFO\", \"message\": \"\u2028😀") := by
    decide +kernel
  have htold : r.failure.mapM toldOf = .ok (some ⟨some (Text.points "Öops"), none,
      Text.points "Traceback:\r\n\x00"⟩) := rfl
  have hline : r.json .still = .ok _ := json_eq_ok_iff.mpr ⟨_, _, hwords, htold, rfl⟩
  obtain ⟨hascii, ⟨words, exception, hsame, -, htells, hread⟩, -⟩ := json_reads_back r .still _ hline
  obtain rfl := Except.ok.inj (hwords.symm.trans hsame)
  obtain ⟨said, report, hsaid, hreport, rfl⟩ := htells _ rfl
  obtain rfl : none = said := Except.ok.inj hsaid
  obtain rfl : Text.points "Traceback:\r\n\x00" = report := Except.ok.inj hreport
  have hmodule : r.module = Text.points "mod\t" := by decide +kernel
  have hlogger : Text.joined r.logger = r.logger := by decide +kernel
  rw [hmodule, hlogger] at hread
  simp only [Text.joined_points, Option.map_some, Option.map_none] at hread
  exact ⟨_, hline, hascii, hread⟩

/-- Two halves of a pair that stand together in the words of a record are read as one character. -/
theorem json_halves :
    let r : Record :=
      { severity := 20, logger := Text.points "x"
        said := .template "%c%c" [.int 0xD83D, .int 0xDE00], path := [], line := 1 }
    let halves : Text.Points := [0xD83D, 0xDE00]
    r.message Moment.still.room = .ok halves ∧ halves ≠ Text.points "😀" ∧
      ∃ line fields, r.json .still = .ok line ∧ Json.read? line = some (.object fields) ∧
        fields.lookup (Text.points "message") = some (.text (Text.points "😀")) := by
  intro r halves
  have hwords : r.message Moment.still.room = .ok halves := by decide +kernel
  have hpair : Text.joined halves = Text.points "😀" := by decide +kernel
  refine ⟨hwords, by decide, _, _, json_eq_ok_iff.mpr ⟨_, none, hwords, rfl, rfl⟩,
    Json.read?_written (faithful_objectOf r .still halves none), ?_⟩
  rw [← hpair]
  rfl

end Record
end Cloister.Log
