import Cloister.Proofs.Bubblewrap.Commands

/-! # Command lines without gaps

Every plan is accepted, also one with a directive that lacks a part which its operation takes. The
command line then has a gap, or shows a text in the place of what is missing. It has neither exactly
for plans whose directives are complete, and such are the plans of all invocations.

* `Directive.operands`, `Directive.IsComplete`: the parts that an operation takes, and whether all of
  them are there.
* `Directive.filled`, `Plan.filled`: a text in the place of everything that is missing.
* `Directive.readWith_written`, `Plan.readWith_written`: what is written field by field is accepted.
* `Bubblewrap.words_filled_iff`: the words of a directive show nothing of what is missing exactly if
  it is complete.
* `Plan.command_whole_iff`: the same for plans.
-/

namespace Cloister
set_option autoImplicit false

/-! ## Complete directives -/

namespace Directive

/-- The parts that the operation of a directive takes, in the order of the command line. -/
def operands (d : Directive) : List (Option String) :=
  match d.kind with
  | .bindWritable | .bindReadOnly | .bindDevice | .maskFile | .symlink => [d.source, d.target]
  | .clear | .lock | .mountProc | .minimalDev => [d.target]
  | .unsetVariable | .setHostname | .unshare | .dropCapability => [d.value]
  | .newSession | .terminator => []

/-- No part is missing that the operation takes. -/
def IsComplete (d : Directive) : Prop := ∀ part ∈ d.operands, part.isSome = true

instance (d : Directive) : Decidable d.IsComplete :=
  inferInstanceAs (Decidable (∀ part ∈ d.operands, part.isSome = true))

/-- The directive with a text in the place of every part that is missing. -/
def filled (t : String) (d : Directive) : Directive where
  kind := d.kind
  source := some (d.source.getD t)
  target := some (d.target.getD t)
  value := some (d.value.getD t)
  required := d.required

section Filled
variable {d : Directive}

theorem operands_filled (t : String) :
    (d.filled t).operands = d.operands.map fun part => some (part.getD t) := by
  obtain ⟨kind, source, target, value, required⟩ := d
  cases kind <;> rfl

/-- A complete directive is not changed where its operation could see it, and no other one is left as
it is. -/
theorem operands_filled_eq_iff (t : String) :
    (d.filled t).operands = d.operands ↔ d.IsComplete := by
  have hpart (part : Option String) : some (part.getD t) = id part ↔ part.isSome = true := by
    cases part <;> simp
  calc (d.filled t).operands = d.operands
    _ ↔ d.operands.map (fun part => some (part.getD t)) = d.operands.map id := by
      rw [operands_filled, List.map_id]
    _ ↔ ∀ part ∈ d.operands, some (part.getD t) = id part := List.map_inj_left
    _ ↔ d.IsComplete := forall₂_congr fun part _ => hpart part

end Filled

theorem Formed.isComplete {d : Directive} (h : d.Formed) : d.IsComplete := by
  have hall : d.operands.all Option.isSome = true := by cases h <;> rfl
  exact List.all_eq_true.mp hall

end Directive

/-! ## Words -/

namespace Bubblewrap

variable {d e : Directive}

theorem length_words (h : d.kind = e.kind) : (words d).length = (words e).length := by
  unfold words
  rw [h]
  cases e.kind <;> rfl

/-- The words of a directive depend on nothing but the operation, what it takes, and whether it is
required. -/
theorem words_congr (hkind : d.kind = e.kind) (hrequired : d.required = e.required)
    (hoperands : d.operands = e.operands) : words d = words e := by
  obtain ⟨kind, source, target, value, required⟩ := d
  obtain ⟨kind', source', target', value', required'⟩ := e
  obtain rfl : kind = kind' := hkind
  obtain rfl : required = required' := hrequired
  cases kind <;> simp_all [words, Directive.operands]

/-- What an operation takes is seen in the words, unless it is put into one of them. -/
theorem operands_eq_of_words_eq (hkind : d.kind = e.kind) (hshare : d.kind ≠ .unshare)
    (hwords : words d = words e) : d.operands = e.operands := by
  obtain ⟨kind, source, target, value, required⟩ := d
  obtain ⟨kind', source', target', value', required'⟩ := e
  obtain rfl : kind = kind' := hkind
  cases kind <;> simp_all [words, Directive.operands]

theorem words_filled (h : d.IsComplete) (t : String) : words (d.filled t) = words d :=
  words_congr rfl rfl ((Directive.operands_filled_eq_iff t).mpr h)

/-- The words of a directive show nothing of what is missing exactly if it is complete. -/
theorem words_filled_iff : (∀ t, words (d.filled t) = words d) ↔ d.IsComplete := by
  refine ⟨fun h => ?_, fun h t => words_filled h t⟩
  -- the name of a namespace stands inside a word, which is there without the name as well
  by_cases hshare : d.kind = .unshare
  · intro part hpart
    obtain ⟨kind, source, target, value, required⟩ := d
    obtain rfl : kind = .unshare := hshare
    obtain rfl : part = value := List.mem_singleton.mp hpart
    cases part with
    | some v => rfl
    | none =>
      have hshown : [some ("--unshare-" ++ "")] = [some "--unshare-None"] := h ""
      exact absurd hshown (by decide)
  · exact (Directive.operands_filled_eq_iff "").mp (operands_eq_of_words_eq rfl hshare (h ""))

/-- Nothing is missing once every part has a text. -/
theorem isSome_of_mem_words_filled (t : String) {w : Word} (hw : w ∈ words (d.filled t)) :
    w.isSome = true := by
  have hall : (words (d.filled t)).all Option.isSome = true := by
    obtain ⟨kind, source, target, value, required⟩ := d
    cases kind <;> rfl
  exact List.all_eq_true.mp hall w hw

theorem wordsAll_filled_iff {ds : List Directive} {t : String} :
    wordsAll (ds.map (Directive.filled t)) = wordsAll ds ↔
      ∀ d ∈ ds, words (d.filled t) = words d := by
  induction ds with
  | nil => simp [wordsAll]
  | cons d ds ih =>
    have hlength : (words (d.filled t)).length = (words d).length := length_words rfl
    rw [List.forall_mem_cons, ← ih]
    exact ⟨fun h => List.append_inj h hlength, fun h => congrArg₂ (· ++ ·) h.1 h.2⟩

end Bubblewrap

/-! ## Plans -/

/-- What is written for a directive, field by field. -/
def Directive.written (d : Directive) : List (String × Datum) :=
  [("type", .text d.kind.name), ("source", Datum.ofText? d.source),
    ("target", Datum.ofText? d.target), ("value", Datum.ofText? d.value),
    ("required", .bool d.required)]

namespace Checked

variable {α : Type}

theorem field_of_lookup {fields : List (String × Datum)} {name : String} {default : Option α}
    {read : Datum → Checked α} {d : Datum} {a : α} (hlookup : Datum.field? name fields = some d)
    (hread : read d = .ok a) : field fields name default read = .ok a := by
  unfold field
  rw [hlookup]
  exact congrArg (within (.field name)) hread

theorem itemsFrom_map {read : Datum → Checked α} {write : α → Datum}
    (h : ∀ a, read (write a) = .ok a) (index : Nat) (as : List α) :
    itemsFrom read index (as.map write) = .ok as := by
  induction as generalizing index with
  | nil => rfl
  | cons a as ih =>
    rw [List.map_cons, itemsFrom, h, ih]
    rfl

end Checked

section Readers
variable {r : Checked.Readers}

/-- Whatever the readers do with other values, they read a directive from what is written for it. -/
theorem Directive.readWith_written (h : r.Sound) (d : Directive) :
    Directive.readWith r d.written = .ok d := by
  have hkind : Kind.read (.text d.kind.name) = .ok d.kind := by rw [Kind.read, Kind.ofName?_name]
  rw [Directive.readWith, Checked.field_of_lookup rfl hkind,
    Checked.field_of_lookup rfl (h.optionalText d.source),
    Checked.field_of_lookup rfl (h.optionalText d.target),
    Checked.field_of_lookup rfl (h.optionalText d.value),
    Checked.field_of_lookup rfl (h.truth d.required)]
  rfl

namespace Plan

/-- What is written for a plan, field by field. -/
def written (p : Plan) : List (String × Datum) :=
  [("directives", .list (p.directives.map fun d => .object d.written)),
    ("exec_path", .text p.program), ("exec_target", .text p.target),
    ("arguments", Datum.texts p.arguments)]

/-- Every plan is accepted. -/
theorem readWith_written (h : r.Sound) (p : Plan) : Plan.readWith r p.written = .ok p := by
  have hdirectives : Checked.items (Checked.object (Directive.readWith r))
      (.list (p.directives.map fun d => .object d.written)) = .ok p.directives :=
    Checked.itemsFrom_map (Directive.readWith_written h) 0 p.directives
  have harguments : Checked.items r.text (Datum.texts p.arguments) = .ok p.arguments :=
    Checked.itemsFrom_map h.text 0 p.arguments
  rw [Plan.readWith, Checked.field_of_lookup rfl hdirectives,
    Checked.field_of_lookup rfl (h.text p.program), Checked.field_of_lookup rfl (h.text p.target),
    Checked.field_of_lookup rfl harguments]
  rfl

end Plan
end Readers

namespace Plan

/-- The plan with a text in the place of everything that is missing. -/
def filled (t : String) (p : Plan) : Plan :=
  { p with directives := p.directives.map (Directive.filled t) }

theorem command_filled_iff {p : Plan} {t : String} :
    (p.filled t).command = p.command ↔
      ∀ d ∈ p.directives, Bubblewrap.words (d.filled t) = Bubblewrap.words d := by
  rw [← Bubblewrap.wordsAll_filled_iff]
  simp [command, filled]

/-- The plan of an invocation is complete. -/
theorem isComplete_of_build {argv : List String} {s : Settings} {host : Host} {p : Plan}
    {notices : List Notice} (h : Plan.build argv s host = .ok (p, notices)) :
    ∀ d ∈ p.directives, d.IsComplete := by
  cases hparse : Invocation.parse argv with
  | error e =>
    rw [Plan.build, hparse] at h
    cases h
  | ok i =>
    obtain rfl : (ofInvocation i s host).1 = p :=
      congrArg Prod.fst (Except.ok.inj ((build_eq_ok hparse s host).symm.trans h))
    obtain ⟨front, hcompiled, hfront⟩ :=
      (Access.ofSettings s).exists_compile_eq_append host (i.program s.programDir)
    have hdirectives : (ofInvocation i s host).1.directives = front ++ [.terminator] := hcompiled
    rw [hdirectives]
    exact List.forall_mem_append.mpr ⟨fun d hd => (hfront d hd).1.isComplete,
      List.forall_mem_singleton.mpr Directive.Formed.terminator.isComplete⟩

theorem isSome_of_mem_command_filled (p : Plan) (t : String) {w : Bubblewrap.Word}
    (hw : w ∈ (p.filled t).command) : w.isSome = true := by
  rw [command, List.mem_append, List.mem_cons, List.mem_cons] at hw
  rcases hw with (rfl | hw) | rfl | hw
  · rfl
  · obtain ⟨e, he, hw⟩ := List.mem_flatMap.mp hw
    obtain ⟨d, -, rfl⟩ := List.mem_map.mp he
    exact Bubblewrap.isSome_of_mem_words_filled t hw
  · rfl
  · obtain ⟨a, -, rfl⟩ := List.mem_map.mp hw
    rfl

/-- A plan from outside is accepted whatever is missing in its directives. Its command line has no gap
and shows nothing of what is missing, so that it would be the same with any text in its place, exactly
if every directive has what its operation takes. The plans of invocations are of this kind. -/
theorem command_whole_iff (p : Plan) :
    (∃ fields, Plan.read fields = .ok p) ∧
    (((∀ w ∈ p.command, w.isSome = true) ∧ ∀ t, (p.filled t).command = p.command) ↔
      ∀ d ∈ p.directives, d.IsComplete) ∧
    ∀ (argv : List String) (s : Settings) (host : Host) (notices : List Notice),
      Plan.build argv s host = .ok (p, notices) → ∀ d ∈ p.directives, d.IsComplete := by
  refine ⟨⟨p.written, readWith_written Checked.sound_library p⟩, ⟨?_, ?_⟩,
    fun _ _ _ _ => isComplete_of_build⟩
  · rintro ⟨-, hfilled⟩ d hd
    exact Bubblewrap.words_filled_iff.mp fun t => command_filled_iff.mp (hfilled t) d hd
  · intro hcomplete
    have hfilled (t : String) : (p.filled t).command = p.command :=
      command_filled_iff.mpr fun d hd => Bubblewrap.words_filled (hcomplete d hd) t
    exact ⟨fun w hw => isSome_of_mem_command_filled p "" (hfilled "" ▸ hw), hfilled⟩

/-- Paths that differ, parts that the operation does not take, and the name of a namespace that is the
text of nothing. -/
theorem command_whole_iff_spare :
    let p : Plan :=
      { directives :=
          [⟨.bindWritable, some "/a", some "", none, false⟩,
            ⟨.unshare, none, some "/b", some "None", true⟩, ⟨.newSession, none, none, none, false⟩]
        program := "/usr/bin/true", target := "--", arguments := ["--bind-try"] }
    let i : Invocation := ⟨.command, "true", ["None"]⟩
    ((∀ w ∈ p.command, w.isSome = true) ∧ ∀ t, (p.filled t).command = p.command) ∧
      Plan.build ["-c", "true", "None"] {} (fun _ => false) =
        .ok (ofInvocation i {} fun _ => false) ∧
      ∀ d ∈ (ofInvocation i {} fun _ => false).1.directives, d.IsComplete := by
  intro p i
  have hbuild : Plan.build ["-c", "true", "None"] {} (fun _ => false) =
      .ok (ofInvocation i {} fun _ => false) := build_eq_ok rfl {} _
  exact ⟨(command_whole_iff p).2.1.mpr (by decide), hbuild,
    (command_whole_iff _).2.2 _ _ _ _ hbuild⟩

/-- A bind without its paths and a namespace without its name are accepted. The one leaves two gaps
in the command line, and the other shows the text of nothing. -/
theorem command_whole_refuted :
    let p : Plan :=
      { directives := [{ kind := .bindWritable }, { kind := .unshare }]
        program := "/usr/bin/true", target := "true", arguments := [] }
    Plan.read
        [("directives", .list
          [.object [("type", .text "bind_rw")], .object [("type", .text "unshare_flag")]]),
          ("exec_path", .text "/usr/bin/true"), ("exec_target", .text "true")] = .ok p ∧
      p.command =
        [some "/usr/bin/true", some "--bind-try", none, none, some "--unshare-None", some "true"] ∧
      ¬ ((∀ w ∈ p.command, w.isSome = true) ∧ ∀ t, (p.filled t).command = p.command) := by
  intro p
  exact ⟨rfl, rfl, fun h => absurd h.1 (by decide)⟩

end Plan
end Cloister
