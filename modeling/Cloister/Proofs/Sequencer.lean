import Cloister.Access.Program
import Cloister.Proofs.Distinct
import Cloister.Sequencer

/-! # Runs of a sequencer

A sequencer takes additions until its list is finished for the first time. The list is settled by the
additions alone, and afterwards nothing is taken any more.

* `Sequencer.after`, `Sequencer.answers`: a sequencer after some operations, and its answers to them.
* `Sequencer.Addition`: the operations of an open sequencer whose places are paths.
* `Sequencer.opened`: an open sequencer, by its content and the paths to lock.
* `Sequencer.perform_addition`, `Sequencer.after_additions`: one addition, and several.
* `Sequencer.finished_after`: a finished sequencer stays finished.
* `Sequencer.answers_start`: what a sequencer answers from its start to its end.
* `Access.answer_finish`: a compiled list is the answer of a sequencer that is told what the rules add.
-/

namespace Cloister
set_option autoImplicit false

namespace Sequencer

/-! ## Runs -/

/-- An answer: a list only for a finish. -/
abbrev Answer := Except Refusal (Option (List Directive.Loose))

/-- The sequencer after some operations. -/
def after (s : Sequencer) (os : List Operation) : Sequencer :=
  os.foldl (fun s o => (s.perform o).2) s

/-- The answers to some operations, one after another. -/
def answers (s : Sequencer) : List Operation → List Answer
  | [] => []
  | o :: os => (s.perform o).1 :: (s.perform o).2.answers os

theorem answers_append (s : Sequencer) (os ps : List Operation) :
    s.answers (os ++ ps) = s.answers os ++ (s.after os).answers ps := by
  induction os generalizing s with
  | nil => rfl
  | cons o os ih =>
    rw [List.cons_append, answers, answers, ih]
    rfl

/-! ## Places that are paths -/

theorem agrees_ofText? (p q : Option String) :
    (Datum.ofText? p).agrees (Datum.ofText? q) = true ↔ p = q := by
  cases p <;> cases q <;>
    simp [Datum.ofText?, Datum.agrees, Datum.numbersAgree, Datum.integer?]

theorem path_ofText? (p : Option String) : path (Datum.ofText? p) = .ok p := by
  cases p <;> rfl

theorem isComparable_ofText? (p : Option String) : Places.isComparable (Datum.ofText? p) = true := by
  cases p <;> rfl

theorem paths_ofText? (ps : List (Option String)) : paths (ps.map Datum.ofText?) = .ok ps := by
  induction ps with
  | nil => rfl
  | cons p ps ih =>
    rw [List.map_cons, paths, path_ofText?, ih]
    rfl

namespace Places

/-- Paths to lock; as in a directive, a path may be left open. -/
def ofPaths (ps : Distinct (Option String)) : Places := ⟨ps.toList.map Datum.ofText?⟩

theorem contains_ofPaths {ps : Distinct (Option String)} {p : Option String} :
    (ofPaths ps).contains (Datum.ofText? p) = true ↔ p ∈ ps := by
  simp only [contains, ofPaths, List.any_map, List.any_eq_true, Function.comp_apply,
    agrees_ofText?, Distinct.mem_def, exists_eq_right']

theorem insert_ofPaths (ps : Distinct (Option String)) (p : Option String) :
    (ofPaths ps).insert (Datum.ofText? p) = ofPaths (ps.insert p) := by
  by_cases hp : p ∈ ps
  · rw [insert, if_pos (contains_ofPaths.mpr hp), Distinct.insert_of_mem hp]
  · rw [insert, if_neg (contains_ofPaths.not.mpr hp), ofPaths, ofPaths, Distinct.toList_insert,
      if_neg hp, List.map_append]
    rfl

end Places

/-! ## Additions -/

/-- The operations of an open sequencer, with paths for places. -/
inductive Addition where
  | emit (x : Directive.Loose)
  | clear (path : Option String)
  | lock (path : Option String)

namespace Addition

def operation : Addition → Operation
  | emit x => .emit x
  | clear path => .clear (Datum.ofText? path)
  | lock path => .lock (Datum.ofText? path)

/-- What an addition puts into the content. -/
def content : Addition → List Directive.Loose
  | emit x => [x]
  | clear path => [(Directive.clear path).loose]
  | lock _ => []

/-- What an addition has locked in the end. -/
def locked : Addition → List (Option String)
  | emit _ => []
  | clear path | lock path => [path]

end Addition

/-- An open sequencer with this content and these paths to lock. -/
def opened (content : List Directive.Loose) (locked : Distinct (Option String)) : Sequencer :=
  ⟨content, .ofPaths locked, false⟩

theorem start_eq_opened (lockRoot : Bool) :
    start lockRoot = opened [] (.ofList (if lockRoot then [some Draft.root] else [])) := by
  cases lockRoot <;> rfl

section Open
variable (content : List Directive.Loose) (locked : Distinct (Option String))

theorem lock_opened (p : Option String) :
    (opened content locked).lock (Datum.ofText? p) = .ok (opened content (locked.insert p)) := by
  rw [Sequencer.lock, if_pos (isComparable_ofText? p), opened, Places.insert_ofPaths]
  rfl

theorem clear_opened (p : Option String) :
    (opened content locked).clear (Datum.ofText? p) =
      .ok (opened (content ++ [(Directive.clear p).loose]) (locked.insert p)) := by
  rw [← lock_opened, Sequencer.clear, path_ofText?]
  rfl

/-- An open sequencer takes every addition. -/
theorem perform_addition (a : Addition) :
    (opened content locked).perform a.operation =
      (.ok none, opened (content ++ a.content) (locked.insertAll a.locked)) := by
  cases a with
  | emit x => rfl
  | clear p =>
    rw [Addition.operation, perform, clear_opened]
    rfl
  | lock p =>
    rw [Addition.operation, perform, lock_opened, Addition.content, List.append_nil]
    rfl

theorem after_additions (as : List Addition) :
    (opened content locked).after (as.map Addition.operation) =
      opened (content ++ as.flatMap Addition.content)
        (locked.insertAll (as.flatMap Addition.locked)) := by
  induction as generalizing content locked with
  | nil =>
    rw [List.flatMap_nil, List.append_nil]
    rfl
  | cons a as ih =>
    rw [List.map_cons, after, List.foldl_cons, perform_addition]
    refine (ih _ _).trans ?_
    rw [List.flatMap_cons, List.flatMap_cons, List.append_assoc, Distinct.insertAll_append]

theorem answers_additions (as : List Addition) :
    (opened content locked).answers (as.map Addition.operation) = as.map fun _ => .ok none := by
  induction as generalizing content locked with
  | nil => rfl
  | cons a as ih => rw [List.map_cons, answers, perform_addition, ih, List.map_cons]

/-- The finished list of an open sequencer. -/
theorem perform_finish (program : Option Directive.Loose) :
    ((opened content locked).perform (.finish program)).1 =
      .ok (some (content ++ program.toList ++
        locked.toList.map (fun p => (Directive.lock p).loose) ++ [Directive.terminator.loose])) := by
  have hcomplete : (opened content locked).complete program =
      .ok (content ++ program.toList ++ locked.toList.map (fun p => (Directive.lock p).loose) ++
        [Directive.terminator.loose]) := by
    rw [complete, opened, Places.ofPaths, paths_ofText?]
    rfl
  have hopen : ¬ (opened content locked).finished = true := Bool.false_ne_true
  rw [perform, if_neg hopen, hcomplete]

end Open

theorem after_start (lockRoot : Bool) (as : List Addition) :
    (start lockRoot).after (as.map Addition.operation) =
      opened (as.flatMap Addition.content)
        (.ofList ((if lockRoot then [some Draft.root] else []) ++ as.flatMap Addition.locked)) := by
  rw [start_eq_opened, after_additions, List.nil_append, Distinct.ofList_append]

/-! ## Finished sequencers -/

section Finished
variable {s : Sequencer}

theorem finished_perform_finish (s : Sequencer) (program : Option Directive.Loose) :
    (s.perform (.finish program)).2.finished = true := by
  rw [perform]
  split
  · assumption
  · rfl

theorem emit_of_finished (h : s.finished = true) (x : Directive.Loose) :
    s.emit x = .error .finished := by
  rw [emit, if_pos h]

theorem lock_of_finished (h : s.finished = true) {t : Sequencer} {d : Datum}
    (ht : s.lock d = .ok t) : t.finished = true := by
  rw [lock] at ht
  split at ht <;> cases ht
  exact h

/-- A finished sequencer takes no directory to clear, whatever else may be wrong with it. -/
theorem clear_of_finished (h : s.finished = true) (d : Datum) : ∃ e, s.clear d = .error e := by
  rw [clear]
  split
  · exact ⟨_, rfl⟩
  · rw [emit_of_finished h]
    exact ⟨_, rfl⟩

theorem finished_perform (h : s.finished = true) (o : Operation) :
    (s.perform o).2.finished = true := by
  cases o with
  | emit x =>
    rw [perform, emit_of_finished h]
    exact h
  | clear d =>
    obtain ⟨e, he⟩ := clear_of_finished h d
    rw [perform, he]
    exact h
  | lock d =>
    rw [perform]
    cases hlock : s.lock d with
    | ok t => exact lock_of_finished h hlock
    | error e => exact h
  | finish program => exact finished_perform_finish s program

/-- A finished sequencer stays finished. -/
theorem finished_after (h : s.finished = true) (os : List Operation) :
    (s.after os).finished = true := by
  induction os generalizing s with
  | nil => exact h
  | cons o os ih => exact ih (finished_perform h o)

theorem perform_emit_of_finished (h : s.finished = true) (x : Directive.Loose) :
    s.perform (.emit x) = (.error .finished, s) := by
  rw [perform, emit_of_finished h]
  rfl

theorem perform_clear_of_finished (h : s.finished = true) (p : Option String) :
    s.perform (.clear (Datum.ofText? p)) = (.error .finished, s) := by
  have hclear : s.clear (Datum.ofText? p) = .error .finished := by
    simp only [clear, path_ofText?, emit_of_finished h]
  rw [perform, hclear]
  rfl

theorem perform_finish_of_finished (h : s.finished = true) (program : Option Directive.Loose) :
    s.perform (.finish program) = (.error .finished, s) := by
  rw [perform, if_pos h]

end Finished

/-- Every addition to an open sequencer succeeds. Its finished list has all that was added, in order,
then the program, then one lock for each path that was cleared or locked, the first ones first, and
the end. A finished sequencer refuses directives, directories to clear and another finish, and none
of them changes it, whatever was asked of it in the meantime. -/
theorem answers_start (lockRoot : Bool) (as : List Addition) (program : Option Directive.Loose)
    (later : List Operation) :
    let last := (start lockRoot).after (as.map Addition.operation)
    let locked := ((if lockRoot then [some "/"] else []) ++ as.flatMap Addition.locked).eraseDups
    let closed := (last.perform (.finish program)).2.after later
    (start lockRoot).answers (as.map Addition.operation ++ [.finish program]) =
        as.map (fun _ => .ok none) ++
          [.ok (some (as.flatMap Addition.content ++ program.toList ++
            locked.map (fun p => (Directive.lock p).loose) ++ [Directive.terminator.loose]))] ∧
      last.places.toList = locked.map Datum.ofText? ∧
      (∀ x, closed.perform (.emit x) = (.error .finished, closed)) ∧
      (∀ p, closed.perform (.clear (Datum.ofText? p)) = (.error .finished, closed)) ∧
      ∀ p, closed.perform (.finish p) = (.error .finished, closed) := by
  intro last locked closed
  have hlocked : (Distinct.ofList ((if lockRoot then [some Draft.root] else []) ++
      as.flatMap Addition.locked)).toList = locked := Distinct.toList_ofList _
  have hlast : last = opened (as.flatMap Addition.content)
      (.ofList ((if lockRoot then [some Draft.root] else []) ++ as.flatMap Addition.locked)) :=
    after_start lockRoot as
  have hclosed : closed.finished = true :=
    finished_after (finished_perform_finish last program) later
  refine ⟨?_, ?_, fun x => perform_emit_of_finished hclosed x,
    fun p => perform_clear_of_finished hclosed p, fun p => perform_finish_of_finished hclosed p⟩
  · have hadditions : (start lockRoot).answers (as.map Addition.operation) =
        as.map fun _ => .ok none := by
      rw [start_eq_opened, answers_additions]
    rw [answers_append, hadditions, after_start, answers, answers, perform_finish, hlocked]
  · rw [hlast, ← hlocked]
    rfl

end Sequencer

/-! ## Compiled lists -/

/-- What a step adds on a host. -/
def Step.additions (host : Host) : Step → List Sequencer.Addition
  | .emit d => [.emit d.loose]
  | .clear path => [.clear (some path)]
  | .grant d => if d.admitted host then [.emit d.loose] else []
  | .refuse _ _ => []

theorem Step.content_additions (host : Host) (s : Step) :
    (s.additions host).flatMap Sequencer.Addition.content =
      (s.directives host).map Directive.loose := by
  cases s with
  | grant d =>
    rw [additions, directives]
    split <;> rfl
  | emit | clear | refuse => rfl

theorem Step.locked_additions (host : Host) (s : Step) :
    (s.additions host).flatMap Sequencer.Addition.locked = s.locks := by
  cases s with
  | grant d =>
    rw [additions]
    split <;> rfl
  | emit | clear | refuse => rfl

/-- A compiled list is the answer of a sequencer that locks the root and is told what the rules
add. -/
theorem Access.answer_finish (a : Access) (host : Host) (path : String) :
    (((Sequencer.start true).after ((a.steps.flatMap (Step.additions host)).map
        Sequencer.Addition.operation)).perform
      (.finish ((program host path).map Directive.loose))).1 =
      .ok (some ((a.compile host path).directives.map Directive.loose)) := by
  have hcontent : (a.steps.flatMap (Step.additions host)).flatMap Sequencer.Addition.content =
      (a.draft host).content.map Directive.loose := by
    rw [content_draft, List.flatMap_assoc, List.map_flatMap]
    exact List.flatMap_congr fun s _ => s.content_additions host
  have hlocks : (a.steps.flatMap (Step.additions host)).flatMap Sequencer.Addition.locked =
      a.steps.flatMap Step.locks := by
    rw [List.flatMap_assoc]
    exact List.flatMap_congr fun s _ => s.locked_additions host
  have hlocked : (a.draft host).locked =
      .ofList ((if true then [some Draft.root] else []) ++ a.steps.flatMap Step.locks) := by
    rw [draft, Draft.locked_foldl_carryOut, Distinct.ofList_append]
    rfl
  have hprogram : ((program host path).map Directive.loose).toList =
      (program host path).toList.map Directive.loose := by
    cases program host path <;> rfl
  rw [Sequencer.after_start, Sequencer.perform_finish, hcontent, hlocks, ← hlocked, hprogram, compile,
    Draft.finish]
  simp only [List.map_append, List.map_map, List.map_cons, List.map_nil, Function.comp_def]

end Cloister
