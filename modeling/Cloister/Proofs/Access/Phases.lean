import Cloister.Proofs.Access.Regular
import Cloister.Proofs.Distinct
import Cloister.Proofs.Path.Cover

/-! # The two phases of a compiled list

Everything that is mounted comes first, then the program, then the locks. No program and no rule
can reach behind the locks, and no directory is locked before all that lies in it is mounted.

* `Access.content`, `Access.locked`: what the rules mount, and what is locked in the end.
* `Access.directives_compile`: a compiled list in terms of both.
* `TwoPhases`: what content and locked directories are to each other.
* `MountsBeforeLocks`: what lies at or beneath a locked directory comes before its lock.
* `compile_two_phases`: every compiled list has the two phases, with the same content and the same
  locks for every program.
-/

namespace Cloister
set_option autoImplicit false

/-! ## What is locked -/

/-- The directory that a step clears and has locked in the end. -/
def Step.cleared? : Step → Option String
  | .clear path => some path
  | _ => none

theorem Step.locks_eq (s : Step) : s.locks = s.cleared?.toList.map some := by
  cases s <;> rfl

theorem Step.cleared?_eq_some_iff {s : Step} {path : String} :
    s.cleared? = some path ↔ s = .clear path := by
  cases s <;> simp [cleared?]

namespace Access

variable (a : Access)

/-- What the rules mount on a host. -/
def content (host : Host) : List Directive := a.steps.flatMap (Step.directives host)

/-- What is locked in the end: the root, and every directory that a step clears, each once. -/
def locked : Distinct String := .ofList (Draft.root :: a.steps.filterMap Step.cleared?)

theorem locked_eq :
    a.locked = (Distinct.empty.insert Draft.root).insertAll (a.steps.filterMap Step.cleared?) := by
  rw [locked, Distinct.ofList_cons]

theorem mem_toList_locked {path : String} :
    path ∈ a.locked.toList ↔ path = Draft.root ∨ .clear path ∈ a.steps := by
  rw [← Distinct.mem_def, locked_eq]
  simp [Step.cleared?_eq_some_iff, or_comm]

theorem head?_toList_locked : a.locked.toList.head? = some Draft.root := by
  obtain ⟨rest, h⟩ := Distinct.prefix_insertAll (Distinct.empty.insert Draft.root)
    (a.steps.filterMap Step.cleared?)
  rw [locked_eq, ← h, Distinct.toList_insert]
  simp

theorem toList_locked_draft (host : Host) :
    (a.draft host).locked.toList = a.locked.toList.map some := by
  have hlocks : a.steps.flatMap Step.locks = (a.steps.filterMap Step.cleared?).map some := by
    rw [List.filterMap_eq_flatMap_toList, List.map_flatMap]
    exact List.flatMap_congr fun s _ => s.locks_eq
  rw [draft, Draft.locked_foldl_carryOut, hlocks, locked_eq]
  refine Distinct.toList_insertAll_map (s := Distinct.empty.insert Draft.root)
    (fun _ _ => Option.some.inj) ?_ _
  rfl

theorem toList_program (host : Host) (path : String) :
    (program host path).toList =
      if path ≠ "" ∧ host path = true then [.bindReadOnly path] else [] := by
  have hp : (Directive.bindReadOnly path).admitted host = (path != "" && host path) := rfl
  rw [program, hp]
  by_cases h : path ≠ "" ∧ host path = true
  · rw [if_pos h, if_pos (by simpa using h)]
    rfl
  · rw [if_neg h, if_neg (by simpa using h)]
    rfl

/-- The program is shown as any other path is. -/
theorem directives_read (host : Host) (path : String) :
    (Step.read path).directives host = (program host path).toList := by
  rw [program, Step.read, Step.directives]
  split <;> rfl

/-- A compiled list: content, program, locks, end. -/
theorem directives_compile (host : Host) (path : String) :
    (a.compile host path).directives =
      a.content host ++ (program host path).toList ++
        a.locked.toList.map (fun p => .lock (some p)) ++ [.terminator] := by
  rw [compile, Draft.finish, content_draft, toList_locked_draft, List.map_map]
  rfl

end Access

/-! ## Content and locks -/

/-- What the content of a compiled list and the directories that are locked in the end are to each
other. -/
structure TwoPhases (a : Access) (content : List Directive) (locked : List String) : Prop where
  /-- Neither locks nor the end stand in the content. -/
  content_open : ∀ d ∈ content, d.kind ≠ .lock ∧ d.kind ≠ .terminator
  /-- Each directory is locked once. -/
  locked_nodup : locked.Nodup
  /-- The root is locked first. -/
  locked_head : locked.head? = some "/"
  /-- All other directories that are locked were cleared. -/
  cleared_of_locked : ∀ p ∈ locked, p ≠ "/" → Directive.clear (some p) ∈ content
  /-- Every directory that is cleared is locked. Where changes are thrown away, that of temporary
  files and the home directory may stay unlocked. -/
  locked_of_cleared : ∀ d ∈ content, d.kind = .clear → ∃ p, d = .clear (some p) ∧
    (p ∈ locked ∨ a.context.ephemeral = true ∧ (p = "/tmp" ∨ p = a.settings.home))

/-- All that lies at or beneath a locked directory comes before its lock. -/
def MountsBeforeLocks (ds : List Directive) : Prop :=
  ∀ (i j : Nat) (d : Directive) (dir target : String),
    ds[i]? = some d → d.kind ≠ .lock → d.target = some target → Path.Covers dir target →
      ds[j]? = some (.lock (some dir)) → i < j

/-- Where no lock stands before the locks, everything that has a target comes before them. -/
theorem mountsBeforeLocks_of_open {front : List Directive} (hf : ∀ d ∈ front, d.kind ≠ .lock)
    (locked : List String) :
    MountsBeforeLocks
      (front ++ locked.map (fun p => Directive.lock (some p)) ++ [.terminator]) := by
  intro i j d dir target hi hk ht _ hj
  rw [List.append_assoc] at hi hj
  have hj' : front.length ≤ j := by
    by_contra h
    rw [List.getElem?_append_left (by omega)] at hj
    exact hf _ (List.mem_of_getElem? hj) rfl
  by_contra h
  rw [List.getElem?_append_right (by omega)] at hi
  rcases List.mem_append.mp (List.mem_of_getElem? hi) with hd | hd
  · obtain ⟨p, -, rfl⟩ := List.mem_map.mp hd
    exact hk rfl
  · rw [List.mem_singleton.mp hd] at ht
    cases ht

theorem twoPhases (a : Access) (host : Host) :
    TwoPhases a (a.content host) a.locked.toList where
  content_open := by
    intro d hd
    obtain ⟨s, hs, hd⟩ := List.mem_flatMap.mp hd
    exact (Access.regular_of_mem_steps hs).kind_open hd
  locked_nodup := a.locked.nodup
  locked_head := a.head?_toList_locked
  cleared_of_locked := by
    intro p hp hne
    have hs : Step.clear p ∈ a.steps := (a.mem_toList_locked.mp hp).resolve_left hne
    exact List.mem_flatMap.mpr ⟨_, hs, List.mem_singleton_self _⟩
  locked_of_cleared := by
    intro d hd hk
    obtain ⟨s, hs, hd⟩ := List.mem_flatMap.mp hd
    rcases (Access.regular_of_mem_steps hs).of_clear hd hk with ⟨p, rfl, rfl⟩ | ⟨he, rfl | rfl⟩
    · exact ⟨p, rfl, .inl (a.mem_toList_locked.mpr (.inr hs))⟩
    · exact ⟨_, rfl, .inr ⟨he, .inl rfl⟩⟩
    · exact ⟨_, rfl, .inr ⟨he, .inr rfl⟩⟩

/-- Every compiled list is content, then the program if it is on the host, then locks, then the
end. Content and locks are the same for every program. -/
theorem compile_two_phases (s : Settings) (host : Host) :
    ∃ (content : List Directive) (locked : List String),
      TwoPhases (.ofSettings s) content locked ∧
      ∀ path : String,
        (compile s host path).directives =
            content ++ (if path ≠ "" ∧ host path = true then [.bindReadOnly path] else []) ++
              locked.map (fun p => .lock (some p)) ++ [.terminator] ∧
          MountsBeforeLocks (compile s host path).directives := by
  refine ⟨_, _, twoPhases (.ofSettings s) host, fun path => ?_⟩
  have hd : (compile s host path).directives = _ :=
    (Access.ofSettings s).directives_compile host path
  rw [hd, Access.toList_program]
  refine ⟨rfl, mountsBeforeLocks_of_open ?_ _⟩
  intro d hd
  rcases List.mem_append.mp hd with hd | hd
  · exact ((twoPhases (.ofSettings s) host).content_open d hd).1
  · split at hd
    · rw [List.mem_singleton.mp hd]
      nofun
    · cases hd

end Cloister
