import Cloister.Draft
import Cloister.Proofs.Path.Cover

/-! # What is seen at a path

Directives take effect in order, so what a program sees at a path is settled by the last directive
that mounts something there or at a directory above.

* `Directive.MountsOver`: a directive puts something at a path or at a directory above it.
* `seenAt`: the last directive of a list that does.
* `seenAt_eq_some_iff`: it is followed only by directives that do not.
* `exists_seenAt`: a property of one directive and of all later ones is a property of what is seen.
-/

namespace Cloister
set_option autoImplicit false

/-- The target of a directive is a path or a directory above it. -/
def Directive.Covers (d : Directive) (path : String) : Prop :=
  ∃ target ∈ d.target, Path.Covers target path

instance (d : Directive) (path : String) : Decidable (d.Covers path) :=
  inferInstanceAs (Decidable (∃ target ∈ d.target, Path.Covers target path))

/-- A directive puts something at a path or at a directory above it. A lock leaves everything in
its place. -/
def Directive.MountsOver (d : Directive) (path : String) : Prop :=
  d.kind ≠ .lock ∧ d.Covers path

instance (d : Directive) (path : String) : Decidable (d.MountsOver path) :=
  inferInstanceAs (Decidable (_ ∧ _))

theorem Directive.mountsOver_of_covers {d : Directive} {target path : String}
    (hk : (d.kind == .lock) = false) (ht : d.target = some target)
    (hcov : Path.Covers target path) : d.MountsOver path :=
  ⟨by simpa using hk, target, ht, hcov⟩

/-- The last directive that puts something at a path or at a directory above it. -/
def seenAt (ds : List Directive) (path : String) : Option Directive :=
  ds.findRev? fun d => d.MountsOver path

variable {path : String}

theorem seenAt_append (xs ys : List Directive) :
    seenAt (xs ++ ys) path = (seenAt ys path).or (seenAt xs path) := by
  simp [seenAt, List.find?_append]

theorem seenAt_singleton (d : Directive) :
    seenAt [d] path = if d.MountsOver path then some d else none := by
  simp [seenAt, List.find?_cons]
  split <;> simp_all

theorem seenAt_eq_none_iff {ds : List Directive} :
    seenAt ds path = none ↔ ∀ d ∈ ds, ¬ d.MountsOver path := by
  simp [seenAt]

theorem seenAt_eq_some_iff {ds : List Directive} {d : Directive} :
    seenAt ds path = some d ↔
      d.MountsOver path ∧ ∃ before after, ds = before ++ d :: after ∧ seenAt after path = none := by
  constructor
  · intro h
    rw [seenAt, List.findRev?_eq_find?_reverse, List.find?_eq_some_iff_append] at h
    obtain ⟨hd, after, before, hds, hafter⟩ := h
    refine ⟨by simpa using hd, before.reverse, after.reverse, ?_, ?_⟩
    · rw [← List.reverse_reverse ds, hds]
      simp
    · rw [seenAt_eq_none_iff]
      intro x hx
      simpa using hafter x (List.mem_reverse.mp hx)
  · rintro ⟨hd, before, after, rfl, hafter⟩
    rw [List.append_cons, seenAt_append, hafter, Option.none_or, seenAt_append, seenAt_singleton,
      if_pos hd, Option.some_or]

theorem mem_of_seenAt {ds : List Directive} {d : Directive} (h : seenAt ds path = some d) :
    d ∈ ds ∧ d.MountsOver path := by
  obtain ⟨hd, before, after, rfl, -⟩ := seenAt_eq_some_iff.mp h
  exact ⟨List.mem_append_right _ (List.mem_cons_self ..), hd⟩

/-- What holds of one directive over a path, and of all that are put over it later, holds of what is
seen there. -/
theorem exists_seenAt {P : Directive → Prop} {front back : List Directive} {x : Directive}
    (hx : x.MountsOver path) (hP : P x) (hback : ∀ d ∈ back, d.MountsOver path → P d) :
    ∃ d, seenAt (front ++ x :: back) path = some d ∧ P d := by
  rw [List.append_cons, seenAt_append]
  cases h : seenAt back path with
  | some d =>
    obtain ⟨hd, hover⟩ := mem_of_seenAt h
    exact ⟨d, rfl, hback d hd hover⟩
  | none =>
    rw [Option.none_or, seenAt_append, seenAt_singleton, if_pos hx]
    exact ⟨x, rfl, hP⟩

theorem seenAt_locks (locked : List String) :
    seenAt (locked.map (fun p => .lock (some p)) ++ [Directive.terminator]) path = none := by
  rw [seenAt_eq_none_iff]
  intro d hd
  rcases List.mem_append.mp hd with hd | hd
  · obtain ⟨p, -, rfl⟩ := List.mem_map.mp hd
    exact fun h => h.1 rfl
  · rw [List.mem_singleton] at hd
    rintro ⟨-, t, ht, -⟩
    rw [hd] at ht
    cases ht

end Cloister
