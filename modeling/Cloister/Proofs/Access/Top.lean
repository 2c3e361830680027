import Cloister.Proofs.Access.Absence
import Cloister.Proofs.Access.Extent

/-! # What lies on top

What is seen at a path is what was put there last. So a property of one directive over the path, and
of all that later steps put over it, is a property of what is seen.

* `Step.Lays`: all that a step puts over a path has a property.
* `Access.exists_seenAt_compile`: what is seen in a compiled list after a step that puts something
  there.
-/

namespace Cloister
set_option autoImplicit false

/-- All that a step puts at a path, or at a directory above it, has a property. -/
def Step.Lays (host : Host) (place : String) (P : Directive → Prop) (s : Step) : Prop :=
  ∀ d ∈ s.directives host, d.MountsOver place → P d

variable {a : Access} {host : Host} {path place : String} {P : Directive → Prop}

namespace Step

theorem Spares.lays {s : Step} (h : s.Spares place) (hr : s.Regular a) : s.Lays host place P :=
  fun _ hd hover => absurd hover (h.not_mountsOver hr hd)

theorem lays_emit {d : Directive} (h : P d) : (emit d).Lays host place P := forall_emit fun _ => h

theorem lays_clear {dir : String} (h : P (.clear (some dir))) : (clear dir).Lays host place P :=
  forall_clear fun _ => h

theorem lays_grant {d : Directive} (h : P d) : (grant d).Lays host place P :=
  forall_grant fun _ => h

theorem lays_refuse (base name : String) : (refuse base name).Lays host place P :=
  forall_refuse base name

end Step

namespace Access

theorem lays_of_not_covers (a : Access) {q : String} (h : q ≠ "" → ¬ Path.Covers q place) :
    (Step.read q).Lays host place P :=
  (Step.spares_of_target (Step.target?_read q) h).lays (a := a) (regular_read q)

theorem seenAt_closing : seenAt a.closing place = none := seenAt_locks _

/-- What holds of the directive of one step, and of all that later steps and the program put over
the path, holds of what is seen there. -/
theorem exists_seenAt_compile {front back : List Step} {s : Step} {x : Directive}
    (hsteps : a.steps = front ++ s :: back) (hs : s.directives host = [x])
    (hx : x.MountsOver place) (hP : P x)
    (hback : ∀ t ∈ back ++ [Step.read path], t.Lays host place P) :
    ∃ d, seenAt (a.compile host path).directives place = some d ∧ P d := by
  have hlist : (a.stepsWith path).flatMap (Step.directives host) =
      front.flatMap (Step.directives host) ++
        x :: (back ++ [Step.read path]).flatMap (Step.directives host) := by
    rw [stepsWith, hsteps, List.append_assoc, List.flatMap_append, List.cons_append,
      List.flatMap_cons, hs, List.singleton_append]
  rw [directives_compile_stepsWith, seenAt_append, seenAt_closing, Option.none_or, hlist]
  refine exists_seenAt hx hP fun d hd hover => ?_
  obtain ⟨t, ht, hd⟩ := List.mem_flatMap.mp hd
  exact hback t ht d hd hover

end Access
end Cloister
