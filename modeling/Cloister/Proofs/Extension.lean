import Mathlib.Data.List.Basic

/-! # Lists with further members

* `Extends P xs ys`: `ys` is `xs` with further members put in, which all satisfy `P`, and with
  nothing else moved.
* `Extends.append`, `Extends.flatMap`: what is made of both lists extends in the same way.
* `Extends.filterMap_eq`: what passes over the further members is the same for both lists.
-/

namespace Cloister
set_option autoImplicit false

/-- A list with further members put in, which all satisfy `P`; all others keep their order. -/
inductive Extends {α : Type} (P : α → Prop) : List α → List α → Prop
  | nil : Extends P [] []
  | keep (a : α) {xs ys : List α} : Extends P xs ys → Extends P (a :: xs) (a :: ys)
  | add {a : α} {xs ys : List α} : P a → Extends P xs ys → Extends P xs (a :: ys)

namespace Extends

variable {α β : Type} {P : α → Prop} {Q : β → Prop} {xs ys xs' ys' : List α}

theorem refl (xs : List α) : Extends P xs xs := by
  induction xs with
  | nil => exact .nil
  | cons a xs ih => exact .keep a ih

theorem of_forall (h : ∀ a ∈ ys, P a) : Extends P [] ys := by
  induction ys with
  | nil => exact .nil
  | cons a ys ih =>
    have htail : Extends P [] ys := ih fun b hb => h b (List.mem_cons_of_mem _ hb)
    exact .add (h a (List.mem_cons_self ..)) htail

theorem append (h : Extends P xs ys) (h' : Extends P xs' ys') :
    Extends P (xs ++ xs') (ys ++ ys') := by
  induction h with
  | nil => exact h'
  | keep a _ ih => exact .keep a ih
  | add ha _ ih => exact .add ha ih

theorem flatMap {f : α → List β} (hf : ∀ a, P a → ∀ b ∈ f a, Q b) (h : Extends P xs ys) :
    Extends Q (xs.flatMap f) (ys.flatMap f) := by
  induction h with
  | nil => exact .nil
  | keep a _ ih => exact (refl (f a)).append ih
  | add ha _ ih => exact (of_forall (hf _ ha)).append ih

theorem filterMap_eq {f : α → Option β} (hf : ∀ a, P a → f a = none) (h : Extends P xs ys) :
    ys.filterMap f = xs.filterMap f := by
  induction h with
  | nil => rfl
  | keep a _ ih => rw [List.filterMap_cons, List.filterMap_cons, ih]
  | add ha _ ih => rw [List.filterMap_cons_none (hf _ ha), ih]

end Extends
end Cloister
