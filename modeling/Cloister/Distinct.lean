/-! # Lists without repetitions

A `Distinct α` lists each of its members once, in the order in which they were first added.

* `Distinct.insert`, `Distinct.insertAll`, `Distinct.ofList`: adding members.
* `Distinct.erase`: removing one.
* `Distinct.sameMembers`: equality up to order.
-/

namespace Cloister
set_option autoImplicit false

/-- Members without repetition, in the order in which they were first added. -/
structure Distinct (α : Type) where
  toList : List α
  nodup : toList.Nodup

namespace Distinct

variable {α : Type}

instance : Membership α (Distinct α) where
  mem s a := a ∈ s.toList

theorem mem_def {s : Distinct α} {a : α} : a ∈ s ↔ a ∈ s.toList := Iff.rfl

@[ext] theorem ext {s t : Distinct α} (h : s.toList = t.toList) : s = t := by
  cases s; cases t; cases h; rfl

def empty : Distinct α := ⟨[], List.nodup_nil⟩

instance : Inhabited (Distinct α) := ⟨empty⟩

@[simp] theorem toList_empty : (empty : Distinct α).toList = [] := rfl

@[simp] theorem notMem_empty (a : α) : a ∉ (empty : Distinct α) := List.not_mem_nil

def size (s : Distinct α) : Nat := s.toList.length

variable [DecidableEq α]

instance (a : α) (s : Distinct α) : Decidable (a ∈ s) :=
  inferInstanceAs (Decidable (a ∈ s.toList))

/-- Adds a member at the end, unless it is there already. -/
def insert (s : Distinct α) (a : α) : Distinct α :=
  if h : a ∈ s.toList then s
  else ⟨s.toList ++ [a], by
    rw [List.nodup_append]
    refine ⟨s.nodup, List.pairwise_singleton _ _, ?_⟩
    intro x hx y hy hxy
    rw [List.mem_singleton] at hy
    exact h (hy ▸ hxy ▸ hx)⟩

def insertAll (s : Distinct α) (as : List α) : Distinct α := as.foldl insert s

/-- The members of a list, in order of first occurrence. -/
def ofList (as : List α) : Distinct α := empty.insertAll as

def erase (s : Distinct α) (a : α) : Distinct α :=
  ⟨s.toList.filter fun b => decide (b ≠ a), s.nodup.filter _⟩

/-- Whether two collections have the same members, whatever their order. -/
def sameMembers (s t : Distinct α) : Bool :=
  s.toList.all (fun a => decide (a ∈ t)) && t.toList.all (fun a => decide (a ∈ s))

theorem toList_insert (s : Distinct α) (a : α) :
    (s.insert a).toList = if a ∈ s then s.toList else s.toList ++ [a] := by
  unfold insert
  split <;> simp_all [mem_def]

theorem toList_erase (s : Distinct α) (a : α) :
    (s.erase a).toList = s.toList.filter fun b => decide (b ≠ a) := rfl

@[simp] theorem mem_insert {s : Distinct α} {a b : α} : b ∈ s.insert a ↔ b = a ∨ b ∈ s := by
  rw [mem_def, toList_insert]
  split
  · rename_i h
    constructor
    · exact Or.inr
    · rintro (rfl | h')
      · exact h
      · exact h'
  · simp [mem_def, or_comm]

@[simp] theorem mem_insertAll {s : Distinct α} {as : List α} {b : α} :
    b ∈ s.insertAll as ↔ b ∈ as ∨ b ∈ s := by
  induction as generalizing s with
  | nil => simp [insertAll]
  | cons a as ih =>
    have := @ih (s.insert a)
    simp only [insertAll, List.foldl_cons] at this ⊢
    rw [this, mem_insert, List.mem_cons]
    constructor
    · rintro (h | h | h) <;> simp [h]
    · rintro ((h | h) | h) <;> simp [h]

@[simp] theorem mem_ofList {as : List α} {b : α} : b ∈ ofList as ↔ b ∈ as := by
  simp [ofList]

@[simp] theorem mem_erase {s : Distinct α} {a b : α} : b ∈ s.erase a ↔ b ∈ s ∧ b ≠ a := by
  simp [mem_def, erase]

theorem sameMembers_iff {s t : Distinct α} : s.sameMembers t = true ↔ ∀ a, a ∈ s ↔ a ∈ t := by
  simp only [sameMembers, Bool.and_eq_true, List.all_eq_true, decide_eq_true_eq]
  constructor
  · rintro ⟨h₁, h₂⟩ a
    exact ⟨h₁ a, h₂ a⟩
  · intro h
    exact ⟨fun a => (h a).1, fun a => (h a).2⟩

end Distinct
end Cloister
