/-! # Environments

* `Environment`: variables and their values, in the order in which they were first set.
* `Environment.get?`, `Environment.set`, `Environment.unset`: reading and changing one variable.
-/

namespace Cloister
set_option autoImplicit false

/-- Variables and their values. -/
structure Environment where
  bindings : List (String × String) := []
  deriving DecidableEq, Repr

namespace Environment

/-- The environment without variables. -/
def empty : Environment := ⟨[]⟩

def get? (e : Environment) (name : String) : Option String := e.bindings.lookup name

/-- The bindings with one variable changed in place, or added at the end. -/
def put (name value : String) : List (String × String) → List (String × String)
  | [] => [(name, value)]
  | (n, v) :: rest => if n = name then (n, value) :: rest else (n, v) :: put name value rest

def set (e : Environment) (name value : String) : Environment := ⟨put name value e.bindings⟩

def unset (e : Environment) (name : String) : Environment :=
  ⟨e.bindings.filter fun b => decide (b.1 ≠ name)⟩

/-- The value of a variable, or a default. -/
def getD (e : Environment) (name fallback : String) : String := (e.get? name).getD fallback

@[simp] theorem get?_empty (name : String) : empty.get? name = none := rfl

theorem lookup_cons_of_ne {n m : String} (h : n ≠ m) (v : String) (bs : List (String × String)) :
    List.lookup n ((m, v) :: bs) = List.lookup n bs := by
  have : (n == m) = false := by simpa using h
  rw [List.lookup_cons, this]

theorem lookup_put (name value n : String) (bs : List (String × String)) :
    (put name value bs).lookup n = if n = name then some value else bs.lookup n := by
  induction bs with
  | nil =>
    by_cases h : n = name
    · simp [put, h]
    · rw [put, lookup_cons_of_ne h, if_neg h]
  | cons b bs ih =>
    obtain ⟨m, v⟩ := b
    by_cases hm : m = name
    · subst hm
      rw [put, if_pos rfl]
      by_cases h : n = m
      · simp [h]
      · rw [lookup_cons_of_ne h, lookup_cons_of_ne h, if_neg h]
    · rw [put, if_neg hm]
      by_cases h : n = m
      · subst h
        simp [hm]
      · rw [lookup_cons_of_ne h, lookup_cons_of_ne h, ih]

theorem get?_set (e : Environment) (name value n : String) :
    (e.set name value).get? n = if n = name then some value else e.get? n :=
  lookup_put name value n e.bindings

end Environment
end Cloister
