import Cloister.Distinct
import Mathlib.Data.List.Basic
import Mathlib.Data.List.Induction

/-! # Members in order

* `Distinct.prefix_insertAll`: members that are there keep their places when others are added.
* `Distinct.toList_insertAll_map`: an injective renaming of all members changes no place.
* `Distinct.toList_ofList`: each member stands where it occurs first.
* `Distinct.erase_insertAll`: without one member, the others keep their places.
* `Distinct.ofList_toList`: distinct members can be listed again.
-/

namespace Cloister.Distinct
set_option autoImplicit false

variable {α β : Type} [DecidableEq α] [DecidableEq β]

theorem ofList_cons (a : α) (as : List α) : ofList (a :: as) = (empty.insert a).insertAll as := rfl

theorem insertAll_append (s : Distinct α) (as bs : List α) :
    s.insertAll (as ++ bs) = (s.insertAll as).insertAll bs :=
  List.foldl_append

theorem ofList_append (as bs : List α) : ofList (as ++ bs) = (ofList as).insertAll bs :=
  insertAll_append _ as bs

theorem insert_of_mem {s : Distinct α} {a : α} (h : a ∈ s) : s.insert a = s := by
  ext1
  rw [toList_insert, if_pos h]

theorem prefix_insert (s : Distinct α) (a : α) : s.toList <+: (s.insert a).toList := by
  rw [toList_insert]
  split
  · exact List.prefix_rfl
  · exact List.prefix_append _ _

theorem prefix_insertAll (s : Distinct α) (as : List α) :
    s.toList <+: (s.insertAll as).toList := by
  induction as generalizing s with
  | nil => exact List.prefix_rfl
  | cons a as ih => exact (prefix_insert s a).trans (ih (s.insert a))

theorem toList_insertAll_map {f : α → β} (hf : Function.Injective f) {s : Distinct α}
    {t : Distinct β} (h : t.toList = s.toList.map f) (as : List α) :
    (t.insertAll (as.map f)).toList = (s.insertAll as).toList.map f := by
  induction as generalizing s t with
  | nil => exact h
  | cons a as ih =>
    refine ih ?_
    have hmem : f a ∈ t ↔ a ∈ s := by
      rw [mem_def, h, List.mem_map_of_injective hf, mem_def]
    simp only [toList_insert, hmem, h]
    split <;> simp

/-- Each member stands where it occurs first. -/
theorem toList_ofList [BEq α] [LawfulBEq α] (as : List α) :
    (ofList as).toList = as.eraseDups := by
  induction as using List.reverseRecOn with
  | nil => rfl
  | append_singleton as a ih =>
    have hinsert : ofList (as ++ [a]) = (ofList as).insert a := ofList_append as [a]
    rw [hinsert, toList_insert, ih, List.eraseDups_append]
    by_cases ha : a ∈ as
    · rw [if_pos (mem_ofList.mpr ha)]
      simp [List.removeAll, ha]
    · rw [if_neg (mem_ofList.not.mpr ha)]
      simp [List.removeAll, ha, List.eraseDups_cons]

theorem toList_ofList_of_nodup {as : List α} (h : as.Nodup) : (ofList as).toList = as := by
  induction as using List.reverseRecOn with
  | nil => rfl
  | append_singleton as a ih =>
    have hinsert : ofList (as ++ [a]) = (ofList as).insert a := ofList_append as [a]
    have ha : a ∉ as := fun hm =>
      (List.nodup_append.mp h).2.2 a hm a (List.mem_singleton_self a) rfl
    rw [hinsert, toList_insert, if_neg (mem_ofList.not.mpr ha),
      ih (h.sublist (List.sublist_append_left as [a]))]

theorem erase_insert (s : Distinct α) (a b : α) :
    (s.insert b).erase a = if b = a then s.erase a else (s.erase a).insert b := by
  ext1
  by_cases hb : b = a
  · rw [if_pos hb]
    simp only [toList_erase, toList_insert]
    split <;> simp [hb]
  · have hmem : b ∈ s.erase a ↔ b ∈ s := mem_erase.trans (and_iff_left hb)
    simp only [if_neg hb, toList_insert, hmem]
    simp only [toList_erase, toList_insert]
    split <;> simp [hb]

/-- Without one member, the others keep their places. -/
theorem erase_insertAll (s : Distinct α) (a : α) (as : List α) :
    (s.insertAll as).erase a = (s.erase a).insertAll (as.filter fun b => decide (b ≠ a)) := by
  induction as generalizing s with
  | nil => rfl
  | cons b as ih =>
    refine (ih (s.insert b)).trans ?_
    rw [erase_insert]
    by_cases hb : b = a
    · rw [if_pos hb, List.filter_cons_of_neg (by simp [hb])]
    · rw [if_neg hb, List.filter_cons_of_pos (by simp [hb])]
      rfl

/-- Distinct members can be listed again. -/
theorem ofList_toList (s : Distinct α) : ofList s.toList = s := ext (toList_ofList_of_nodup s.nodup)

end Cloister.Distinct
