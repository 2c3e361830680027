import Cloister.Proofs.Path.Component

/-! # Reduced paths

What becomes of an entry beneath a base directory is settled by the components that are left of it
when every `..` has taken back a component before it.

* `Path.reduction`: these components, in terms of the text between slashes.
* `Path.components_eq_reduction`: they are what settling leaves.
* `Path.Leaves`: reduced components that lead out of the base, or nowhere.
* `Path.beneath_eq_placed`: an entry is refused iff its reduction leaves the base, and is placed at
  its reduction otherwise.
* `Path.beneath_eq_beneath_iff`: entries have the same place iff they have the same reduction.
-/

namespace Cloister.Path
set_option autoImplicit false

/-- The components after a `..`. The last one that is no `..` itself is taken back; where there is
none, the `..` stays. -/
def climb (kept : List String) : List String :=
  if ∀ c ∈ kept, c = ".." then kept ++ [".."]
  else (kept.reverse.eraseP (· ≠ "..")).reverse

/-- The components with one more at their end. -/
def extend (kept : List String) (c : String) : List String :=
  if c = ".." then climb kept else kept ++ [c]

/-- The components of a path without the empty ones and `.`, where every `..` takes back the nearest
component before it that is no `..`. -/
def reduction (path : String) : List String :=
  ((Text.pieces slash path).filter fun c => c ≠ "" ∧ c ≠ ".").foldl extend []

/-- Reduced components that lead out of the directory they start from, or to that directory. -/
def Leaves (cs : List String) : Prop := cs = [] ∨ cs.head? = some ".."

instance (cs : List String) : Decidable (Leaves cs) := inferInstanceAs (Decidable (_ ∨ _))

/-- The path of components beneath a base. A slash stands between them, unless the base is empty or
ends in one. -/
def placed (base : String) (cs : List String) : String :=
  base ++ (if base = "" ∨ base.toList.getLast? = some slash then "" else "/") ++ "/".intercalate cs

/-! ## Settling and reducing -/

theorem climb_of_forall {kept : List String} (h : ∀ c ∈ kept, c = "..") :
    climb kept = kept ++ [".."] :=
  if_pos h

theorem climb_concat (kept : List String) {c : String} (hc : c ≠ "..") :
    climb (kept ++ [c]) = kept := by
  have hall : ¬ ∀ d ∈ kept ++ [c], d = ".." := fun h => hc (h c (by simp))
  rw [climb, if_neg hall, List.reverse_append, List.reverse_singleton, List.singleton_append,
    List.eraseP_cons_of_pos (by simpa using hc), List.reverse_reverse]

theorem toList_eq_here {c : String} : c.toList = here ↔ c = "." :=
  @String.toList_inj c "."

theorem toList_eq_above {c : String} : c.toList = above ↔ c = ".." :=
  @String.toList_inj c ".."

section Settle
variable {c k : List Char} (kept cs : List (List Char))

theorem settle_cons_of_skipped (h : c = [] ∨ c = here) : settle kept (c :: cs) = settle kept cs := by
  rw [settle.eq_def]
  exact if_pos h

theorem settle_cons_of_name (h : ¬ (c = [] ∨ c = here)) (ha : c ≠ above) :
    settle kept (c :: cs) = settle (c :: kept) cs := by
  rw [settle.eq_def]
  exact (if_neg h).trans (if_neg ha)

theorem settle_cons_above (hk : k ≠ above) : settle (k :: kept) (above :: cs) = settle kept cs := by
  rw [settle.eq_def]
  exact if_neg hk

end Settle

/-- One further component: what is kept so far is listed last first, with every `..` at the end. -/
theorem settle_cons {kept : List String} (hk : kept.Pairwise fun c d => c = ".." → d = "..")
    {c : String} (hc : c ≠ "" ∧ c ≠ ".") (cs : List (List Char)) :
    ∃ kept' : List String, kept'.Pairwise (fun c d => c = ".." → d = "..") ∧
      kept'.reverse = extend kept.reverse c ∧
      settle (kept.map String.toList) (c.toList :: cs) = settle (kept'.map String.toList) cs := by
  by_cases habove : c = ".."
  · subst habove
    rw [extend, if_pos rfl]
    cases kept with
    | nil => exact ⟨[".."], List.pairwise_singleton _ _, by decide, rfl⟩
    | cons k ks =>
      by_cases hka : k = ".."
      · -- only `..` is kept, so one more is kept
        subst hka
        have hall : ∀ d ∈ ".." :: ks, d = ".." := by
          simpa using (List.pairwise_cons.mp hk).1
        refine ⟨".." :: ".." :: ks, List.pairwise_cons.mpr ⟨fun d hd _ => hall d hd, hk⟩, ?_, rfl⟩
        rw [climb_of_forall fun d hd => hall d (List.mem_reverse.mp hd), ← List.reverse_cons]
      · refine ⟨ks, (List.pairwise_cons.mp hk).2, ?_, ?_⟩
        · rw [List.reverse_cons, climb_concat _ hka]
        · exact settle_cons_above _ _ (toList_eq_above.not.mpr hka)
  · have hname : ¬ (c.toList = [] ∨ c.toList = here) := by
      rw [toList_eq_here, String.toList_eq_nil_iff]
      exact fun h => h.elim hc.1 hc.2
    refine ⟨c :: kept, List.pairwise_cons.mpr ⟨fun _ _ h => absurd h habove, hk⟩, ?_, ?_⟩
    · rw [extend, if_neg habove, List.reverse_cons]
    · exact settle_cons_of_name _ _ hname (toList_eq_above.not.mpr habove)

theorem settle_eq_foldl_extend {kept : List String} (cs : List String)
    (hk : kept.Pairwise fun c d => c = ".." → d = "..") :
    settle (kept.map String.toList) (cs.map String.toList) =
      ((cs.filter fun c => c ≠ "" ∧ c ≠ ".").foldl extend kept.reverse).map String.toList := by
  induction cs generalizing kept with
  | nil => simp [settle]
  | cons c cs ih =>
    by_cases hc : c ≠ "" ∧ c ≠ "."
    · obtain ⟨kept', hk', hextend, hsettle⟩ := settle_cons hk hc (cs.map String.toList)
      rw [List.map_cons, hsettle, ih hk', List.filter_cons_of_pos (by simpa using hc), hextend,
        List.foldl_cons]
    · have hskip : c.toList = [] ∨ c.toList = here := by
        rw [toList_eq_here, String.toList_eq_nil_iff]
        exact Decidable.or_iff_not_not_and_not.mpr hc
      rw [List.map_cons, settle_cons_of_skipped _ _ hskip, ih hk,
        List.filter_cons_of_neg (by simpa using hc)]

/-- Settling leaves the reduction. -/
theorem components_eq_reduction (path : String) :
    components path.toList = (reduction path).map String.toList := by
  have hpieces : Text.cut slash path.toList = (Text.pieces slash path).map String.toList := by
    rw [Text.pieces, List.map_map]
    simp
  rw [components, hpieces, reduction]
  exact @settle_eq_foldl_extend [] _ List.Pairwise.nil

example : ["a/../..", "..foo/./b", "//x//y/", "a/.."].map reduction =
    [[".."], ["..foo", "b"], ["x", "y"], []] := by
  decide +kernel

/-! ## Places -/

theorem glue_components (path : String) :
    Text.glue slash (components path.toList) = ("/".intercalate (reduction path)).toList := by
  rw [String.toList_intercalate, components_eq_reduction]
  exact Text.glue_eq_intercalate _ _

theorem leaves_reduction_iff {path : String} : Leaves (reduction path) ↔
    components path.toList = [] ∨ (components path.toList).head? = some above := by
  rw [Leaves, components_eq_reduction, List.map_eq_nil_iff, List.head?_map]
  cases (reduction path).head? with
  | none => simp
  | some c => simp [toList_eq_above]

theorem join_eq_placed {base : String} {cs : List String}
    (h : isAbsolute ("/".intercalate cs) = false) :
    join base ("/".intercalate cs) = placed base cs := by
  have hrel : ("/".intercalate cs).toList.head? ≠ some slash := by
    simpa [isAbsolute] using h
  rw [← String.toList_inj, toList_join, joinChars, if_neg hrel, placed]
  have hempty : base.toList = [] ↔ base = "" := String.toList_eq_nil_iff
  simp only [hempty]
  split <;> simp [slash]

/-- The components of an entry that has a place, or that has none. -/
theorem inner_reduction {path : String} (h : ¬ Leaves (reduction path)) :
    Inner ("/".intercalate (reduction path)) := by
  rw [leaves_reduction_iff, not_or] at h
  have hinner := inner_components h.1 h.2
  rwa [glue_components, String.ofList_toList] at hinner

/-- An entry has no place iff its reduction leaves the base. Otherwise it is placed there. -/
theorem beneath_eq_placed (base name : String) :
    beneath base name =
      if Leaves (reduction name) then none else some (placed base (reduction name)) := by
  rw [beneath_eq, glue_components, String.ofList_toList]
  simp only [← leaves_reduction_iff]
  split
  · rfl
  · rename_i h
    rw [join_eq_placed (inner_reduction h).isAbsolute_eq_false]

theorem beneath_eq_none_iff (base : String) {name : String} :
    beneath base name = none ↔ Leaves (reduction name) := by
  rw [beneath_eq_placed]
  split <;> simp_all

theorem not_leaves_of_beneath {base name path : String} (h : beneath base name = some path) :
    ¬ Leaves (reduction name) := by
  rw [← beneath_eq_none_iff base, h]
  nofun

/-- Reduced components can be read off the path that is made of them. -/
theorem reduction_eq_of_intercalate_eq {path path' : String} (h : ¬ Leaves (reduction path))
    (h' : ¬ Leaves (reduction path'))
    (he : "/".intercalate (reduction path) = "/".intercalate (reduction path')) :
    reduction path = reduction path' := by
  have hcut (p : String) (hp : ¬ Leaves (reduction p)) :
      Text.cut slash ("/".intercalate (reduction p)).toList = (reduction p).map String.toList := by
    rw [leaves_reduction_iff, not_or] at hp
    rw [← glue_components, ← components_eq_reduction]
    exact Text.cut_glue hp.1 fun c hc => ((settled_components p.toList).proper c hc).2.2
  have hmap : (reduction path).map String.toList = (reduction path').map String.toList := by
    rw [← hcut path h, ← hcut path' h', he]
  exact List.map_injective_iff.mpr (fun _ _ => String.toList_injective) hmap

/-- Entries have the same place, or both have none, iff they have the same reduction, or both lead out
of the base. -/
theorem beneath_eq_beneath_iff (base name name' : String) :
    beneath base name = beneath base name' ↔
      reduction name = reduction name' ∨ Leaves (reduction name) ∧ Leaves (reduction name') := by
  rw [beneath_eq_placed, beneath_eq_placed]
  by_cases h : Leaves (reduction name)
  · by_cases h' : Leaves (reduction name')
    · simp [h, h']
    · have hne : reduction name ≠ reduction name' := fun he => h' (he ▸ h)
      simp [h, h', hne]
  · by_cases h' : Leaves (reduction name')
    · have hne : reduction name ≠ reduction name' := fun he => h (he ▸ h')
      simp [h, h', hne]
    · rw [if_neg h, if_neg h', Option.some.injEq, or_iff_left fun hl => h hl.1]
      refine ⟨fun he => reduction_eq_of_intercalate_eq h h' ?_, fun he => by rw [he]⟩
      rw [placed, placed] at he
      exact String.append_right_inj _ |>.mp he

end Cloister.Path
