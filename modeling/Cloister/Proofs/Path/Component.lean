import Cloister.Path
import Mathlib.Data.List.Basic

/-! # Components of a relative path

* `Path.components`: what is left of a path's components once `.` and `..` are settled.
* `Path.Settled`: no component is empty or `.`, and every `..` stands at the start.
* `Path.Plain`: a component that names something and leads nowhere else.
* `Path.escapes_normal_iff`: a path leads out of its base iff no component is left or the first
  one left is `..`.
* `Path.beneath_eq`: where an entry is placed, in terms of its components.
-/

namespace Cloister.Path
set_option autoImplicit false

/-- The components of a relative path with the empty ones and `.` dropped and every `..`
resolved. -/
def components (p : List Char) : List (List Char) := settle [] (Text.cut slash p)

/-- A component that names something and leads nowhere else. -/
def Plain (c : List Char) : Prop := c ≠ [] ∧ c ≠ here ∧ c ≠ above ∧ slash ∉ c

/-- Components of which none is empty or `.`, with every `..` at the start. -/
structure Settled (cs : List (List Char)) : Prop where
  proper : ∀ c ∈ cs, c ≠ [] ∧ c ≠ here ∧ slash ∉ c
  climbs : cs.Pairwise fun c d => d = above → c = above

/-! ## What settling leaves -/

theorem settled_nil : Settled [] := ⟨by simp, List.Pairwise.nil⟩

theorem Settled.of_append {cs ds : List (List Char)} (h : Settled (cs ++ ds)) : Settled cs :=
  ⟨fun c hc => h.proper c (List.mem_append_left _ hc), (List.pairwise_append.mp h.climbs).1⟩

theorem Settled.concat {cs : List (List Char)} {c : List Char} (h : Settled cs)
    (hc : c ≠ [] ∧ c ≠ here ∧ slash ∉ c) (hcs : c = above → ∀ d ∈ cs, d = above) :
    Settled (cs ++ [c]) := by
  refine ⟨?_, ?_⟩
  · intro d hd
    rcases List.mem_append.mp hd with hd | hd
    · exact h.proper d hd
    · rw [List.mem_singleton] at hd
      exact hd ▸ hc
  · rw [List.pairwise_append]
    refine ⟨h.climbs, List.pairwise_singleton _ _, ?_⟩
    intro d hd e he hea
    rw [List.mem_singleton] at he
    exact hcs (he ▸ hea) d hd

/-- After a `..` at the end there is nothing but `..`. -/
theorem Settled.all_above {cs : List (List Char)} (h : Settled (cs ++ [above])) :
    ∀ d ∈ cs, d = above := fun d hd =>
  (List.pairwise_append.mp h.climbs).2.2 d hd above (List.mem_singleton_self _) rfl

theorem above_proper : above ≠ [] ∧ above ≠ here ∧ slash ∉ above := by decide

/-- Settling keeps the components settled that it has kept so far. -/
theorem settled_settle (kept cs : List (List Char)) (hk : Settled kept.reverse)
    (hc : ∀ c ∈ cs, slash ∉ c) : Settled (settle kept cs) := by
  -- kept components are listed last first, so the invariant is about their reverse
  fun_induction settle kept cs with
  | case1 kept => exact hk
  | case2 kept c cs _ ih => exact ih hk fun d hd => hc d (List.mem_cons_of_mem _ hd)
  | case3 cs _ ih =>
    refine ih ?_ fun d hd => hc d (List.mem_cons_of_mem _ hd)
    exact settled_nil.concat above_proper (by simp)
  | case4 cs ks _ ih =>
    refine ih ?_ fun d hd => hc d (List.mem_cons_of_mem _ hd)
    rw [List.reverse_cons]
    refine hk.concat above_proper fun _ d hd => ?_
    rw [List.reverse_cons] at hk hd
    rcases List.mem_append.mp hd with hd | hd
    · exact hk.all_above d hd
    · exact List.mem_singleton.mp hd
  | case5 cs k ks _ _ ih =>
    refine ih ?_ fun d hd => hc d (List.mem_cons_of_mem _ hd)
    rw [List.reverse_cons] at hk
    exact hk.of_append
  | case6 kept c cs hne hab ih =>
    refine ih ?_ fun d hd => hc d (List.mem_cons_of_mem _ hd)
    rw [List.reverse_cons]
    rw [not_or] at hne
    exact hk.concat ⟨hne.1, hne.2, hc c (List.mem_cons_self ..)⟩ fun h => absurd h hab

theorem settled_components (p : List Char) : Settled (components p) :=
  settled_settle [] _ settled_nil fun _ hc => Text.sep_notMem_of_mem_cut hc

/-- Settled components that do not start with `..` hold none. -/
theorem Settled.plain {c : List Char} {cs : List (List Char)} (h : Settled (c :: cs))
    (hc : c ≠ above) : ∀ d ∈ c :: cs, Plain d := by
  intro d hd
  obtain ⟨hne, hh, hs⟩ := h.proper d hd
  refine ⟨hne, hh, fun ha => hc ?_, hs⟩
  rcases List.mem_cons.mp hd with rfl | hd
  · exact ha
  · exact (List.pairwise_cons.mp h.climbs).1 d hd ha

/-- Leading slashes add no component. -/
theorem components_dropWhile_slash (p : List Char) :
    components (p.dropWhile (· = slash)) = components p := by
  induction p with
  | nil => rfl
  | cons c p ih =>
    by_cases hc : c = slash
    · subst hc
      rw [List.dropWhile_cons_of_pos (by simp), ih]
      simp [components, Text.cut_cons_sep, settle]
    · rw [List.dropWhile_cons_of_neg (by simpa using hc)]

/-! ## The normal text -/

theorem glue_eq_nil_iff {cs : List (List Char)} (h : ∀ c ∈ cs, c ≠ []) :
    Text.glue slash cs = [] ↔ cs = [] := by
  cases cs with
  | nil => simp [Text.glue]
  | cons c cs =>
    cases cs with
    | nil => simpa [Text.glue] using h c (by simp)
    | cons d ds => simp [Text.glue]

theorem normal_eq (p : List Char) :
    normal p = if components p = [] then here else Text.glue slash (components p) := by
  have hne := glue_eq_nil_iff fun c hc => ((settled_components p).proper c hc).1
  have hsettled : settle [] (Text.cut slash p) = components p := rfl
  rw [normal, hsettled]
  split
  · rename_i h
    rw [if_pos (hne.mp h)]
  · rename_i h
    rw [if_neg fun hc => h (hne.mpr hc)]

/-- Glued components lead out of the base iff the first of them is `..`. -/
theorem escapes_glue {c : List Char} {cs : List (List Char)}
    (h : ∀ d ∈ c :: cs, d ≠ [] ∧ d ≠ here ∧ slash ∉ d) :
    escapes (Text.glue slash (c :: cs)) = true ↔ c = above := by
  obtain ⟨hne, hh, hs⟩ := h c (by simp)
  have hcut := Text.cut_glue (List.cons_ne_nil c cs) fun d hd => (h d hd).2.2
  have hnil : Text.glue slash (c :: cs) ≠ [] :=
    (glue_eq_nil_iff fun d hd => (h d hd).1).not.mpr (List.cons_ne_nil c cs)
  have hhere : Text.glue slash (c :: cs) ≠ here := by
    intro he
    rw [he] at hcut
    exact hh (List.cons_eq_cons.mp hcut).1.symm
  simp only [escapes, Bool.or_eq_true, beq_iff_eq, List.isPrefixOf_iff_prefix]
  constructor
  · rintro (((he | he) | he) | ⟨rest, he⟩)
    · exact absurd he hhere
    · exact absurd he hnil
    · rw [he] at hcut
      exact (List.cons_eq_cons.mp hcut).1.symm
    · rw [← he, List.append_assoc, List.singleton_append,
        Text.cut_append_sep above_proper.2.2] at hcut
      exact (List.cons_eq_cons.mp hcut).1.symm
  · rintro rfl
    cases cs with
    | nil => exact .inl (.inr rfl)
    | cons d ds => exact .inr ⟨Text.glue slash (d :: ds), by simp [Text.glue]⟩

/-- A path leads out of its base, or to the base itself, iff no component is left or the first one
left is `..`. -/
theorem escapes_normal_iff (p : List Char) :
    escapes (normal p) = true ↔ components p = [] ∨ (components p).head? = some above := by
  have hs := settled_components p
  rw [normal_eq]
  cases hp : components p with
  | nil => simp [escapes]
  | cons c cs =>
    rw [hp] at hs
    rw [if_neg (List.cons_ne_nil c cs), escapes_glue hs.proper]
    simp

/-! ## Places beneath a base -/

/-- The place of an entry: none if it leads out of the base, and the base joined with the entry's
components otherwise. -/
theorem beneath_eq (base name : String) :
    beneath base name =
      if components name.toList = [] ∨ (components name.toList).head? = some above then none
      else some (join base (String.ofList (Text.glue slash (components name.toList)))) := by
  unfold beneath beneathChars
  simp only [escapes_normal_iff, components_dropWhile_slash]
  split
  · rfl
  · rename_i h
    rw [not_or] at h
    rw [normal_eq, components_dropWhile_slash, if_neg h.1]
    simp [join]

/-- What is joined to a base is not lost. -/
theorem join_ne_empty {base rel : String} (h : rel ≠ "") : join base rel ≠ "" := by
  have hr : rel.toList ≠ [] := by simpa using h
  intro he
  have he' := congrArg String.toList he
  rw [toList_join, joinChars] at he'
  split at he'
  · exact hr he'
  · split at he' <;> simp_all

/-- A relative path that stays strictly inside its base: plain components between slashes. -/
def Inner (rel : String) : Prop :=
  ∃ cs : List (List Char), cs ≠ [] ∧ (∀ c ∈ cs, Plain c) ∧ rel.toList = Text.glue slash cs

theorem Inner.toList_ne_nil {rel : String} (h : Inner rel) : rel.toList ≠ [] := by
  obtain ⟨cs, hne, hcs, hrel⟩ := h
  rw [hrel]
  exact (glue_eq_nil_iff fun c hc => (hcs c hc).1).not.mpr hne

/-- An inner path is relative. -/
theorem Inner.isAbsolute_eq_false {rel : String} (h : Inner rel) : isAbsolute rel = false := by
  obtain ⟨cs, hne, hcs, hrel⟩ := h
  cases cs with
  | nil => exact absurd rfl hne
  | cons c cs =>
    obtain ⟨hc, -, -, hs⟩ := hcs c (by simp)
    cases c with
    | nil => exact absurd rfl hc
    | cons x xs =>
      have hx : x ≠ slash := fun h => hs (by simp [h])
      cases cs <;> simp [isAbsolute, hrel, Text.glue, hx]

/-- Components that do not lead out of their base make up an inner path. -/
theorem inner_components {p : List Char} (hne : components p ≠ [])
    (hhead : (components p).head? ≠ some above) :
    Inner (String.ofList (Text.glue slash (components p))) := by
  refine ⟨components p, hne, ?_, String.toList_ofList⟩
  cases hcs : components p with
  | nil => exact absurd hcs hne
  | cons c cs =>
    rw [hcs] at hhead
    exact (hcs ▸ settled_components p).plain fun ha => hhead (by simp [ha])

/-- An entry that has a place has it at an inner path, which is its normal text. -/
theorem exists_inner_of_beneath {base name path : String} (h : beneath base name = some path) :
    ∃ rel, Inner rel ∧ rel.toList = normal (name.toList.dropWhile (· = slash)) ∧
      path = join base rel := by
  rw [beneath_eq] at h
  split at h
  · cases h
  · rename_i hc
    rw [not_or] at hc
    have hn : normal (name.toList.dropWhile (· = slash)) =
        Text.glue slash (components name.toList) := by
      rw [normal_eq, components_dropWhile_slash, if_neg hc.1]
    exact ⟨_, inner_components hc.1 hc.2, by rw [hn, String.toList_ofList],
      (Option.some.inj h).symm⟩

theorem ne_empty_of_beneath {base name path : String} (h : beneath base name = some path) :
    path ≠ "" := by
  obtain ⟨rel, hrel, -, rfl⟩ := exists_inner_of_beneath h
  have hne : rel ≠ "" := fun he => hrel.toList_ne_nil (he ▸ rfl)
  exact join_ne_empty hne

end Cloister.Path
