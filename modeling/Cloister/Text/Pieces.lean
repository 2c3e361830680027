/-! # Texts in pieces

A text is cut at every occurrence of a separator, and pieces are glued with one separator between
neighbours.

* `Text.cut`, `Text.glue`: the two operations on lists of characters.
* `Text.pieces`, `Text.join`: the same on strings.
* `Text.glue_cut`, `Text.cut_glue`: gluing undoes cutting, and cutting undoes gluing as long as no
  piece holds the separator.
* `Text.cut_append`: a separator between two texts keeps their pieces apart.
-/

namespace Cloister.Text
set_option autoImplicit false

/-- The pieces between the occurrences of `sep`; a text without `sep` is one piece. -/
def cut (sep : Char) : List Char → List (List Char)
  | [] => [[]]
  | c :: cs =>
    if c = sep then [] :: cut sep cs
    else match cut sep cs with
      | [] => [[c]]
      | p :: ps => (c :: p) :: ps

/-- The pieces one after another, with `sep` between neighbours. -/
def glue (sep : Char) : List (List Char) → List Char
  | [] => []
  | [p] => p
  | p :: q :: ps => p ++ sep :: glue sep (q :: ps)

/-- The pieces of a string between the occurrences of `sep`. -/
def pieces (sep : Char) (s : String) : List String :=
  (cut sep s.toList).map String.ofList

/-- Strings one after another, with `sep` between neighbours. -/
def join (sep : Char) (ps : List String) : String :=
  String.ofList (glue sep (ps.map String.toList))

@[simp] theorem toList_join (sep : Char) (ps : List String) :
    (join sep ps).toList = glue sep (ps.map String.toList) := by
  simp [join]

theorem cut_ne_nil (sep : Char) (s : List Char) : cut sep s ≠ [] := by
  cases s with
  | nil => simp [cut]
  | cons c cs =>
    unfold cut
    split
    · simp
    · split <;> simp

theorem cut_cons_sep (sep : Char) (cs : List Char) : cut sep (sep :: cs) = [] :: cut sep cs := by
  simp [cut]

theorem cut_cons_of_ne {sep c : Char} (h : c ≠ sep) (cs : List Char) :
    ∃ p ps, cut sep cs = p :: ps ∧ cut sep (c :: cs) = (c :: p) :: ps := by
  cases hc : cut sep cs with
  | nil => exact absurd hc (cut_ne_nil sep cs)
  | cons p ps => exact ⟨p, ps, rfl, by simp [cut, h, hc]⟩

theorem glue_cons_of_ne_nil (sep : Char) (p : List Char) {ps : List (List Char)} (h : ps ≠ []) :
    glue sep (p :: ps) = p ++ sep :: glue sep ps := by
  cases ps with
  | nil => exact absurd rfl h
  | cons q qs => rfl

@[simp] theorem glue_cut (sep : Char) (s : List Char) : glue sep (cut sep s) = s := by
  induction s with
  | nil => rfl
  | cons c cs ih =>
    by_cases h : c = sep
    · subst h
      rw [cut_cons_sep, glue_cons_of_ne_nil _ _ (cut_ne_nil _ _), ih, List.nil_append]
    · obtain ⟨p, ps, hc, hcc⟩ := cut_cons_of_ne h cs
      rw [hc] at ih
      rw [hcc]
      cases ps with
      | nil => simpa [glue] using ih
      | cons q qs => simpa [glue] using ih

theorem glue_eq_intercalate (sep : Char) (ps : List (List Char)) :
    glue sep ps = [sep].intercalate ps := by
  induction ps with
  | nil => rfl
  | cons p ps ih =>
    cases ps with
    | nil => simp [glue, List.intercalate]
    | cons q qs =>
      rw [glue, ih]
      simp [List.intercalate]

theorem join_eq_intercalate (sep : Char) (ps : List String) :
    join sep ps = (String.singleton sep).intercalate ps := by
  rw [← String.toList_inj, toList_join, glue_eq_intercalate, String.toList_intercalate,
    String.toList_singleton]

/-- No piece of a text holds the separator. -/
theorem sep_notMem_of_mem_cut {sep : Char} {s p : List Char} (h : p ∈ cut sep s) : sep ∉ p := by
  induction s generalizing p with
  | nil =>
    simp only [cut, List.mem_singleton] at h
    simp [h]
  | cons c cs ih =>
    by_cases hc : c = sep
    · subst hc
      rw [cut_cons_sep, List.mem_cons] at h
      rcases h with rfl | h
      · simp
      · exact ih h
    · obtain ⟨q, qs, hq, hqq⟩ := cut_cons_of_ne hc cs
      rw [hqq, List.mem_cons] at h
      rcases h with rfl | h
      · have := ih (p := q) (by simp [hq])
        simp [this, Ne.symm hc]
      · exact ih (by simp [hq, h])

/-- A text without the separator is its own only piece. -/
theorem cut_of_notMem {sep : Char} {p : List Char} (h : sep ∉ p) : cut sep p = [p] := by
  induction p with
  | nil => rfl
  | cons c cs ih =>
    simp only [List.mem_cons, not_or] at h
    simp [cut, Ne.symm h.1, ih h.2]

/-- A separator between two texts keeps their pieces apart. -/
theorem cut_append (sep : Char) (s t : List Char) :
    cut sep (s ++ sep :: t) = cut sep s ++ cut sep t := by
  induction s with
  | nil => exact cut_cons_sep sep t
  | cons c cs ih =>
    by_cases h : c = sep
    · subst h
      rw [List.cons_append, cut_cons_sep, cut_cons_sep, ih, List.cons_append]
    · obtain ⟨p, ps, hc, hcc⟩ := cut_cons_of_ne h cs
      rw [hc, List.cons_append] at ih
      rw [List.cons_append, cut, if_neg h, ih, hcc]
      rfl

/-- The pieces of a piece, a separator and more are the piece and the pieces of the rest. -/
theorem cut_append_sep {sep : Char} {p : List Char} (h : sep ∉ p) (s : List Char) :
    cut sep (p ++ sep :: s) = p :: cut sep s := by
  rw [cut_append, cut_of_notMem h, List.singleton_append]

/-- Cutting a text glued from pieces without the separator gives the pieces back. -/
theorem cut_glue {sep : Char} {ps : List (List Char)} (hne : ps ≠ []) (h : ∀ p ∈ ps, sep ∉ p) :
    cut sep (glue sep ps) = ps := by
  induction ps with
  | nil => exact absurd rfl hne
  | cons p ps ih =>
    cases ps with
    | nil => exact cut_of_notMem (h p (by simp))
    | cons q qs =>
      rw [glue_cons_of_ne_nil _ _ (by simp), cut_append_sep (h p (by simp)),
        ih (by simp) (fun r hr => h r (by simp [hr]))]

end Cloister.Text
