import Cloister.Proofs.Path.Component
import Mathlib.Data.List.DropRight

/-! # Paths and the directories above them

Everything here looks at the text of paths only; links are not followed.

* `Path.Covers`: a directory covers itself and every path that continues it after a slash. Slashes
  at its end do not count.
* `Path.Covers.trans`: what a covered directory covers is covered too.
* `Path.isAbsolute_of_covers`: beneath an absolute directory every path is absolute.
* `Path.covers_join`, `Path.covers_of_beneath`: a directory covers the paths that are joined to it
  and the entries that are placed beneath it.
* `Path.AtOrAbove`, `Path.Apart`: the same relation without slashes at the ends of both paths, and
  paths that it does not relate.
* `Path.Apart.not_atOrAbove`: no path lies beneath two directories that are apart.
-/

namespace Cloister.Path
set_option autoImplicit false

/-- A directory without the slashes at its end. -/
def trimEnd (dir : List Char) : List Char := dir.rdropWhile (· = slash)

/-- What every path strictly inside a directory starts with. -/
def inside (dir : String) : List Char := trimEnd dir.toList ++ [slash]

/-- A directory covers itself and all paths inside it. -/
def Covers (dir path : String) : Prop := dir = path ∨ inside dir <+: path.toList

instance (dir path : String) : Decidable (Covers dir path) :=
  inferInstanceAs (Decidable (_ ∨ _))

theorem Covers.refl (dir : String) : Covers dir dir := .inl rfl

/-! ## Slashes at the end -/

@[simp] theorem trimEnd_trimEnd (dir : List Char) : trimEnd (trimEnd dir) = trimEnd dir :=
  List.rdropWhile_idempotent _ _

theorem trimEnd_isPrefix (dir : List Char) : trimEnd dir <+: dir := List.rdropWhile_prefix _ _

theorem trimEnd_append (xs ys : List Char) :
    trimEnd (xs ++ ys) = if trimEnd ys = [] then trimEnd xs else xs ++ trimEnd ys := by
  simp only [trimEnd, List.rdropWhile, List.reverse_append, List.dropWhile_append,
    List.isEmpty_iff, List.reverse_eq_nil_iff]
  split
  · rfl
  · rw [List.reverse_append, List.reverse_reverse]

/-- A slash in the middle stays where it is, with all that is before it. -/
theorem trimEnd_append_slash (xs ys : List Char) :
    trimEnd (xs ++ slash :: ys) = trimEnd xs ∨ xs ++ [slash] <+: trimEnd (xs ++ slash :: ys) := by
  rw [trimEnd_append]
  split
  · exact .inl rfl
  · rename_i h
    right
    obtain ⟨zs, hz⟩ := trimEnd_isPrefix (slash :: ys)
    cases ht : trimEnd (slash :: ys) with
    | nil => exact absurd ht h
    | cons c cs =>
      rw [ht, List.cons_append, List.cons.injEq] at hz
      exact ⟨cs, by simp [hz.1]⟩

theorem trimEnd_slash_isPrefix (dir : List Char) : trimEnd dir ++ [slash] <+: dir ++ [slash] := by
  obtain ⟨slashes, hd, hs⟩ : ∃ slashes, trimEnd dir ++ slashes = dir ∧ ∀ c ∈ slashes, c = slash :=
    ⟨_, List.rdropWhile_append_rtakeWhile, fun c hc => by simpa using List.mem_rtakeWhile_imp hc⟩
  cases slashes with
  | nil =>
    rw [List.append_nil] at hd
    exact ⟨[], by rw [hd, List.append_nil]⟩
  | cons c cs =>
    refine ⟨cs ++ [slash], ?_⟩
    rw [hs c (by simp)] at hd
    conv => rhs; rw [← hd]
    simp

/-! ## Covering -/

theorem inside_prefix_inside {dir path : String} (h : inside dir <+: path.toList) :
    inside dir <+: inside path := by
  obtain ⟨ys, hy⟩ := h
  have hp : path.toList = trimEnd dir.toList ++ slash :: ys := by
    rw [← hy, inside, List.append_assoc, List.singleton_append]
  unfold inside
  rw [hp]
  rcases trimEnd_append_slash (trimEnd dir.toList) ys with he | he
  · exact ⟨[], by rw [he, trimEnd_trimEnd, List.append_nil]⟩
  · exact he.trans (List.prefix_append _ _)

theorem Covers.trans {a b c : String} (hab : Covers a b) (hbc : Covers b c) : Covers a c := by
  rcases hab with rfl | hab
  · exact hbc
  · rcases hbc with rfl | hbc
    · exact .inr hab
    · exact .inr ((inside_prefix_inside hab).trans hbc)

/-- An absolute directory covers absolute paths only. -/
theorem isAbsolute_of_covers {dir path : String} (h : Covers dir path)
    (hd : isAbsolute dir = true) : isAbsolute path = true := by
  rcases h with rfl | ⟨rest, h⟩
  · exact hd
  · have hdir : dir.toList.head? = some slash := by simpa [isAbsolute] using hd
    have hinside : (inside dir).head? = some slash := by
      rw [inside]
      cases ht : trimEnd dir.toList with
      | nil => rfl
      | cons c cs =>
        obtain ⟨ys, hy⟩ := trimEnd_isPrefix dir.toList
        rw [← hy, ht] at hdir
        exact hdir
    rw [isAbsolute, beq_iff_eq, ← h, List.head?_append, hinside]
    rfl

theorem covers_join {base rel : String} (hb : base ≠ "") (hr : isAbsolute rel = false) :
    Covers base (join base rel) := by
  have hb' : base.toList ≠ [] := by simpa using hb
  have hr' : rel.toList.head? ≠ some slash := by simpa [isAbsolute] using hr
  right
  rw [toList_join, joinChars, if_neg hr']
  split
  · rename_i h
    obtain ⟨xs, hx⟩ := List.getLast?_eq_some_iff.mp (h.resolve_left hb')
    have ht : trimEnd (xs ++ [slash]) = trimEnd xs := by
      rw [trimEnd_append, if_pos (by decide)]
    rw [inside, hx, ht]
    exact (trimEnd_slash_isPrefix xs).trans (List.prefix_append _ _)
  · refine (trimEnd_slash_isPrefix base.toList).trans ⟨rel.toList, ?_⟩
    rw [List.append_assoc, List.singleton_append]

/-- An entry that has a place beneath its base is covered by the base. -/
theorem covers_of_beneath {base name path : String} (hb : base ≠ "")
    (h : beneath base name = some path) : Covers base path := by
  obtain ⟨rel, hrel, -, rfl⟩ := exists_inner_of_beneath h
  exact covers_join hb hrel.isAbsolute_eq_false

/-- Paths that are joined to one base start with the same text. -/
theorem exists_front_join (base : String) :
    ∃ front, ∀ rel, isAbsolute rel = false → (join base rel).toList = front ++ rel.toList := by
  by_cases hb : base.toList = [] ∨ base.toList.getLast? = some slash
  · refine ⟨base.toList, fun rel hr => ?_⟩
    have hr' : rel.toList.head? ≠ some slash := by simpa [isAbsolute] using hr
    rw [toList_join, joinChars, if_neg hr', if_pos hb]
  · refine ⟨base.toList ++ [slash], fun rel hr => ?_⟩
    have hr' : rel.toList.head? ≠ some slash := by simpa [isAbsolute] using hr
    rw [toList_join, joinChars, if_neg hr', if_neg hb, List.append_cons]

theorem Inner.trimEnd_ne_nil {rel : String} (h : Inner rel) : trimEnd rel.toList ≠ [] := by
  have ha := h.isAbsolute_eq_false
  obtain ⟨x, xs, hx⟩ := List.exists_cons_of_ne_nil h.toList_ne_nil
  intro ht
  have hall : ∀ c ∈ rel.toList, c = slash := by simpa [trimEnd] using ht
  rw [isAbsolute, hx, hall x (by simp [hx])] at ha
  simp at ha

theorem Plain.inner {name : String} (h : Plain name.toList) : Inner name :=
  ⟨[name.toList], by simp, by simpa using h, rfl⟩

/-- Of the paths strictly inside a base, only the one with this name covers a direct child. -/
theorem eq_of_covers_join {base rel name : String} (hr : Inner rel) (hn : Plain name.toList)
    (h : Covers (join base rel) (join base name)) : rel = name := by
  obtain ⟨front, hfront⟩ := exists_front_join base
  have hrel := hfront rel hr.isAbsolute_eq_false
  have hnam := hfront name hn.inner.isAbsolute_eq_false
  rcases h with h | h
  · rw [h, hnam] at hrel
    exact (String.toList_inj.mp (List.append_cancel_left hrel)).symm
  · rw [inside, hrel, trimEnd_append, if_neg hr.trimEnd_ne_nil, hnam, List.append_assoc,
      List.prefix_append_right_inj] at h
    exact absurd (h.subset (by simp)) hn.2.2.2

/-- What is joined to a base stands in every path that the whole covers. -/
theorem isInfix_of_covers_join {base rel path : String} (hr : Inner rel)
    (h : Covers (join base rel) path) : trimEnd rel.toList <:+: path.toList := by
  obtain ⟨front, hfront⟩ := exists_front_join base
  have hrel := hfront rel hr.isAbsolute_eq_false
  rcases h with rfl | ⟨rest, h⟩
  · rw [hrel]
    exact (trimEnd_isPrefix _).isInfix.trans (List.suffix_append _ _).isInfix
  · rw [inside, hrel, trimEnd_append, if_neg hr.trimEnd_ne_nil] at h
    exact ⟨front, slash :: rest, by rw [← h]; simp⟩

/-! ## Paths that lie apart -/

/-- A directory is a path or lies above it. Slashes at the ends of both do not count. -/
def AtOrAbove (dir path : String) : Prop := inside dir <+: inside path

instance (dir path : String) : Decidable (AtOrAbove dir path) :=
  inferInstanceAs (Decidable (_ <+: _))

theorem Covers.atOrAbove {dir path : String} (h : Covers dir path) : AtOrAbove dir path := by
  rcases h with rfl | h
  · exact List.prefix_rfl
  · exact inside_prefix_inside h

theorem AtOrAbove.trans {a b c : String} (hab : AtOrAbove a b) (hbc : AtOrAbove b c) :
    AtOrAbove a c :=
  List.IsPrefix.trans hab hbc

/-- Neither of two paths is the other one or lies above it. -/
def Apart (a b : String) : Prop := ¬ AtOrAbove a b ∧ ¬ AtOrAbove b a

instance (a b : String) : Decidable (Apart a b) := inferInstanceAs (Decidable (_ ∧ _))

theorem Apart.symm {a b : String} (h : Apart a b) : Apart b a := And.symm h

-- Two directories above one path are beginnings of one text, so one of them begins with the other.
theorem Apart.not_atOrAbove {a b path : String} (h : Apart a b) (ha : AtOrAbove a path) :
    ¬ AtOrAbove b path := by
  intro hb
  rcases List.prefix_or_prefix_of_prefix ha hb with hab | hba
  · exact h.1 hab
  · exact h.2 hba

end Cloister.Path
