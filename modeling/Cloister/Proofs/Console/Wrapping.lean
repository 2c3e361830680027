import Cloister.Console.Layout
import Cloister.Screen.Manual
import Mathlib.Data.List.DropRight
import Mathlib.Data.List.Forall2

/-! # What wrapping leaves of a text

The layout breaks lines, and at a break it may leave out white space. Nothing else changes.

* `Console.wraps_layOut`: a text without tabs and joiners is shown in lines that fit.
* `Console.layOut_of_short`: a text that is short enough is shown as it is.
-/

namespace Cloister.Console
set_option autoImplicit false

open Screen (cellCount cellCount_nil cellCount_cons cellCount_append Shows Wraps)

variable {room : Nat} {s t line word : List Char}

/-! ## Cells -/

theorem charWidth_le_two (c : Char) : charWidth c ≤ 2 := by
  unfold charWidth
  split
  · omega
  · split <;> omega

theorem cellCount_le (s : List Char) : cellCount charWidth s ≤ 2 * s.length := by
  induction s with
  | nil => exact le_rfl
  | cons c s ih =>
    have hc := charWidth_le_two c
    rw [cellCount_cons, List.length_cons]
    omega

theorem Gauge.cells_measure_le (g : Gauge) (c : Char) : (g.measure c).cells ≤ g.cells + 2 := by
  have hc := charWidth_le_two c
  unfold Gauge.measure
  grind

/-- A character that is not joined to the one before it adds its cells at least. -/
theorem Gauge.le_cells_measure {g : Gauge} {c : Char} (hg : g.joined = false) (hc : c ≠ joiner) :
    (g.measure c).joined = false ∧ g.cells + charWidth c ≤ (g.measure c).cells := by
  have hmark : charWidth pictureMark = 0 := by decide
  unfold Gauge.measure
  grind

theorem width_le (s : List Char) : width s ≤ 2 * s.length := by
  have hfold (g : Gauge) : (s.foldl Gauge.measure g).cells ≤ g.cells + 2 * s.length := by
    induction s generalizing g with
    | nil => exact le_rfl
    | cons c s ih =>
      have hc := g.cells_measure_le c
      have hs := ih (g.measure c)
      rw [List.foldl_cons, List.length_cons]
      omega
  simpa [width] using hfold {}

/-- Without joiners a text is measured at its cells or above. -/
theorem cellCount_le_width (h : joiner ∉ s) : cellCount charWidth s ≤ width s := by
  have hfold {g : Gauge} (hg : g.joined = false) :
      g.cells + cellCount charWidth s ≤ (s.foldl Gauge.measure g).cells := by
    induction s generalizing g with
    | nil => exact le_rfl
    | cons c s ih =>
      rw [List.mem_cons, not_or] at h
      obtain ⟨hjoined, hc⟩ := Gauge.le_cells_measure hg (Ne.symm h.1)
      have hs := ih h.2 hjoined
      rw [List.foldl_cons, cellCount_cons]
      omega
  simpa [width] using hfold (g := {}) rfl

/-! ## White space at the end -/

theorem trimEnd_isPrefix (s : List Char) : trimEnd s <+: s := List.rdropWhile_prefix _ s

/-- What is trimmed off is white space. -/
theorem exists_eq_trimEnd_append (s : List Char) :
    ∃ blank, s = trimEnd s ++ blank ∧ ∀ c ∈ blank, Text.isBlank c = true := by
  refine ⟨(s.reverse.takeWhile Text.isBlank).reverse, ?_, ?_⟩
  · rw [trimEnd, ← List.reverse_append, List.takeWhile_append_dropWhile, List.reverse_reverse]
  · intro c hc
    exact List.mem_takeWhile_imp (List.mem_reverse.mp hc)

theorem trimEnd_append (s t : List Char) :
    trimEnd (s ++ t) = trimEnd s ∨ trimEnd (s ++ t) = s ++ trimEnd t := by
  unfold trimEnd
  rw [List.reverse_append, List.dropWhile_append]
  split
  · exact .inl rfl
  · exact .inr (by rw [List.reverse_append, List.reverse_reverse])

theorem cellCount_trimEnd_le (s : List Char) :
    cellCount charWidth (trimEnd s) ≤ cellCount charWidth s := by
  obtain ⟨blank, hs, -⟩ := exists_eq_trimEnd_append s
  have hcells := congrArg (cellCount charWidth) hs
  rw [cellCount_append] at hcells
  omega

/-! ## Words and pieces -/

theorem flatten_wordsFrom (word : List Char) (place : Place) (s : List Char) :
    (wordsFrom word place s).flatten = word.reverse ++ s := by
  induction s generalizing word place with
  | nil => simp [wordsFrom]
  | cons c s ih =>
    unfold wordsFrom
    split
    · rw [ih, List.reverse_cons, List.append_assoc, List.singleton_append]
    · split
      · rw [List.flatten_cons, ih, List.reverse_singleton, List.singleton_append]
      · rw [ih, List.reverse_cons, List.append_assoc, List.singleton_append]

/-- The words make up the line, unless it is all white space. -/
theorem flatten_words_or (line : List Char) :
    (words line).flatten = line ∨ words line = [] ∧ trimEnd line = [] := by
  unfold words
  split
  · rename_i hblank
    rw [List.all_eq_true] at hblank
    exact .inr ⟨rfl, List.rdropWhile_eq_nil_iff.mpr hblank⟩
  · exact .inl (flatten_wordsFrom [] .before line)

theorem flatten_chopFrom (room : Nat) (piece : List Char) (n : Nat) (s : List Char) :
    (chopFrom room piece n s).flatten = piece.reverse ++ s := by
  induction s generalizing piece n with
  | nil => simp [chopFrom]
  | cons c s ih =>
    unfold chopFrom
    dsimp only
    split
    · rw [List.flatten_cons, ih, List.reverse_singleton, List.singleton_append]
    · rw [ih, List.reverse_cons, List.append_assoc, List.singleton_append]

/-- The pieces of a chopped word fit, if there is room for every single character. -/
theorem cellCount_le_of_mem_chopFrom (hroom : 2 ≤ room) {piece p : List Char} {n : Nat}
    (hn : cellCount charWidth piece.reverse = n) (hfits : n ≤ room)
    (hp : p ∈ chopFrom room piece n s) :
    cellCount charWidth p ≤ room := by
  induction s generalizing piece n with
  | nil =>
    rw [chopFrom, List.mem_singleton] at hp
    exact hp ▸ hn ▸ hfits
  | cons c s ih =>
    have hc := charWidth_le_two c
    unfold chopFrom at hp
    dsimp only at hp
    split at hp
    · rcases List.mem_cons.mp hp with rfl | hp
      · exact hn ▸ hfits
      · exact ih (by simp) (by omega) hp
    · exact ih (by simp [hn]) (by omega) hp

/-! ## Broken lines -/

namespace Broken

variable {b : Broken}

/-- All text that has been placed. -/
def text (b : Broken) : List Char := b.lines.flatten ++ b.current

/-- Every line fits without the white space at its end, and the last one takes no more cells than
were counted. -/
structure Fits (room : Nat) (b : Broken) : Prop where
  lines : ∀ l ∈ b.lines, cellCount charWidth (trimEnd l) ≤ room
  current : cellCount charWidth (trimEnd b.current) ≤ room
  counted : cellCount charWidth b.current ≤ b.cells

@[simp] theorem text_append (b : Broken) (s : List Char) : (b.append s).text = b.text ++ s := by
  simp [text, Broken.append]

@[simp] theorem text_break (b : Broken) : b.break.text = b.text := by
  unfold Broken.break
  split <;> simp [text]

theorem text_foldl_append (b : Broken) (pieces : List (List Char)) :
    (pieces.foldl (fun b p => b.break.append p) b).text = b.text ++ pieces.flatten := by
  induction pieces generalizing b with
  | nil => simp
  | cons p ps ih => rw [List.foldl_cons, ih]; simp

theorem text_place (room : Nat) (b : Broken) (word : List Char) :
    (b.place room word).text = b.text ++ word := by
  unfold Broken.place
  dsimp only
  split
  · exact text_append b word
  split
  · rw [text_append, text_break]
  · rw [text_foldl_append, flatten_chopFrom, List.reverse_nil, List.nil_append]

theorem text_foldl_place (room : Nat) (b : Broken) (words : List (List Char)) :
    (words.foldl (Broken.place room) b).text = b.text ++ words.flatten := by
  induction words generalizing b with
  | nil => simp
  | cons w ws ih => rw [List.foldl_cons, ih, text_place, List.flatten_cons, List.append_assoc]

/-- Whatever fits on a line of its own fits behind a break. -/
theorem Fits.break_append (h : b.Fits room) (hs : cellCount charWidth (trimEnd s) ≤ room)
    (hj : joiner ∉ s) :
    (b.break.append s).Fits room := by
  have hwidth := cellCount_le_width hj
  unfold Broken.break
  split
  · rename_i hempty
    rw [List.isEmpty_iff] at hempty
    refine ⟨h.lines, ?_, ?_⟩
    · rw [Broken.append, hempty]
      exact hs
    · simp only [Broken.append, hempty, List.nil_append]
      omega
  · refine ⟨?_, hs, ?_⟩
    · intro l hl
      rcases List.mem_append.mp hl with hl | hl
      · exact h.lines l hl
      · exact List.mem_singleton.mp hl ▸ h.current
    · simpa [Broken.append] using hwidth

theorem Fits.foldl_append {pieces : List (List Char)} (h : b.Fits room)
    (hp : ∀ p ∈ pieces, cellCount charWidth p ≤ room ∧ joiner ∉ p) :
    (pieces.foldl (fun b p => b.break.append p) b).Fits room := by
  induction pieces generalizing b with
  | nil => exact h
  | cons p ps ih =>
    obtain ⟨hfits, hj⟩ := hp p List.mem_cons_self
    exact ih (h.break_append ((cellCount_trimEnd_le p).trans hfits) hj)
      fun q hq => hp q (List.mem_cons_of_mem p hq)

theorem Fits.place (hroom : 2 ≤ room) (h : b.Fits room) (hj : joiner ∉ word) :
    (b.place room word).Fits room := by
  have hjoiner : joiner ∉ trimEnd word := fun hm => hj ((trimEnd_isPrefix word).subset hm)
  have htrim := cellCount_le_width hjoiner
  unfold Broken.place
  dsimp only
  split
  · rename_i hfits
    refine ⟨h.lines, ?_, ?_⟩
    · show cellCount charWidth (trimEnd (b.current ++ word)) ≤ room
      rcases trimEnd_append b.current word with ht | ht
      · exact ht ▸ h.current
      · have hcounted := h.counted
        rw [ht, cellCount_append]
        omega
    · have hwidth := cellCount_le_width hj
      have hcounted := h.counted
      simp only [Broken.append, cellCount_append]
      omega
  split
  · exact h.break_append (by omega) hj
  · refine h.foldl_append fun p hp =>
      ⟨cellCount_le_of_mem_chopFrom hroom rfl (Nat.zero_le _) hp, ?_⟩
    intro hmem
    have hword := List.mem_flatten.mpr ⟨p, hp, hmem⟩
    rw [flatten_chopFrom] at hword
    exact hj hword

theorem Fits.foldl_place (hroom : 2 ≤ room) {words : List (List Char)} (h : b.Fits room)
    (hj : ∀ w ∈ words, joiner ∉ w) : (words.foldl (Broken.place room) b).Fits room := by
  induction words generalizing b with
  | nil => exact h
  | cons w ws ih =>
    exact ih (h.place hroom (hj w List.mem_cons_self)) fun v hv => hj v (List.mem_cons_of_mem w hv)

/-- No line is broken if every character has room for two cells. -/
theorem lines_foldl_place {words : List (List Char)} (hlines : b.lines = [])
    (hcells : b.cells + 2 * words.flatten.length ≤ room) :
    (words.foldl (Broken.place room) b).lines = [] := by
  induction words generalizing b with
  | nil => exact hlines
  | cons w ws ih =>
    rw [List.flatten_cons, List.length_append] at hcells
    have hword := width_le w
    have htrim := (width_le (trimEnd w)).trans
      (Nat.mul_le_mul_left 2 (trimEnd_isPrefix w).length_le)
    have hplace : b.place room w = b.append w := if_pos (by omega)
    rw [List.foldl_cons, hplace]
    refine ih hlines ?_
    simp only [Broken.append]
    omega

end Broken

/-! ## Cropping -/

theorem cropCells_isPrefix (room : Nat) (s : List Char) : cropCells room s <+: s := by
  induction s generalizing room with
  | nil => exact List.prefix_rfl
  | cons c s ih =>
    unfold cropCells
    split
    · exact List.cons_prefix_cons.mpr ⟨rfl, ih _⟩
    · exact List.nil_prefix

theorem cellCount_cropCells_le (room : Nat) (s : List Char) :
    cellCount charWidth (cropCells room s) ≤ room := by
  induction s generalizing room with
  | nil => exact Nat.zero_le _
  | cons c s ih =>
    unfold cropCells
    split
    · have hs := ih (room - charWidth c)
      rw [cellCount_cons]
      omega
    · exact Nat.zero_le _

/-- What fits is not cropped. -/
theorem cropCells_append (h : cellCount charWidth s ≤ room) (t : List Char) :
    cropCells room (s ++ t) = s ++ cropCells (room - cellCount charWidth s) t := by
  induction s generalizing room with
  | nil => rfl
  | cons c s ih =>
    rw [cellCount_cons] at h
    rw [List.cons_append, cropCells, if_pos (by omega), ih (by omega), cellCount_cons, Nat.sub_sub,
      List.cons_append]

theorem cropCells_of_le (h : cellCount charWidth s ≤ room) : cropCells room s = s := by
  simpa [cropCells] using cropCells_append h []

theorem cropBlanks_of_le (h : s.length ≤ room) : cropBlanks room s = s := by
  have hexcess : s.length - room = 0 := by omega
  simp [cropBlanks, hexcess]

theorem exists_cropBlanks_eq (room : Nat) (s : List Char) :
    ∃ blank, cropBlanks room s = trimEnd s ++ blank ∧ cropBlanks room s <+: s := by
  have htake : trimEnd s <+: cropBlanks room s := by
    refine List.prefix_of_prefix_length_le (trimEnd_isPrefix s) (List.take_prefix _ s) ?_
    have hle := (trimEnd_isPrefix s).length_le
    rw [cropBlanks, List.length_take]
    omega
  obtain ⟨blank, hblank⟩ := htake
  exact ⟨blank, hblank.symm, List.take_prefix _ s⟩

/-! ## Lines and texts -/

theorem shows_crop (h : cellCount charWidth (trimEnd s) ≤ room) :
    Shows charWidth room (cropCells room (cropBlanks room s)) s := by
  obtain ⟨blank, hcrop, hprefix⟩ := exists_cropBlanks_eq room s
  refine ⟨cellCount_cropCells_le _ _, ?_⟩
  obtain ⟨rest, hrest⟩ := (cropCells_isPrefix room _).trans hprefix
  refine ⟨rest, hrest.symm, ?_⟩
  obtain ⟨white, hs, hwhite⟩ := exists_eq_trimEnd_append s
  rw [hcrop, cropCells_append h, List.append_assoc] at hrest
  intro c hc
  refine hwhite c ?_
  rw [← List.append_cancel_left (hrest.trans hs)]
  exact List.mem_append_right _ hc

/-- A line is broken into pieces that fit without the white space at their ends. -/
theorem exists_wrap_eq (hroom : 2 ≤ room) (hj : joiner ∉ line) :
    ∃ pieces : List (List Char),
      wrap room line = pieces.map (fun p => cropCells room (cropBlanks room p)) ∧
        pieces ≠ [] ∧ pieces.flatten = line ∧
        ∀ p ∈ pieces, cellCount charWidth (trimEnd p) ≤ room := by
  let b := (words line).foldl (Broken.place room) {}
  rcases flatten_words_or line with hwords | ⟨hwords, htrim⟩
  · have htext : b.text = line := (Broken.text_foldl_place room {} (words line)).trans hwords
    have hfits : b.Fits room := by
      refine Broken.Fits.foldl_place hroom ⟨nofun, Nat.zero_le _, le_rfl⟩ fun w hw hmem => hj ?_
      rw [← hwords]
      exact List.mem_flatten.mpr ⟨w, hw, hmem⟩
    have hlines : (if b.lines.isEmpty then [line] else b.lines ++ [b.current]) =
        b.lines ++ [b.current] := by
      split
      · rename_i hempty
        rw [List.isEmpty_iff] at hempty
        rw [← htext, Broken.text, hempty]
        rfl
      · rfl
    refine ⟨b.lines ++ [b.current], congrArg (List.map _) hlines, by simp, ?_, ?_⟩
    · rw [List.flatten_append, List.flatten_singleton]
      exact htext
    · intro p hp
      rcases List.mem_append.mp hp with hp | hp
      · exact hfits.lines p hp
      · exact List.mem_singleton.mp hp ▸ hfits.current
  · refine ⟨[line], ?_, List.cons_ne_nil _ _, List.append_nil line, ?_⟩
    · rw [wrap, hwords]
      rfl
    · intro p hp
      rw [List.mem_singleton.mp hp, htrim]
      exact Nat.zero_le room

/-- White space behind all lines is left out behind the last one. -/
theorem exists_forall₂_append {lines pieces : List (List Char)} (blank : List Char)
    (h : List.Forall₂ (Shows charWidth room) lines pieces) (hne : lines ≠ [])
    (hblank : ∀ c ∈ blank, Text.isBlank c = true) :
    ∃ pieces', List.Forall₂ (Shows charWidth room) lines pieces' ∧
      pieces'.flatten = pieces.flatten ++ blank := by
  induction h with
  | nil => exact absurd rfl hne
  | @cons line piece lines pieces hshows hrest ih =>
    rcases eq_or_ne lines [] with rfl | hne
    · cases hrest
      obtain ⟨hcells, white, rfl, hwhite⟩ := hshows
      refine ⟨[line ++ white ++ blank], .cons ⟨hcells, white ++ blank, ?_, ?_⟩ .nil, by simp⟩
      · rw [List.append_assoc]
      · intro c hc
        exact (List.mem_append.mp hc).elim (hwhite c) (hblank c)
    · obtain ⟨pieces', hpieces, hflatten⟩ := ih hne
      refine ⟨piece :: pieces', .cons hshows hpieces, ?_⟩
      rw [List.flatten_cons, hflatten, List.flatten_cons, List.append_assoc]

theorem exists_forall₂_wrap {lines : List (List Char)} (hroom : 2 ≤ room) (hne : lines ≠ [])
    (hj : ∀ l ∈ lines, joiner ∉ l) :
    ∃ pieces, List.Forall₂ (Shows charWidth room) (lines.flatMap (wrap room)) pieces ∧
      pieces.flatten = Text.glue '\n' lines := by
  induction lines with
  | nil => exact absurd rfl hne
  | cons line lines ih =>
    obtain ⟨pieces, hwrap, hpieces, rfl, hfits⟩ :=
      exists_wrap_eq hroom (hj line List.mem_cons_self)
    have hshows : List.Forall₂ (Shows charWidth room) (wrap room pieces.flatten) pieces := by
      rw [hwrap, List.forall₂_map_left_iff]
      exact List.forall₂_same.mpr fun p hp => shows_crop (hfits p hp)
    rcases eq_or_ne lines [] with rfl | hne
    · exact ⟨pieces, by simpa using hshows, rfl⟩
    · obtain ⟨rest, hrest, hflatten⟩ := ih hne fun l hl => hj l (List.mem_cons_of_mem _ hl)
      have hwrap : wrap room pieces.flatten ≠ [] := by
        rw [hwrap]
        simpa using hpieces
      obtain ⟨pieces', hpieces', hflatten'⟩ :=
        exists_forall₂_append ['\n'] hshows hwrap (List.forall_mem_singleton.mpr (by decide))
      refine ⟨pieces' ++ rest, ?_, ?_⟩
      · rw [List.flatMap_cons]
        exact List.rel_append hpieces' hrest
      · rw [List.flatten_append, hflatten', hflatten, Text.glue_cons_of_ne_nil _ _ hne,
          List.append_assoc, List.singleton_append]

theorem expandTabs_of_notMem (h : '\t' ∉ line) : expandTabs line = line := by
  rw [expandTabs, Text.cut_of_notMem h, expandPieces]

theorem infix_glue (sep : Char) {p : List Char} {ps : List (List Char)} (h : p ∈ ps) :
    p <:+: Text.glue sep ps := by
  induction ps with
  | nil => cases h
  | cons q qs ih =>
    rcases eq_or_ne qs [] with rfl | hne
    · exact List.mem_singleton.mp h ▸ List.infix_rfl
    · rw [Text.glue_cons_of_ne_nil _ _ hne]
      rcases List.mem_cons.mp h with rfl | h
      · exact (List.prefix_append _ _).isInfix
      · exact (ih h).trans ((List.suffix_cons _ _).trans (List.suffix_append _ _)).isInfix

/-- The pieces of a text are parts of it. -/
theorem infix_of_mem_cut {sep : Char} {p : List Char} (h : p ∈ Text.cut sep s) : p <:+: s := by
  have hinfix := infix_glue sep h
  rwa [Text.glue_cut] at hinfix

theorem layOut_eq (room : Nat) (htab : '\t' ∉ s) :
    layOut room s = Text.glue '\n' ((Text.cut '\n' s).flatMap (wrap room)) := by
  refine congrArg (Text.glue '\n') (List.flatMap_congr fun l hl => ?_)
  rw [expandTabs_of_notMem fun hmem => htab ((infix_of_mem_cut hl).subset hmem)]

theorem wraps_of_forall₂ {lines pieces : List (List Char)}
    (h : List.Forall₂ (Shows charWidth room) lines pieces) :
    Wraps charWidth room pieces.flatten (Text.glue '\n' lines) := by
  have hlength := h.length_eq
  refine ⟨lines.zip pieces, fun r hr => (List.forall₂_iff_zip.mp h).2 hr, ?_, ?_⟩
  · rw [List.flatMap_def, List.map_snd_zip hlength.ge]
  · rw [List.map_fst_zip hlength.le]

/-- A text without tabs and joiners is shown in lines that fit, and nothing is left out between them
but white space. -/
theorem wraps_layOut (hroom : 2 ≤ room) (htab : '\t' ∉ s) (hj : joiner ∉ s) :
    Wraps charWidth room s (layOut room s) := by
  obtain ⟨pieces, hpieces, hflatten⟩ :=
    exists_forall₂_wrap hroom (Text.cut_ne_nil '\n' s) fun l hl hmem =>
      hj ((infix_of_mem_cut hl).subset hmem)
  have hwraps := wraps_of_forall₂ hpieces
  rwa [hflatten, Text.glue_cut, ← layOut_eq room htab] at hwraps

/-- A line that is short enough is not broken. -/
theorem wrap_of_short (h : 2 * line.length ≤ room) : wrap room line = [line] := by
  have hlines : ((words line).foldl (Broken.place room) {}).lines = [] := by
    refine Broken.lines_foldl_place rfl ?_
    rcases flatten_words_or line with hwords | ⟨hwords, -⟩
    · rw [hwords]
      simpa using h
    · simp [hwords]
  have hblanks : cropBlanks room line = line := cropBlanks_of_le (by omega)
  have hcells : cropCells room line = line := cropCells_of_le ((cellCount_le line).trans h)
  rw [wrap, hlines]
  simp [hblanks, hcells]

/-- A text without tabs that is short enough is shown as it is. -/
theorem layOut_of_short (htab : '\t' ∉ s) (h : 2 * s.length ≤ room) : layOut room s = s := by
  have hwrap : (Text.cut '\n' s).flatMap (wrap room) = Text.cut '\n' s := by
    refine (List.flatMap_congr fun l hl => ?_).trans (List.flatMap_singleton' _)
    have hlength := (infix_of_mem_cut hl).length_le
    exact wrap_of_short (by omega)
  rw [layOut_eq room htab, hwrap, Text.glue_cut]

end Cloister.Console
