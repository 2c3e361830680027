import Cloister.Console.Layout
import Cloister.Screen

/-! # Tables on the console

A table is as wide as its texts are, if there is room for it. If not, its widest columns are narrowed
first. A text that does not fit into its column is broken between words, and what is left of a word
that does not fit by itself ends in an ellipsis.

* `Table.fit`: columns that are narrowed until there is room for them.
* `Table.widths`, `Table.total_widths_le`: the widths of the columns, and that there is room for them.
* `Table.lines`: the lines of a table, drawn with box characters.
-/

namespace Cloister.Table
set_option autoImplicit false

/-! ## The widths of columns -/

def total (ws : List Nat) : Nat := ws.foldr (· + ·) 0

@[simp] theorem total_cons (w : Nat) (ws : List Nat) : total (w :: ws) = w + total ws := rfl

def greatest (ws : List Nat) : Nat := ws.foldr max 0

/-- The whole number that is nearest to a quotient, and the even one of two that are as near. -/
def nearest (a b : Nat) : Nat :=
  if 2 * (a % b) < b ∨ 2 * (a % b) = b ∧ a / b % 2 = 0 then a / b else a / b + 1

/-- Columns from which cells are taken that are too many. They are shared out among the columns of one
width, of which there are `sharers`, and none of these gives more than `most`. -/
def shrink (most width : Nat) (excess sharers : Nat) : List Nat → List Nat
  | [] => []
  | w :: ws =>
    if w = width then
      let taken := min most (nearest excess sharers)
      (w - taken) :: shrink most width (excess - taken) (sharers - 1) ws
    else w :: shrink most width excess sharers ws

section Widths
variable {ws : List Nat}

theorem le_greatest {w : Nat} (h : w ∈ ws) : w ≤ greatest ws := by
  induction ws with
  | nil => cases h
  | cons v ws ih =>
    rw [greatest, List.foldr_cons]
    rcases List.mem_cons.mp h with rfl | h
    · exact Nat.le_max_left ..
    · exact Nat.le_trans (ih h) (Nat.le_max_right ..)

theorem greatest_mem (h : 0 < greatest ws) : greatest ws ∈ ws := by
  induction ws with
  | nil => exact absurd h (by decide)
  | cons w ws ih =>
    rw [greatest, List.foldr_cons] at h ⊢
    rcases Nat.le_total w (greatest ws) with hle | hle
    · have hmax : max w (ws.foldr max 0) = greatest ws := Nat.max_eq_right hle
      rw [hmax] at h ⊢
      exact List.mem_cons_of_mem w (ih h)
    · have hmax : max w (ws.foldr max 0) = w := Nat.max_eq_left hle
      rw [hmax]
      exact List.mem_cons_self

theorem greatest_pos (h : 0 < total ws) : 0 < greatest ws := by
  induction ws with
  | nil => exact absurd h (by decide)
  | cons w ws ih =>
    rw [total_cons] at h
    have hw := le_greatest (List.mem_cons_self (a := w) (l := ws))
    have hws : greatest ws ≤ greatest (w :: ws) := Nat.le_max_right ..
    rcases Nat.eq_zero_or_pos w with rfl | hpos
    · exact Nat.lt_of_lt_of_le (ih (by omega)) hws
    · exact Nat.lt_of_lt_of_le hpos hw

theorem nearest_one (a : Nat) : nearest a 1 = a := by
  rw [nearest, Nat.mod_one, Nat.div_one, if_pos (.inl (by decide))]

theorem total_shrink_le (most width excess sharers : Nat) (ws : List Nat) :
    total (shrink most width excess sharers ws) ≤ total ws := by
  induction ws generalizing excess sharers with
  | nil => exact Nat.le_refl 0
  | cons w ws ih =>
    rw [shrink]
    split
    · have hrest := ih (excess - min most (nearest excess sharers)) (sharers - 1)
      rw [total_cons, total_cons]
      omega
    · have hrest := ih excess sharers
      rw [total_cons, total_cons]
      omega

/-- Something is taken from one of the sharers at least: the last of them gives what is left. -/
theorem total_shrink_lt {most width : Nat} (hmost : 0 < most) (hwidth : 0 < width) {excess : Nat}
    (hexcess : 0 < excess) (hmem : width ∈ ws) :
    total (shrink most width excess (ws.count width) ws) < total ws := by
  induction ws with
  | nil => cases hmem
  | cons w ws ih =>
    rw [shrink]
    split
    next hw =>
      subst hw
      have hcount : (w :: ws).count w - 1 = ws.count w := by
        rw [List.count_cons_self, Nat.add_sub_cancel]
      rw [hcount, total_cons, total_cons]
      rcases Nat.eq_zero_or_pos (min most (nearest excess ((w :: ws).count w))) with h | h
      · rw [h, Nat.sub_zero, Nat.sub_zero]
        have hmore : w ∈ ws := by
          refine List.count_pos_iff.mp (Nat.pos_of_ne_zero fun hnone => ?_)
          rw [List.count_cons_self, hnone, nearest_one] at h
          omega
        have hrest := ih hmore
        omega
      · have hrest := total_shrink_le most w
          (excess - min most (nearest excess ((w :: ws).count w))) (ws.count w) ws
        omega
    next hw =>
      have hmore : width ∈ ws := (List.mem_cons.mp hmem).resolve_left fun h => hw h.symm
      rw [List.count_cons_of_ne hw, total_cons, total_cons]
      have hrest := ih hmore
      omega

/-- The greatest width beside that of the widest columns. -/
def second (ws : List Nat) : Nat := greatest (ws.filter (· ≠ greatest ws))

theorem second_lt (h : 0 < greatest ws) : second ws < greatest ws := by
  rcases Nat.eq_zero_or_pos (second ws) with hzero | hpos
  · rwa [hzero]
  · obtain ⟨hmem, hne⟩ := List.mem_filter.mp (greatest_mem hpos)
    exact Nat.lt_of_le_of_ne (le_greatest hmem) (of_decide_eq_true hne)

/-- Columns of which the widest ones are narrowed to the next width, or as far as it takes. -/
def narrowed (room : Nat) (ws : List Nat) : List Nat :=
  let excess := total ws - room
  shrink (min excess (greatest ws - second ws)) (greatest ws) excess (ws.count (greatest ws)) ws

theorem total_narrowed_lt {room : Nat} (h : ¬ total ws ≤ room) :
    total (narrowed room ws) < total ws := by
  have hwidth : 0 < greatest ws := greatest_pos (by omega)
  have hsecond := second_lt hwidth
  exact total_shrink_lt (by omega) hwidth (by omega) (greatest_mem hwidth)

end Widths

/-- Columns that are narrowed until there is room for them. -/
def fit (room : Nat) (ws : List Nat) : List Nat :=
  if _ : total ws ≤ room then ws else fit room (narrowed room ws)
termination_by total ws
decreasing_by exact total_narrowed_lt ‹_›

theorem total_fit_le (room : Nat) (ws : List Nat) : total (fit room ws) ≤ room := by
  induction ws using fit.induct room with
  | case1 ws h => rwa [fit, dif_pos h]
  | case2 ws h ih => rwa [fit, dif_neg h]

/-- The cells of the edges, and of what stands between the columns. -/
def frame (t : Table) : Nat := t.heads.length + 1

/-- The cells of the longest text of each column, with a space at both sides. -/
def wanted (t : Table) : List Nat :=
  let texts := t.rows.foldl (fun ws row => ws.zipWith (fun w s => max w (Console.width s.toList)) row)
    (t.heads.map fun s => Console.width s.toList)
  texts.map (· + 2)

/-- The widths of the columns on a console of the given width. -/
def widths (t : Table) (columns : Nat) : List Nat :=
  let room := columns - t.frame
  fit room (t.wanted.map fun w => max 1 (min room w))

/-- A table fits on every console that has room for its frame. -/
theorem total_widths_le (t : Table) {columns : Nat} (h : t.frame ≤ columns) :
    total (t.widths columns) + t.frame ≤ columns := by
  have hfit := total_fit_le (columns - t.frame)
    (t.wanted.map fun w => max 1 (min (columns - t.frame) w))
  rw [widths]
  omega

/-! ## Cells -/

def padded (room : Nat) (s : List Char) : List Char :=
  s ++ List.replicate (room - Console.width s) ' '

/-- A line that ends in an ellipsis if there is no room for all of it. -/
def shortened (room : Nat) (line : List Char) : List Char :=
  if room < Console.width line then padded (room - 1) (Console.cropCells (room - 1) line) ++ ['…']
  else padded room line

/-- Places a word that is never broken. -/
def placeWhole (room : Nat) (b : Console.Broken) (word : List Char) : Console.Broken :=
  if b.cells + Console.width (Console.trimEnd word) ≤ room then b.append word
  else b.break.append word

/-- The lines of a text in a column. A column without room for a character shows none. -/
def cellLines (column : Nat) (s : String) : List (List Char) :=
  let room := column - 2
  if room = 0 then []
  else
    let b := (Console.words s.toList).foldl (placeWhole room) {}
    let lines := if b.lines.isEmpty then [s.toList] else b.lines ++ [b.current]
    lines.map fun line => ' ' :: shortened room (Console.cropBlanks room line) ++ [' ']

/-! ## Lines -/

/-- The characters of a line that goes across. -/
structure Rule where
  left : Char
  fill : Char
  middle : Char
  right : Char

def rule (ws : List Nat) (r : Rule) : List Char :=
  let spans := ws.map fun w => List.replicate w r.fill
  r.left :: [r.middle].intercalate spans ++ [r.right]

def bars (bar : Char) (cells : List (List Char)) : List Char :=
  bar :: cells.flatMap fun c => c ++ [bar]

/-- The lines of a row. Texts with fewer lines than others stand above the empty ones, or below
them. -/
def rowLines (ws : List Nat) (bar : Char) (below : Bool) (texts : List String) : List (List Char) :=
  let cells := ws.zipWith cellLines texts
  let height := max 1 (greatest (cells.map List.length))
  let shaped := ws.zipWith (fun w lines =>
    let blanks := List.replicate (height - lines.length) (List.replicate w ' ')
    if below then blanks ++ lines else lines ++ blanks) cells
  (List.range height).map fun i => bars bar (shaped.map (·.getD i []))

/-- A line in the middle of a room. -/
def centered (room : Nat) (line : List Char) : List Char :=
  let s := Console.trimEnd line
  padded room (List.replicate ((room - Console.width s) / 2) ' ' ++ s)

def titleLines (t : Table) (room : Nat) : List (List Char) :=
  if t.title = "" then [] else (Console.wrap room t.title.toList).map (centered room)

/-- The lines of a table on a console of the given width. -/
def lines (t : Table) (columns : Nat) : List String :=
  let ws := t.widths columns
  (t.titleLines (total ws + t.frame) ++ [rule ws ⟨'┏', '━', '┳', '┓'⟩] ++
    rowLines ws '┃' true t.heads ++ [rule ws ⟨'┡', '━', '╇', '┩'⟩] ++
    t.rows.flatMap (rowLines ws '│' false) ++ [rule ws ⟨'└', '─', '┴', '┘'⟩]).map fun line =>
      String.ofList (Console.cropCells columns line)

end Cloister.Table
