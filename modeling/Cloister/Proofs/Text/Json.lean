import Cloister.Json.Reader
import Mathlib.Data.List.Chain

/-! # JSON strings read back

A text is written between quotes in printable ASCII only, and it is read back from what is written,
whatever stands behind it. Two halves of a pair that stand together are read as one character.

* `Text.IsAsciiLine`: printable ASCII, so a single line.
* `Text.isAsciiLine_jsonString`: what is written is such a line.
* `Text.joined_flatMap_units`, `Text.joined_eq_self_iff`: what is left of a text in its units.
* `Text.string_jsonString`: what is written is read back.
-/

namespace Cloister.Text
set_option autoImplicit false
open Json.Reader (hexValue? unit? escaped? isControl)

/-- Printable ASCII: no break of lines, no other control character, nothing beyond ASCII. -/
def IsAsciiLine (s : List Char) : Prop := ∀ c ∈ s, 0x20 ≤ c.toNat ∧ c.toNat ≤ 0x7E

instance (s : List Char) : Decidable (IsAsciiLine s) :=
  decidable_of_iff (s.all fun c => decide (0x20 ≤ c.toNat ∧ c.toNat ≤ 0x7E)) (by simp [IsAsciiLine])

section Lines
variable {c : Char} {s t : List Char}

@[simp] theorem isAsciiLine_nil : IsAsciiLine [] := nofun

@[simp] theorem isAsciiLine_cons :
    IsAsciiLine (c :: s) ↔ (0x20 ≤ c.toNat ∧ c.toNat ≤ 0x7E) ∧ IsAsciiLine s :=
  List.forall_mem_cons

@[simp] theorem isAsciiLine_append : IsAsciiLine (s ++ t) ↔ IsAsciiLine s ∧ IsAsciiLine t :=
  List.forall_mem_append

end Lines

/-! ## Hexadecimal digits -/

theorem hexDigit_reads {n : Nat} (h : n < 16) :
    hexValue? (hexDigit n) = some n ∧ 0x20 ≤ (hexDigit n).toNat ∧ (hexDigit n).toNat ≤ 0x7E := by
  have hall : ∀ n < 16, hexValue? (hexDigit n) = some n ∧ 0x20 ≤ (hexDigit n).toNat ∧
      (hexDigit n).toNat ≤ 0x7E := by decide
  exact hall n h

theorem hex_four (n : Nat) :
    hex 4 n = [hexDigit (n / 16 / 16 / 16 % 16), hexDigit (n / 16 / 16 % 16),
      hexDigit (n / 16 % 16), hexDigit (n % 16)] := rfl

variable {p q : Point} {s t : Points}

theorem isAsciiLine_jsonUnit (p : Point) : IsAsciiLine (jsonUnit p) := by
  have hdigit (m : Nat) : 0x20 ≤ (hexDigit (m % 16)).toNat ∧ (hexDigit (m % 16)).toNat ≤ 0x7E :=
    (hexDigit_reads (Nat.mod_lt m (by decide))).2
  rw [jsonUnit, hex_four]
  simp only [isAsciiLine_cons, hdigit, isAsciiLine_nil, and_true]
  decide

/-- The escape of a unit stands for the unit. -/
theorem units_jsonUnit (h : p.val < 0x10000) (rest : List Char) :
    Json.Reader.units (jsonUnit p ++ rest) =
      (Json.Reader.units rest).map fun q => (p :: q.1, q.2) := by
  have hdigit (m : Nat) : hexValue? (hexDigit (m % 16)) = some (m % 16) :=
    (hexDigit_reads (Nat.mod_lt m (by decide))).1
  obtain ⟨n, hn⟩ := p
  dsimp only at h
  have hsum : ((n / 16 / 16 / 16 % 16 * 16 + n / 16 / 16 % 16) * 16 + n / 16 % 16) * 16 + n % 16 =
      n := by omega
  rw [jsonUnit, hex_four]
  simp only [List.cons_append, List.nil_append, Json.Reader.units, unit?, hdigit, hsum, pointAt_eq hn]
  cases Json.Reader.units rest <;> rfl

/-! ## Code points -/

theorem highHalf_isHigh (p : Point) : isHigh (highHalf p) = true := by
  have hp := p.isLt
  rw [isHigh_iff, highHalf]
  dsimp only
  omega

theorem lowHalf_isLow (p : Point) : isLow (lowHalf p) = true := by
  rw [isLow_iff, lowHalf]
  dsimp only
  omega

theorem not_isLow_of_isHigh (h : isHigh p = true) : ¬ isLow p = true := by
  rw [isHigh_iff] at h
  rw [isLow_iff]
  omega

/-- Two halves of a character stand for the character. -/
theorem pair_halves (h : 0x10000 ≤ p.val) : pair (highHalf p) (lowHalf p) = p := by
  have hp := p.isLt
  refine Fin.ext ?_
  simp only [pair, pointAt, highHalf, lowHalf, Fin.val_ofNat]
  omega

/-- The ways in which a code point is written. -/
inductive Written (p : Point) : List Char → Prop
  | mark {c e : Char} (named : pointOf c = p) (reads : escaped? e = some c)
      (basic : p.val < 0x10000) (plain : IsAsciiLine [e]) (short : e ≠ 'u') : Written p ['\\', e]
  | itself {c : Char} (named : pointOf c = p) (plain : IsAsciiLine [c]) (quote : c ≠ '"')
      (slash : c ≠ '\\') : Written p [c]
  | unit (basic : p.val < 0x10000) : Written p (jsonUnit p)
  | pair (beyond : 0x10000 ≤ p.val) : Written p (jsonUnit (highHalf p) ++ jsonUnit (lowHalf p))

theorem written_of_mem_jsonMarks {m : Char × Char} (h : m ∈ jsonMarks) (hp : pointOf m.1 = p) :
    Written p ['\\', m.2] := by
  have hall : ∀ m ∈ jsonMarks, escaped? m.2 = some m.1 ∧ (pointOf m.1).val < 0x10000 ∧
      IsAsciiLine [m.2] ∧ m.2 ≠ 'u' := by decide
  obtain ⟨hreads, hbasic, hplain, hshort⟩ := hall m h
  exact .mark hp hreads (hp ▸ hbasic) hplain hshort

theorem pointOf_ofNat (h : p.val ≤ 0x7E) : pointOf (Char.ofNat p.val) = p := by
  have hvalid : p.val.isValidChar := .inl (by omega)
  refine Fin.ext (?_ : (Char.ofNat p.val).toNat = p.val)
  rw [Char.ofNat, dif_pos hvalid]
  rfl

theorem written_jsonPoint (p : Point) : Written p (jsonPoint p) := by
  unfold jsonPoint
  split
  · rename_i c e hfind
    exact written_of_mem_jsonMarks (List.mem_of_find?_eq_some hfind)
      (by simpa using List.find?_some hfind)
  · rename_i hfind
    rw [List.find?_eq_none] at hfind
    split
    -- what has no mark of its own is neither a quote nor a backslash
    · rename_i hplain
      have hnamed := pointOf_ofNat hplain.2
      have hvalue : (Char.ofNat p.val).toNat = p.val := congrArg Fin.val hnamed
      have hmark {m : Char × Char} (hm : m ∈ jsonMarks) : Char.ofNat p.val ≠ m.1 :=
        fun h => hfind m hm (decide_eq_true (h ▸ hnamed))
      refine .itself hnamed (List.forall_mem_singleton.mpr ?_) (hmark (m := ('"', '"')) ?_)
        (hmark (m := ('\\', '\\')) ?_)
      · rwa [hvalue]
      · decide
      · decide
    · rw [units]
      split
      · rename_i hbasic
        rw [List.flatMap_singleton]
        exact .unit hbasic
      · rename_i hbeyond
        rw [List.flatMap_cons, List.flatMap_singleton]
        exact .pair (Nat.not_lt.mp hbeyond)

theorem Written.isAsciiLine {w : List Char} (h : Written p w) : IsAsciiLine w := by
  cases h with
  | mark _ _ _ plain _ => exact isAsciiLine_cons.mpr ⟨by decide, plain⟩
  | itself _ plain _ _ => exact plain
  | unit _ => exact isAsciiLine_jsonUnit _
  | pair _ => exact isAsciiLine_append.mpr ⟨isAsciiLine_jsonUnit _, isAsciiLine_jsonUnit _⟩

/-- What stands for a code point stands for its units. -/
theorem Written.units_append {w : List Char} (h : Written p w) (rest : List Char) :
    Json.Reader.units (w ++ rest) =
      (Json.Reader.units rest).map fun q => (units p ++ q.1, q.2) := by
  cases h with
  | mark named reads basic _ short =>
    cases h : Json.Reader.units rest <;>
      simp [Json.Reader.units, short, reads, h, units, basic, named]
  | @itself c named plain quote slash =>
    have hplain : 0x20 ≤ c.toNat ∧ c.toNat ≤ 0x7E := plain c (List.mem_singleton_self c)
    have hcontrol : isControl c = false := decide_eq_false (Nat.not_lt.mpr hplain.1)
    have hvalue : c.toNat = p.val := congrArg Fin.val named
    have hbasic : p.val < 0x10000 := by omega
    cases h : Json.Reader.units rest <;>
      simp [Json.Reader.units, slash, hcontrol, h, units, hbasic, named]
  | unit basic => rw [units_jsonUnit basic, units, if_pos basic]; rfl
  | pair beyond =>
    have hhigh : (highHalf p).val < 0x10000 := by have := isHigh_iff.mp (highHalf_isHigh p); omega
    have hlow : (lowHalf p).val < 0x10000 := by have := isLow_iff.mp (lowHalf_isLow p); omega
    rw [List.append_assoc, units_jsonUnit hhigh, units_jsonUnit hlow, Option.map_map, units,
      if_neg (Nat.not_lt.mpr beyond)]
    rfl

/-! ## Halves that stand together -/

/-- A code point stays what it is unless it makes a pair with the one after it. -/
theorem joined_cons (h : ∀ q ∈ t.head?, ¬ (isHigh p = true ∧ isLow q = true)) :
    joined (p :: t) = p :: joined t := by
  cases t with
  | nil => rfl
  | cons q t =>
    rw [joined, if_neg]
    rw [Bool.and_eq_true]
    exact h q rfl

theorem joined_pair (hp : isHigh p = true) (hq : isLow q = true) (t : Points) :
    joined (p :: q :: t) = pair p q :: joined t := by
  rw [joined, hp, hq]
  rfl

theorem head?_flatMap_units (q : Point) (t : Points) :
    ((q :: t).flatMap units).head? = some (if q.val < 0x10000 then q else highHalf q) := by
  rw [List.flatMap_cons, units]
  split <;> rfl

/-- In its units a character is joined, and it makes no pair with what is around it. -/
theorem joined_units_append (h : ∀ q ∈ t.head?, ¬ (isHigh p = true ∧ isLow q = true)) :
    joined (units p ++ t) = p :: joined t := by
  unfold units
  split
  · exact joined_cons h
  · rename_i hbeyond
    rw [List.cons_append, List.singleton_append, joined_pair (highHalf_isHigh p) (lowHalf_isLow p),
      pair_halves (Nat.not_lt.mp hbeyond)]

theorem joined_flatMap_units (s : Points) : joined (s.flatMap units) = joined s := by
  induction s using joined.induct with
  | case1 => rfl
  | case2 p =>
    rw [List.flatMap_singleton, ← List.append_nil (units p), joined_units_append (by simp)]
    rfl
  | case3 p q rest hpair ih =>
    obtain ⟨hp, hq⟩ := Bool.and_eq_true_iff.mp hpair
    have hbasic : p.val < 0x10000 ∧ q.val < 0x10000 := by
      have := isHigh_iff.mp hp
      have := isLow_iff.mp hq
      omega
    rw [List.flatMap_cons, List.flatMap_cons, units, if_pos hbasic.1, units, if_pos hbasic.2,
      List.singleton_append, List.singleton_append, joined_pair hp hq, joined_pair hp hq, ih]
  | case4 p q rest hpair ih =>
    rw [Bool.and_eq_true] at hpair
    have hnext : ∀ x ∈ ((q :: rest).flatMap units).head?,
        ¬ (isHigh p = true ∧ isLow x = true) := by
      rintro x hx ⟨hp, hlow⟩
      rw [head?_flatMap_units, Option.mem_some_iff] at hx
      split at hx
      · exact hpair ⟨hp, hx ▸ hlow⟩
      · exact not_isLow_of_isHigh (highHalf_isHigh q) (hx ▸ hlow)
    rw [List.flatMap_cons, joined_units_append hnext, ih, joined, if_neg]
    rwa [Bool.and_eq_true]

theorem length_joined_le (s : Points) : (joined s).length ≤ s.length := by
  induction s using joined.induct with
  | case1 => exact le_rfl
  | case2 p => exact le_rfl
  | case3 p q rest hpair ih =>
    rw [joined, if_pos hpair]
    simp only [List.length_cons]
    omega
  | case4 p q rest hpair ih =>
    rw [joined, if_neg hpair]
    simp only [List.length_cons] at ih ⊢
    omega

/-- A text stays as it is if no first half stands directly before a second one. -/
theorem joined_eq_self_iff :
    joined s = s ↔ s.IsChain fun p q => ¬ (isHigh p = true ∧ isLow q = true) := by
  induction s using joined.induct with
  | case1 => simp [joined]
  | case2 p => simp [joined]
  | case3 p q rest hpair ih =>
    have hlength := length_joined_le rest
    refine iff_of_false (fun h => ?_) fun h => ?_
    · rw [joined, if_pos hpair] at h
      have hsame := congrArg List.length h
      simp only [List.length_cons] at hsame
      omega
    · exact (List.isChain_cons_cons.mp h).1 (Bool.and_eq_true_iff.mp hpair)
  | case4 p q rest hpair ih =>
    rw [joined, if_neg hpair, List.cons.injEq, ih, List.isChain_cons_cons, ← Bool.and_eq_true]
    simp [hpair]

theorem isHigh_pointOf (c : Char) : isHigh (pointOf c) = false := by
  have hbounds := toNat_bounds c
  rw [Bool.eq_false_iff, Ne, isHigh_iff]
  change ¬ (0xD800 ≤ c.toNat ∧ c.toNat < 0xDC00)
  omega

/-- Characters are no halves. -/
theorem joined_points (s : String) : joined (points s) = points s := by
  have hchain (cs : List Char) :
      (cs.map pointOf).IsChain fun p q => ¬ (isHigh p = true ∧ isLow q = true) := by
    induction cs with
    | nil => exact .nil
    | cons c cs ih =>
      refine List.isChain_cons.mpr ⟨fun q _ h => ?_, ih⟩
      rw [isHigh_pointOf] at h
      exact Bool.false_ne_true h.1
  exact joined_eq_self_iff.mpr (hchain s.toList)

/-! ## Texts -/

theorem units_flatMap_jsonPoint (s : Points) (rest : List Char) :
    Json.Reader.units (s.flatMap jsonPoint ++ '"' :: rest) = some (s.flatMap units, rest) := by
  induction s with
  | nil => rfl
  | cons p s ih =>
    rw [List.flatMap_cons, List.append_assoc, (written_jsonPoint p).units_append, ih,
      List.flatMap_cons, Option.map_some]

theorem isAsciiLine_jsonString (s : Points) : IsAsciiLine (jsonString s) := by
  have hpoints : IsAsciiLine (s.flatMap jsonPoint) := by
    intro c hc
    obtain ⟨p, -, hc⟩ := List.mem_flatMap.mp hc
    exact (written_jsonPoint p).isAsciiLine c hc
  exact isAsciiLine_append.mpr
    ⟨isAsciiLine_cons.mpr ⟨by decide, hpoints⟩, isAsciiLine_cons.mpr ⟨by decide, isAsciiLine_nil⟩⟩

/-- A text is read back from what is written for it after the opening quote. -/
theorem string_jsonString (s : Points) (rest : List Char) :
    ∃ body, jsonString s = '"' :: body ∧
      Json.Reader.string (body ++ rest) = some (joined s, rest) := by
  refine ⟨s.flatMap jsonPoint ++ ['"'], rfl, ?_⟩
  rw [List.append_assoc, List.singleton_append, Json.Reader.string, units_flatMap_jsonPoint,
    Option.map_some]
  dsimp only
  rw [joined_flatMap_units]

end Cloister.Text
