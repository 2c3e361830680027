import Cloister.Proofs.Text.Json
import Mathlib.Data.List.TakeWhile

/-! # Values read back from JSON text

A value that holds no binary number, and no object with a name twice, is read back from its text, with
a character in the place of every two halves of a pair that stand together. The text is a single line
of ASCII.

* `Json.joined`: a value with its texts joined.
* `Json.Faithful`: the values that are read back.
* `Json.isAsciiLine_written`: their text is a line of ASCII.
* `Json.Reader.unsigned_toDigits`, `Json.Reader.number_toString`: whole numbers are read back.
* `Json.Reader.Reads`: a value is read back, whatever stands behind it.
* `Json.read?_written`: the whole text of a value is read as the value.
-/

namespace Cloister.Json
set_option autoImplicit false

mutual

/-- A value whose texts are joined. -/
def joined : Json → Json
  | text s => text (Text.joined s)
  | list js => list (joinedItems js)
  | object fs => object (joinedFields fs)
  | j => j

def joinedItems : List Json → List Json
  | [] => []
  | j :: js => joined j :: joinedItems js

def joinedFields : List (Text.Points × Json) → List (Text.Points × Json)
  | [] => []
  | (k, j) :: fs => (k, joined j) :: joinedFields fs

end

theorem map_fst_joinedFields (fs : List (Text.Points × Json)) :
    (joinedFields fs).map Prod.fst = fs.map Prod.fst := by
  induction fs with
  | nil => rfl
  | cons f fs ih => rw [joinedFields, List.map_cons, List.map_cons, ih]

/-- Values that hold no binary number, and no object with a name twice or with halves of a pair in a
name that stand together. -/
inductive Faithful : Json → Prop
  | null : Faithful .null
  | bool (b : Bool) : Faithful (.bool b)
  | int (n : Int) : Faithful (.int n)
  | text (s : Text.Points) : Faithful (.text s)
  | list {js : List Json} (items : ∀ j ∈ js, Faithful j) : Faithful (.list js)
  | object {fs : List (Text.Points × Json)} (names : (fs.map Prod.fst).Nodup)
      (whole : ∀ f ∈ fs, Text.joined f.1 = f.1) (fields : ∀ f ∈ fs, Faithful f.2) :
      Faithful (.object fs)

namespace Reader

/-! ## Whole numbers -/

/-- What may stand behind a number: nothing that carries it on. -/
def Ends (rest : List Char) : Prop :=
  ∀ c ∈ rest.head?, c.isDigit = false ∧ c ≠ '.' ∧ c ≠ 'e' ∧ c ≠ 'E'

section Numbers
variable {n : Nat} {rest : List Char}

theorem ends_nil : Ends [] := nofun

theorem ends_cons {c : Char} (h : c.isDigit = false ∧ c ≠ '.' ∧ c ≠ 'e' ∧ c ≠ 'E')
    (rest : List Char) : Ends (c :: rest) := by
  intro x hx
  rw [List.head?_cons, Option.mem_some_iff] at hx
  exact hx ▸ h

theorem ne_of_isDigit {c x : Char} (hc : c.isDigit = true) (hx : x.isDigit = false) : c ≠ x := by
  rintro rfl
  exact absurd (hc.symm.trans hx) (by decide)

theorem isDigit_of_mem {c : Char} (h : c ∈ Nat.toDigits 10 n) : c.isDigit = true :=
  Nat.isDigit_of_mem_toDigits (by decide) (by decide) h

theorem exists_toDigits_eq (n : Nat) :
    ∃ c cs, c.isDigit = true ∧ Nat.toDigits 10 n = c :: cs := by
  obtain ⟨c, cs, h⟩ := List.exists_cons_of_ne_nil (Nat.toDigits_ne_nil (b := 10) (n := n))
  exact ⟨c, cs, isDigit_of_mem (h ▸ List.mem_cons_self), h⟩

theorem digitsValue_toDigits (n : Nat) : digitsValue (Nat.toDigits 10 n) = n :=
  Nat.ofDigitChars_eq_foldl.symm.trans Nat.ofDigitChars_ten_toDigits

theorem takeWhile_toDigits_append (h : Ends rest) :
    (Nat.toDigits 10 n ++ rest).takeWhile Char.isDigit = Nat.toDigits 10 n := by
  have hrest : rest.takeWhile Char.isDigit = [] := by
    cases rest with
    | nil => rfl
    | cons c rest => rw [List.takeWhile_cons, (h c rfl).1, if_neg Bool.false_ne_true]
  rw [List.takeWhile_append_of_pos fun _ => isDigit_of_mem, hrest, List.append_nil]

/-- A number other than zero does not start with a zero. -/
theorem exists_toDigits_eq_cons (h : 0 < n) :
    ∃ c cs, Nat.toDigits 10 n = c :: cs ∧ c ≠ '0' := by
  induction n using Nat.strong_induction_on with
  | _ n ih =>
    by_cases hsmall : n < 10
    · have hall : ∀ m < 10, 0 < m → m.digitChar ≠ '0' := by decide
      exact ⟨n.digitChar, [], Nat.toDigits_of_lt_base hsmall, hall n hsmall h⟩
    -- the first digit is that of the number without its last one
    · obtain ⟨c, cs, hdigits, hc⟩ := ih (n / 10) (by omega) (by omega)
      refine ⟨c, cs ++ [(n % 10).digitChar], ?_, hc⟩
      rw [Nat.toDigits_of_base_le (by decide) (by omega), hdigits, List.cons_append]

theorem wholeDigits_toDigits_append (h : Ends rest) :
    wholeDigits (Nat.toDigits 10 n ++ rest) = Nat.toDigits 10 n := by
  rcases Nat.eq_zero_or_pos n with rfl | hn
  · rfl
  · obtain ⟨c, cs, hdigits, hc⟩ := exists_toDigits_eq_cons hn
    have htake := takeWhile_toDigits_append (n := n) h
    rw [hdigits, List.cons_append] at htake ⊢
    rw [wholeDigits, htake]
    simpa using hc

theorem fraction_of_ends (h : Ends rest) : fraction rest = ([], rest) := by
  unfold fraction
  split
  · exact absurd rfl (h '.' rfl).2.1
  · rfl

theorem exponent_of_ends (h : Ends rest) : exponent rest = (none, rest) := by
  cases rest with
  | nil => rfl
  | cons c rest =>
    obtain ⟨-, -, he, hE⟩ := h c rfl
    simp only [exponent, he, hE, or_self, false_and, if_false]

theorem unsigned_toDigits (negative : Bool) (n : Nat) (h : Ends rest) :
    unsigned negative (Nat.toDigits 10 n ++ rest) =
      some (.int (if negative then -n else n), rest) := by
  have hne : (Nat.toDigits 10 n).isEmpty = false := List.isEmpty_eq_false_iff.mpr Nat.toDigits_ne_nil
  simp only [unsigned, wholeDigits_toDigits_append h, List.drop_left, fraction_of_ends h,
    exponent_of_ends h, hne, digitsValue_toDigits, List.isEmpty_nil, Option.isNone_none,
    Bool.and_self, if_true, Bool.false_eq_true, if_false]

theorem toString_ofNat (n : Nat) : (toString (n : Int)).toList = Nat.toDigits 10 n := by
  change (toString n).toList = _
  rw [Nat.toString_eq_ofList_toDigits, String.toList_ofList]

theorem toString_negSucc (n : Nat) :
    (toString (Int.negSucc n)).toList = '-' :: Nat.toDigits 10 (n + 1) := by
  change ("-" ++ toString (n + 1)).toList = _
  rw [String.toList_append, Nat.toString_eq_ofList_toDigits]
  exact congrArg ('-' :: ·) String.toList_ofList

/-- The text of a whole number starts with a digit, or with a sign and a digit. -/
theorem exists_toString_eq (n : Int) :
    ∃ c cs, c.isDigit = true ∧
      ((toString n).toList = c :: cs ∨ (toString n).toList = '-' :: c :: cs) := by
  cases n with
  | ofNat m =>
    obtain ⟨c, cs, hc, h⟩ := exists_toDigits_eq m
    exact ⟨c, cs, hc, .inl ((toString_ofNat m).trans h)⟩
  | negSucc m =>
    obtain ⟨c, cs, hc, h⟩ := exists_toDigits_eq (m + 1)
    exact ⟨c, cs, hc, .inr (by rw [toString_negSucc, h])⟩

theorem number_toString (n : Int) (h : Ends rest) :
    number ((toString n).toList ++ rest) = some (.int n, rest) := by
  cases n with
  | ofNat m =>
    have hread := unsigned_toDigits false m h
    obtain ⟨c, cs, hc, hdigits⟩ := exists_toDigits_eq m
    have hsign : c ≠ '-' := ne_of_isDigit hc rfl
    rw [Int.ofNat_eq_natCast, toString_ofNat, hdigits, List.cons_append]
    rw [hdigits, List.cons_append] at hread
    simp [number, hsign, hread]
  | negSucc m =>
    rw [toString_negSucc, List.cons_append, number, unsigned_toDigits true (m + 1) h]
    rfl

theorem isPrefixOf?_cons (a b : Char) (as bs : List Char) :
    (a :: as).isPrefixOf? (b :: bs) = if a == b then as.isPrefixOf? bs else none := rfl

/-- No word starts like a number. -/
theorem word?_toString (n : Int) (rest : List Char) :
    word? ((toString n).toList ++ rest) = none := by
  obtain ⟨c, cs, hc, h⟩ := exists_toString_eq n
  have hother {x : Char} (hx : x.isDigit = false) : (x == c) = false :=
    beq_eq_false_iff_ne.mpr (ne_of_isDigit hc hx).symm
  have hn := hother (x := 'n') rfl
  have ht := hother (x := 't') rfl
  have hf := hother (x := 'f') rfl
  have hN := hother (x := 'N') rfl
  have hI := hother (x := 'I') rfl
  have hsign := hother (x := '-') rfl
  rcases h with h | h <;> rw [h]
  · simp [word?, words, isPrefixOf?_cons, hn, ht, hf, hN, hI, hsign]
  · simp [word?, words, isPrefixOf?_cons, hI]

end Numbers

/-! ## Values -/

theorem skip_of_not_space {c : Char} (h : isSpace c = false) (s : List Char) :
    skip (c :: s) = c :: s := by
  rw [skip, List.dropWhile_cons, h, if_neg Bool.false_ne_true]

theorem value_space (fuel : Nat) (s : List Char) : value fuel (' ' :: s) = value fuel s := by
  cases fuel with
  | zero => rfl
  | succ fuel => rw [value, value]; rfl

theorem items_space (fuel : Nat) (s : List Char) : items fuel (' ' :: s) = items fuel s := by
  cases fuel with
  | zero => rfl
  | succ fuel => rw [items, items, value_space]

theorem members_space (fuel : Nat) (s : List Char) : members fuel (' ' :: s) = members fuel s := by
  cases fuel with
  | zero => rfl
  | succ fuel => rw [members, members]; rfl

theorem isSpace_of_isDigit {c : Char} (h : c.isDigit = true) : isSpace c = false := by
  have hne {x : Char} (hx : x.isDigit = false) : (c == x) = false :=
    beq_eq_false_iff_ne.mpr (ne_of_isDigit h hx)
  rw [isSpace, hne rfl, hne rfl, hne rfl, hne rfl]
  rfl

/-- What starts neither a text nor a list nor an object is a word or a number. -/
theorem value_of_other {c : Char} (hspace : isSpace c = false) (hquote : c ≠ '"') (hlist : c ≠ '[')
    (hobject : c ≠ '\x7b') (fuel : Nat) (s : List Char) :
    value (fuel + 1) (c :: s) = (word? (c :: s)).or (number (c :: s)) := by
  rw [value, skip_of_not_space hspace]
  split <;> simp_all

theorem value_of_list {c : Char} (hspace : isSpace c = false) (hclose : c ≠ ']') (fuel : Nat)
    (s : List Char) :
    value (fuel + 1) ('[' :: c :: s) = (items fuel (c :: s)).map fun p => (.list p.1, p.2) := by
  rw [value, skip_of_not_space rfl]
  simp only [skip_of_not_space hspace]
  split
  · simp_all
  · rfl

theorem value_of_object (fuel : Nat) (s : List Char) :
    value (fuel + 1) ('\x7b' :: '"' :: s) =
      (members fuel ('"' :: s)).map fun p => (.object p.1, p.2) := by
  rw [value]
  rfl

/-- A value is read back from its text, whatever stands behind it that does not carry on a number.
Every step takes a character at least. -/
def Reads (j : Json) : Prop :=
  ∀ (fuel : Nat) (rest : List Char), (written j).length ≤ fuel → Ends rest →
    value fuel (written j ++ rest) = some (joined j, rest)

/-- The text of a value starts with a character that starts nothing else. -/
theorem exists_written_eq_cons {j : Json} (h : j.Faithful) :
    ∃ c cs, written j = c :: cs ∧ isSpace c = false ∧ c ≠ ']' := by
  cases h with
  | null => exact ⟨_, _, rfl, rfl, by decide⟩
  | bool b => cases b <;> exact ⟨_, _, rfl, rfl, by decide⟩
  | int n =>
    obtain ⟨c, cs, hc, h | h⟩ := exists_toString_eq n
    · exact ⟨c, cs, h, isSpace_of_isDigit hc, ne_of_isDigit hc rfl⟩
    · exact ⟨_, _, h, rfl, by decide⟩
  | text s => exact ⟨_, _, rfl, rfl, by decide⟩
  | @list js items => cases js <;> exact ⟨_, _, rfl, rfl, by decide⟩
  | @object fs names whole fields => cases fs <;> exact ⟨_, _, rfl, rfl, by decide⟩

theorem exists_fuel {j : Json} (h : j.Faithful) {fuel : Nat} (hfuel : (written j).length ≤ fuel) :
    ∃ k, fuel = k + 1 := by
  obtain ⟨c, cs, hwritten, -⟩ := exists_written_eq_cons h
  rw [hwritten, List.length_cons] at hfuel
  exact ⟨fuel - 1, by omega⟩

theorem reads_word {j : Json} {w : List Char} (h : j.Faithful) (hwritten : written j = w)
    (hread : ∀ (fuel : Nat) (rest : List Char),
      value (fuel + 1) (w ++ rest) = some (joined j, rest)) : Reads j := by
  intro fuel rest hfuel _
  obtain ⟨k, rfl⟩ := exists_fuel h hfuel
  rw [hwritten, hread]

theorem reads_text (s : Text.Points) : Reads (.text s) := by
  intro fuel rest hfuel _
  obtain ⟨body, hbody, hread⟩ := Text.string_jsonString s rest
  obtain ⟨k, rfl⟩ := exists_fuel (.text s) hfuel
  rw [written, hbody, List.cons_append, value, skip_of_not_space rfl]
  simp only [hread, Option.map_some, joined]

theorem reads_int (n : Int) : Reads (.int n) := by
  intro fuel rest hfuel hrest
  have hread := number_toString n hrest
  have hword := word?_toString n rest
  obtain ⟨k, rfl⟩ := exists_fuel (.int n) hfuel
  rw [written]
  obtain ⟨c, cs, hc, h | h⟩ := exists_toString_eq n <;> rw [h, List.cons_append] at hread hword ⊢
  · rw [value_of_other (isSpace_of_isDigit hc) (ne_of_isDigit hc rfl) (ne_of_isDigit hc rfl)
      (ne_of_isDigit hc rfl), hword, hread]
    rfl
  · rw [value_of_other rfl (by decide) (by decide) (by decide), hword, hread]
    rfl

/-! ## Items and fields -/

theorem ends_writtenItems (js : List Json) (rest : List Char) : Ends (writtenItems js ++ rest) := by
  cases js <;> exact ends_cons (by decide) _

theorem ends_writtenFields (fs : List (Text.Points × Json)) (rest : List Char) :
    Ends (writtenFields fs ++ rest) := by
  cases fs <;> exact ends_cons (by decide) _

section Items
variable {j : Json} {tail more left : List Char} {k : Nat}

theorem items_of_comma (hj : Reads j) (htail : Ends tail) (hk : (written j).length ≤ k)
    (hskip : skip tail = ',' :: more) :
    items (k + 1) (written j ++ tail) = (items k more).map fun p => (joined j :: p.1, p.2) := by
  rw [items, hj k tail hk htail]
  simp only [hskip]

theorem items_of_close (hj : Reads j) (htail : Ends tail) (hk : (written j).length ≤ k)
    (hskip : skip tail = ']' :: left) :
    items (k + 1) (written j ++ tail) = some ([joined j], left) := by
  rw [items, hj k tail hk htail]
  simp only [hskip]

end Items

/-- The items of a list are read back up to its end. -/
theorem items_written {js : List Json} (hjs : ∀ x ∈ js, Reads x) {j : Json} (hj : Reads j)
    (fuel : Nat) (rest : List Char)
    (hfuel : (written j).length + (writtenItems js).length ≤ fuel) :
    items fuel (written j ++ (writtenItems js ++ rest)) =
      some (joined j :: joinedItems js, rest) := by
  -- each item in turn is the one in front of those that are left
  induction js generalizing j fuel with
  | nil =>
    rw [writtenItems, List.length_singleton] at hfuel
    obtain ⟨k, rfl⟩ : ∃ k, fuel = k + 1 := ⟨fuel - 1, by omega⟩
    exact items_of_close hj (ends_writtenItems [] rest) (by omega) rfl
  | cons e es ih =>
    obtain ⟨he, hes⟩ := List.forall_mem_cons.mp hjs
    simp only [writtenItems, List.length_append, List.length_cons] at hfuel
    obtain ⟨k, rfl⟩ : ∃ k, fuel = k + 1 := ⟨fuel - 1, by omega⟩
    have htail : skip (writtenItems (e :: es) ++ rest) =
        ',' :: ' ' :: (written e ++ (writtenItems es ++ rest)) := by
      simp only [writtenItems, List.cons_append, List.append_assoc,
        skip_of_not_space (c := ',') rfl]
    rw [items_of_comma hj (ends_writtenItems (e :: es) rest) (by omega) htail, items_space,
      ih hes he k (by omega), Option.map_some, joinedItems]

theorem addField_of_notMem {name : Text.Points} {fs : List (Text.Points × Json)}
    (h : name ∉ fs.map Prod.fst) (j : Json) : addField name j fs = (name, j) :: fs := by
  have hlookup : fs.lookup name = none := by
    rw [List.lookup_eq_none_iff]
    intro f hf
    refine bne_iff_ne.mpr fun he => h ?_
    rw [he]
    exact List.mem_map_of_mem hf
  rw [addField, hlookup]

section Fields
variable {name : Text.Points} {j : Json} {tail more left : List Char} {k : Nat}

theorem members_of_comma (hname : Text.joined name = name) (hj : Reads j) (htail : Ends tail)
    (hk : (written j).length ≤ k) (hskip : skip tail = ',' :: more) :
    members (k + 1) (Text.jsonString name ++ ':' :: ' ' :: (written j ++ tail)) =
      (members k more).map fun p => (addField name (joined j) p.1, p.2) := by
  obtain ⟨body, hbody, hread⟩ := Text.string_jsonString name (':' :: ' ' :: (written j ++ tail))
  rw [hname] at hread
  rw [members, hbody, List.cons_append, skip_of_not_space rfl]
  simp only [hread, skip_of_not_space (c := ':') rfl, value_space, hj k tail hk htail, hskip]

theorem members_of_close (hname : Text.joined name = name) (hj : Reads j) (htail : Ends tail)
    (hk : (written j).length ≤ k) (hskip : skip tail = '\x7d' :: left) :
    members (k + 1) (Text.jsonString name ++ ':' :: ' ' :: (written j ++ tail)) =
      some ([(name, joined j)], left) := by
  obtain ⟨body, hbody, hread⟩ := Text.string_jsonString name (':' :: ' ' :: (written j ++ tail))
  rw [hname] at hread
  rw [members, hbody, List.cons_append, skip_of_not_space rfl]
  simp only [hread, skip_of_not_space (c := ':') rfl, value_space, hj k tail hk htail, hskip]

end Fields

/-- The fields of an object are read back up to its end. -/
theorem members_written {fs : List (Text.Points × Json)} (hfs : ∀ f ∈ fs, Reads f.2)
    {name : Text.Points} {j : Json} (hj : Reads j) (hnames : (name :: fs.map Prod.fst).Nodup)
    (hwhole : ∀ n ∈ name :: fs.map Prod.fst, Text.joined n = n) (fuel : Nat) (rest : List Char)
    (hfuel : (written j).length + (writtenFields fs).length ≤ fuel) :
    members fuel
        (Text.jsonString name ++ ':' :: ' ' :: (written j ++ (writtenFields fs ++ rest))) =
      some ((name, joined j) :: joinedFields fs, rest) := by
  induction fs generalizing name j fuel with
  | nil =>
    rw [writtenFields, List.length_singleton] at hfuel
    obtain ⟨k, rfl⟩ : ∃ k, fuel = k + 1 := ⟨fuel - 1, by omega⟩
    exact members_of_close (hwhole name List.mem_cons_self) hj (ends_writtenFields [] rest)
      (by omega) rfl
  | cons f fs ih =>
    obtain ⟨next, e⟩ := f
    obtain ⟨he, hfs⟩ := List.forall_mem_cons.mp hfs
    obtain ⟨hnew, hnames⟩ := List.nodup_cons.mp hnames
    obtain ⟨hname, hwhole⟩ := List.forall_mem_cons.mp hwhole
    simp only [writtenFields, List.length_append, List.length_cons] at hfuel
    obtain ⟨k, rfl⟩ : ∃ k, fuel = k + 1 := ⟨fuel - 1, by omega⟩
    have htail : skip (writtenFields ((next, e) :: fs) ++ rest) = ',' :: ' ' ::
        (Text.jsonString next ++ ':' :: ' ' :: (written e ++ (writtenFields fs ++ rest))) := by
      simp only [writtenFields, List.cons_append, List.append_assoc,
        skip_of_not_space (c := ',') rfl]
    have hmore := ih hfs he hnames hwhole k (by dsimp only; omega)
    have hnotMem : name ∉ ((next, joined e) :: joinedFields fs).map Prod.fst := by
      rwa [List.map_cons, map_fst_joinedFields]
    rw [members_of_comma hname hj (ends_writtenFields ((next, e) :: fs) rest) (by omega) htail,
      members_space, hmore, Option.map_some, addField_of_notMem hnotMem, joinedFields]

/-! ## All values -/

theorem reads_list {j : Json} {js : List Json} (h : j.Faithful) (hjs : ∀ x ∈ j :: js, Reads x) :
    Reads (.list (j :: js)) := by
  intro fuel rest hfuel _
  obtain ⟨hj, hjs⟩ := List.forall_mem_cons.mp hjs
  obtain ⟨c, cs, hwritten, hspace, hclose⟩ := exists_written_eq_cons h
  simp only [written, List.length_append, List.length_cons] at hfuel
  obtain ⟨k, rfl⟩ : ∃ k, fuel = k + 1 := ⟨fuel - 1, by omega⟩
  have hitems := items_written hjs hj k rest (by omega)
  rw [written, List.cons_append, List.cons_append, List.append_assoc]
  rw [hwritten, List.cons_append] at hitems ⊢
  rw [value_of_list hspace hclose, hitems, Option.map_some, joined, joinedItems]

theorem reads_object {name : Text.Points} {j : Json} {fs : List (Text.Points × Json)}
    (hnames : (name :: fs.map Prod.fst).Nodup)
    (hwhole : ∀ n ∈ name :: fs.map Prod.fst, Text.joined n = n) (hj : Reads j)
    (hfs : ∀ f ∈ fs, Reads f.2) : Reads (.object ((name, j) :: fs)) := by
  intro fuel rest hfuel _
  simp only [written, List.length_append, List.length_cons] at hfuel
  obtain ⟨k, rfl⟩ : ∃ k, fuel = k + 1 := ⟨fuel - 1, by omega⟩
  have hfields := members_written hfs hj hnames hwhole k rest (by omega)
  obtain ⟨body, hbody, -⟩ := Text.string_jsonString name []
  simp only [written, List.cons_append, List.append_assoc]
  rw [hbody, List.cons_append] at hfields ⊢
  rw [value_of_object, hfields, Option.map_some, joined, joinedFields]

/-- Every value without binary numbers and repeated names is read back. -/
theorem reads {j : Json} (h : j.Faithful) : Reads j := by
  induction h with
  | null => exact reads_word .null rfl fun _ _ => rfl
  | bool b =>
    cases b with
    | true => exact reads_word (.bool true) rfl fun _ _ => rfl
    | false => exact reads_word (.bool false) rfl fun _ _ => rfl
  | int n => exact reads_int n
  | text s => exact reads_text s
  | @list js items ih =>
    cases js with
    | nil => exact reads_word (.list nofun) rfl fun _ _ => rfl
    | cons j js => exact reads_list (items j List.mem_cons_self) ih
  | @object fs names whole fields ih =>
    cases fs with
    | nil => exact reads_word (.object .nil nofun nofun) rfl fun _ _ => rfl
    | cons f fs =>
      obtain ⟨hj, hfs⟩ := List.forall_mem_cons.mp ih
      have hwhole : ∀ n ∈ (f :: fs).map Prod.fst, Text.joined n = n :=
        List.forall_mem_map.mpr whole
      exact reads_object names hwhole hj hfs

end Reader

/-! ## Whole texts -/

theorem isAsciiLine_writtenItems {js : List Json} (h : ∀ j ∈ js, Text.IsAsciiLine (written j)) :
    Text.IsAsciiLine (writtenItems js) := by
  induction js with
  | nil => decide
  | cons j js ih =>
    obtain ⟨hj, hjs⟩ := List.forall_mem_cons.mp h
    simp only [writtenItems, Text.isAsciiLine_cons, Text.isAsciiLine_append, List.cons_append, hj,
      ih hjs]
    decide

theorem isAsciiLine_writtenFields {fs : List (Text.Points × Json)}
    (h : ∀ f ∈ fs, Text.IsAsciiLine (written f.2)) : Text.IsAsciiLine (writtenFields fs) := by
  induction fs with
  | nil => decide
  | cons f fs ih =>
    obtain ⟨hf, hfs⟩ := List.forall_mem_cons.mp h
    simp only [writtenFields, Text.isAsciiLine_cons, Text.isAsciiLine_append, List.cons_append, hf,
      Text.isAsciiLine_jsonString, ih hfs]
    decide

theorem isAsciiLine_toString (n : Int) : Text.IsAsciiLine (toString n).toList := by
  have hdigits (m : Nat) : Text.IsAsciiLine (Nat.toDigits 10 m) := by
    intro c hc
    have hdigit := Reader.isDigit_of_mem hc
    simp only [Char.isDigit, Bool.and_eq_true, decide_eq_true_eq] at hdigit
    change 48 ≤ c.toNat ∧ c.toNat ≤ 57 at hdigit
    omega
  cases n with
  | ofNat m =>
    rw [Int.ofNat_eq_natCast, Reader.toString_ofNat]
    exact hdigits m
  | negSucc m =>
    rw [Reader.toString_negSucc]
    exact Text.isAsciiLine_cons.mpr ⟨by decide, hdigits (m + 1)⟩

/-- The text of a value is a line of ASCII, whatever texts are in the value. -/
theorem isAsciiLine_written {j : Json} (h : j.Faithful) : Text.IsAsciiLine (written j) := by
  induction h with
  | null => decide
  | bool b => cases b <;> decide
  | int n => exact isAsciiLine_toString n
  | text s => exact Text.isAsciiLine_jsonString s
  | @list js items ih =>
    cases js with
    | nil => decide
    | cons j js =>
      obtain ⟨hj, hjs⟩ := List.forall_mem_cons.mp ih
      simp only [written, Text.isAsciiLine_cons, Text.isAsciiLine_append, hj,
        isAsciiLine_writtenItems hjs]
      decide
  | @object fs names whole fields ih =>
    cases fs with
    | nil => decide
    | cons f fs =>
      obtain ⟨hf, hfs⟩ := List.forall_mem_cons.mp ih
      simp only [written, Text.isAsciiLine_cons, Text.isAsciiLine_append, List.cons_append, hf,
        Text.isAsciiLine_jsonString, isAsciiLine_writtenFields hfs]
      decide

/-- The text of a value is read as the value, with its texts joined. -/
theorem read?_written {j : Json} (h : j.Faithful) :
    read? (String.ofList (written j)) = some (joined j) := by
  have hread := Reader.reads h (2 * (written j).length + 2) [] (by omega) Reader.ends_nil
  rw [List.append_nil] at hread
  rw [read?, String.length_ofList, String.toList_ofList, hread]
  rfl

end Cloister.Json
