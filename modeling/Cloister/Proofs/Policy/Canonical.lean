import Cloister.Proofs.Policy.Wording

/-! # Lists of entries in canonical form

Whatever texts entries are given in, they are listed in one form, which can be written down as a text
and read back.

* `Entries.ofText_append`: a comma between two texts keeps their entries apart.
* `Entries.parse_intercalate_parse`: a list of entries that is written with commas is read back.
* `Entries.mem_parse_rejoined`: entries can be written in any order and number, in two texts.
* `Entries.parse_canonical`: all of this, for entries and for tokens.
-/

namespace Cloister
set_option autoImplicit false

namespace Entries

open Text (pieces)

/-! ## Pieces between commas -/

theorem pieces_append (s t : String) :
    pieces comma (s ++ "," ++ t) = pieces comma s ++ pieces comma t := by
  have hcomma : (s ++ "," ++ t).toList = s.toList ++ comma :: t.toList := by
    rw [String.toList_append, String.toList_append, List.append_assoc]
    rfl
  rw [pieces, hcomma, Text.cut_append, List.map_append]
  rfl

theorem comma_notMem_of_mem_pieces {s p : String} (h : p ∈ pieces comma s) : comma ∉ p.toList := by
  obtain ⟨q, hq, rfl⟩ := List.mem_map.mp h
  rw [String.toList_ofList]
  exact Text.sep_notMem_of_mem_cut hq

theorem pieces_ne_nil (s : String) : pieces comma s ≠ [] := by
  simp [pieces, Text.cut_ne_nil]

theorem intercalate_eq_join (ps : List String) : ",".intercalate ps = Text.join comma ps :=
  (Text.join_eq_intercalate comma ps).symm

theorem intercalate_pieces (s : String) : ",".intercalate (pieces comma s) = s := by
  have hpieces : (pieces comma s).map String.toList = Text.cut comma s.toList := by
    rw [pieces, List.map_map]
    simp
  rw [intercalate_eq_join, ← String.toList_inj, Text.toList_join, hpieces, Text.glue_cut]

/-! ## Entries of texts -/

theorem filled_append (xs ys : List String) : filled (xs ++ ys) = filled xs ++ filled ys := by
  rw [filled, filled, filled, List.map_append, List.filter_append]

/-- A comma between two texts keeps their entries apart. -/
theorem ofText_append (s t : String) : ofText (s ++ "," ++ t) = ofText s ++ ofText t := by
  rw [ofText, pieces_append, filled_append, ofText, ofText]

theorem toList_parse (sources : List (Option String)) :
    (parse sources).toList =
      (((sources.flatMap fun s => pieces comma (s.getD "")).map Text.trim).filter
        (· ≠ "")).eraseDups := by
  rw [parse, Distinct.toList_ofList, List.map_flatMap, List.filter_flatMap]
  rfl

theorem ofText_intercalate {words : List String} (h : ∀ w ∈ words, IsWord w) :
    ofText (",".intercalate words) = words := by
  rw [intercalate_eq_join, ofText_join h]

/-- A list of entries that is written with commas is read back. -/
theorem parse_intercalate_parse (sources : List (Option String)) :
    parse [some (",".intercalate (parse sources).toList)] = parse sources := by
  have hwords : ∀ w ∈ (parse sources).toList, IsWord w := fun w hw => isWord_of_mem_parse hw
  rw [parse, List.flatMap_singleton, Option.getD_some, ofText_intercalate hwords,
    Distinct.ofList_toList]

theorem parse_append (a b : String) : parse [some a, some b] = parse [some (a ++ "," ++ b)] := by
  simp [parse, ofText_append]

theorem parse_append_none (a b : Option String) :
    parse [some (a.getD "" ++ "," ++ b.getD ""), none] = parse [a, b] := by
  have hnone : ofText "" = [] := by decide
  simp [parse, ofText_append, hnone]

/-- Entries can be written in any order and number, in two texts. -/
theorem mem_parse_rejoined {sources : List (Option String)} {front back : List String}
    (h : ∀ e, e ∈ front ∨ e ∈ back ↔ e ∈ parse sources) (e : String) :
    e ∈ parse [some (",".intercalate front), some (",".intercalate back)] ↔ e ∈ parse sources := by
  have hfront : ∀ w ∈ front, IsWord w := fun w hw => isWord_of_mem_parse ((h w).mp (.inl hw))
  have hback : ∀ w ∈ back, IsWord w := fun w hw => isWord_of_mem_parse ((h w).mp (.inr hw))
  rw [← h, mem_parse]
  simp [ofText_intercalate hfront, ofText_intercalate hback]

/-- A list of entries holds the trimmed pieces between commas that are not empty, each where it comes
first, and it is read back from its own text. Two texts have the entries of both with a comma between
them. Tokens are the entries of both lists, whichever list comes first and however the entries are
written once more. -/
theorem parse_canonical :
    (∀ sources : List (Option String),
      (parse sources).toList.Nodup ∧
      (∀ e ∈ parse sources, e ≠ "" ∧ Text.trim e = e ∧ comma ∉ e.toList) ∧
      (parse sources).toList =
        (((sources.flatMap fun s => pieces comma (s.getD "")).map Text.trim).filter
          (· ≠ "")).eraseDups ∧
      parse [some (",".intercalate (parse sources).toList)] = parse sources) ∧
    (∀ s : String,
      pieces comma s ≠ [] ∧ (∀ p ∈ pieces comma s, comma ∉ p.toList) ∧
        ",".intercalate (pieces comma s) = s) ∧
    (∀ a b : String, parse [some a, some b] = parse [some (a ++ "," ++ b)]) ∧
    ∀ application user : Option String,
      TokenSet.ofSources application user = parse [application, user] ∧
      TokenSet.ofSources (some (application.getD "" ++ "," ++ user.getD "")) none =
        TokenSet.ofSources application user ∧
      (∀ e, e ∈ TokenSet.ofSources user application ↔ e ∈ TokenSet.ofSources application user) ∧
      ∀ front back : List String,
        (∀ e, e ∈ front ∨ e ∈ back ↔ e ∈ parse [application, user]) →
        ∀ e, e ∈ TokenSet.ofSources (some (",".intercalate front)) (some (",".intercalate back)) ↔
          e ∈ TokenSet.ofSources application user := by
  refine ⟨fun sources => ⟨(parse sources).nodup, fun e he => isWord_of_mem_parse he,
    toList_parse sources, parse_intercalate_parse sources⟩, fun s => ⟨pieces_ne_nil s,
    fun p hp => comma_notMem_of_mem_pieces hp, intercalate_pieces s⟩, parse_append,
    fun application user => ⟨TokenSet.ofSources_eq_parse application user, ?_, ?_, ?_⟩⟩
  · rw [TokenSet.ofSources_eq_parse, TokenSet.ofSources_eq_parse]
    exact parse_append_none application user
  · intro e
    rw [TokenSet.ofSources_eq_parse, TokenSet.ofSources_eq_parse, mem_parse, mem_parse]
    simp only [List.mem_pair, exists_eq_or_imp, exists_eq_left]
    exact or_comm
  · intro front back h e
    rw [TokenSet.ofSources_eq_parse, TokenSet.ofSources_eq_parse]
    exact mem_parse_rejoined h e

/-- White space of all kinds, empty pieces and repetitions. -/
theorem parse_canonical_spaced :
    (Text.trim "x" = "x" ∧ comma ∉ "x".toList ∧ comma ∉ " x ".toList) ∧
      ∀ e, e ∈ TokenSet.ofSources (some (",".intercalate ["z"]))
          (some (",".intercalate ["x", "y"])) ↔
        e ∈ TokenSet.ofSources (some " x ,, \u2003,y,") (some "y,z\u00a0") := by
  obtain ⟨hlist, hpieces, -, htokens⟩ := parse_canonical
  have hparse : (parse [some " x ,, \u2003,y,", some "y,z\u00a0"]).toList = ["x", "y", "z"] := by
    decide +kernel
  have hx : "x" ∈ parse [some " x ,, \u2003,y,", some "y,z\u00a0"] := by
    rw [Distinct.mem_def, hparse]
    exact List.mem_cons_self ..
  have hpiece : " x " ∈ pieces comma " x ,, \u2003,y," := by decide +kernel
  obtain ⟨-, htrim, hcomma⟩ := (hlist _).2.1 "x" hx
  refine ⟨⟨htrim, hcomma, (hpieces _).2.1 " x " hpiece⟩, (htokens _ _).2.2.2 _ _ fun e => ?_⟩
  rw [Distinct.mem_def, hparse]
  simp only [List.mem_cons, List.not_mem_nil, or_false]
  rw [or_comm, or_assoc]

end Entries
end Cloister
