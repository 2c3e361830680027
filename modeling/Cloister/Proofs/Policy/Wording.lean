import Cloister.Proofs.Distinct
import Cloister.Proofs.Policy.Alteration
import Cloister.Settings
import Mathlib.Data.List.DropRight

/-! # Settings in other words

The tokens of settings are words: trimmed, not empty, and without a comma. Every list of words can
be asked for, and nothing but the two lists of capabilities has to change for it.

* `Entries.IsWord`: a text that is an entry as it stands.
* `Entries.ofText_join`: words that are written one after another are read back.
* `TokenSet.ofSources_eq_parse`: the tokens of two lists are the entries of both.
* `Settings.mem_tokens`: the tokens are the words of both lists.
* `Settings.Asks`: settings that ask for other tokens, and are the same in all else.
* `Settings.exists_asks`: there are such settings for all words.
* `Capability.isWord_name`, `Capability.isWord_denial`: a capability is asked for and denied by
  words.
-/

namespace Cloister
set_option autoImplicit false

/-! ## Trimmed texts -/

namespace Text

theorem trimChars_eq (s : List Char) :
    trimChars s = (s.dropWhile isBlank).rdropWhile isBlank := rfl

theorem trimChars_sublist (s : List Char) : (trimChars s).Sublist s := by
  rw [trimChars_eq]
  exact (List.rdropWhile_prefix _ _).sublist.trans (List.dropWhile_suffix _).sublist

theorem dropWhile_trimChars (s : List Char) : (trimChars s).dropWhile isBlank = trimChars s := by
  obtain ⟨rest, hrest⟩ := List.rdropWhile_prefix isBlank (s.dropWhile isBlank)
  rw [← trimChars_eq] at hrest
  cases ht : trimChars s with
  | nil => rfl
  | cons c cs =>
    have hne : s.dropWhile isBlank ≠ [] := by simp [← hrest, ht]
    have hhead : isBlank c = false := by
      have h := List.head_dropWhile_not isBlank hne
      simpa [← hrest, ht] using h
    exact List.dropWhile_cons_of_neg (by simp [hhead])

theorem trimChars_trimChars (s : List Char) : trimChars (trimChars s) = trimChars s := by
  rw [trimChars_eq (trimChars s), dropWhile_trimChars, trimChars_eq, List.rdropWhile_idempotent]

theorem trim_trim (s : String) : trim (trim s) = trim s := by
  simp only [trim, String.toList_ofList, trimChars_trimChars]

end Text

/-! ## Words -/

namespace Entries

/-- A text that is an entry as it stands. -/
def IsWord (w : String) : Prop := w ≠ "" ∧ Text.trim w = w ∧ comma ∉ w.toList

instance (w : String) : Decidable (IsWord w) := inferInstanceAs (Decidable (_ ∧ _))

theorem isWord_of_mem_ofText {s w : String} (h : w ∈ ofText s) : IsWord w := by
  obtain ⟨⟨t, ht, rfl⟩, hne⟩ := mem_filled.mp h
  obtain ⟨p, hp, rfl⟩ := List.mem_map.mp ht
  refine ⟨hne, Text.trim_trim _, fun hc => ?_⟩
  rw [Text.toList_trim, String.toList_ofList] at hc
  exact Text.sep_notMem_of_mem_cut hp ((Text.trimChars_sublist p).subset hc)

theorem isWord_of_mem_parse {sources : List (Option String)} {w : String}
    (h : w ∈ parse sources) : IsWord w := by
  obtain ⟨source, -, hw⟩ := mem_parse.mp h
  exact isWord_of_mem_ofText hw

theorem filled_eq_self {words : List String} (h : ∀ w ∈ words, IsWord w) :
    filled words = words := by
  have htrim : words.map Text.trim = words := by
    conv => rhs; rw [← List.map_id words]
    exact List.map_congr_left fun w hw => (h w hw).2.1
  rw [filled, htrim, List.filter_eq_self]
  intro w hw
  exact decide_eq_true (h w hw).1

theorem ofText_join {words : List String} (h : ∀ w ∈ words, IsWord w) :
    ofText (Text.join comma words) = words := by
  cases words with
  | nil => decide
  | cons w ws =>
    have hcut : Text.cut comma (Text.join comma (w :: ws)).toList =
        (w :: ws).map String.toList := by
      rw [Text.toList_join]
      refine Text.cut_glue (List.cons_ne_nil _ _) fun p hp => ?_
      obtain ⟨x, hx, rfl⟩ := List.mem_map.mp hp
      exact (h x hx).2.2
    rw [ofText, Text.pieces, hcut, List.map_map]
    simpa using filled_eq_self h

end Entries

/-! ## Tokens -/

/-- Words are tokens as they stand. -/
theorem TokenSet.ofTexts_map_some {words : List String} (h : ∀ w ∈ words, Entries.IsWord w) :
    ofTexts (words.map some) = .ofList words := by
  have hsome : (words.map some).map (·.getD "") = words := by
    rw [List.map_map]
    exact List.map_id _
  rw [ofTexts, hsome, Entries.filled_eq_self h]

/-- The tokens of two lists are the entries of both, in order. -/
theorem TokenSet.ofSources_eq_parse (application user : Option String) :
    ofSources application user = Entries.parse [application, user] := by
  rw [ofSources, ofTexts_map_some fun w hw => Entries.isWord_of_mem_parse hw,
    Distinct.ofList_toList]

namespace Settings

variable {s t : Settings} {x : String}

theorem mem_tokens :
    x ∈ s.tokens ↔ x ∈ Entries.ofText s.applicationParams ∨ x ∈ Entries.ofText s.userParams := by
  rw [tokens, TokenSet.ofSources_eq_parse, Entries.mem_parse]
  simp

/-- Settings `t` are settings `s` with other lists of capabilities, which have the tokens `u`. -/
structure Asks (t s : Settings) (u : TokenSet) : Prop where
  rest : ∃ application user, t = { s with applicationParams := application, userParams := user }
  mem_tokens : ∀ x, x ∈ t.tokens ↔ x ∈ u

theorem Asks.refl (s : Settings) : s.Asks s s.tokens := ⟨⟨_, _, rfl⟩, fun _ => Iff.rfl⟩

/-- All words can be asked for. -/
theorem exists_asks (s : Settings) {u : TokenSet} (h : ∀ w ∈ u, Entries.IsWord w) :
    ∃ t : Settings, t.Asks s u := by
  refine ⟨{ s with applicationParams := Text.join Entries.comma u.toList, userParams := "" },
    ⟨_, _, rfl⟩, fun x => ?_⟩
  have hempty : Entries.ofText "" = [] := by decide
  rw [Settings.mem_tokens, Entries.ofText_join h, hempty, Distinct.mem_def]
  exact or_iff_left List.not_mem_nil

end Settings

/-! ## The words of capabilities -/

namespace Capability

theorem isWord_name (c : Capability) : Entries.IsWord c.name := by cases c <;> decide

theorem isWord_denial (c : Capability) : Entries.IsWord c.denial := by cases c <;> decide

end Capability
end Cloister
