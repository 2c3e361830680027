import Cloister.Console.Screen
import Mathlib.Control.Monad.Basic
import Mathlib.Data.List.Basic

/-! # Messages without markup

A message on the console may hold any text as long as nothing in it is taken for markup: no tag, no
escape, no name of a picture, and no character that the console leaves out or moves to a stop.

* `Screen.Manual.isPlain_cons_iff`: a text of which every character is shown as it is.
* `Markup.shown_of_isPlain`: such a text is shown as it is.
* `Markup.render_colored`: so it is between the two tags of a colour.
* `Markup.render_unmatched`: a closing tag without a name leaves that of the colour without a match.
-/

namespace Cloister
set_option autoImplicit false

theorem Screen.Manual.isPlain_cons_iff {m : Manual} {c : Char} {s : List Char} :
    m.isPlain (c :: s) = true ↔
      m.isAltered c = false ∧ (c = '\\' → s.head? ≠ some '[') ∧ (c = '[' → readTag s = none) ∧
        (c = ':' → ∀ name, readName s = some name → m.isPicture name = false) ∧
        m.isPlain s = true := by
  simp only [isPlain, isMarkup, Bool.and_eq_true, Bool.not_eq_true', Bool.or_eq_false_iff,
    and_assoc, Bool.and_eq_false_imp, beq_iff_eq, beq_eq_false_iff_ne, ne_eq,
    Option.isSome_eq_false_iff, Option.isNone_iff_eq_none]
  cases readName s <;> simp

open Screen.Manual (isPlain_cons_iff)

section Plain
variable {width : Environment → Nat} {c : Char} {s body : List Char}

theorem Console.isAltered_of_isPlain (h : (Console.manual width).isPlain s = true) (hc : c ∈ s) :
    (Console.manual width).isAltered c = false := by
  induction s with
  | nil => cases hc
  | cons d s ih =>
    obtain ⟨haltered, -, -, -, hs⟩ := isPlain_cons_iff.mp h
    exact (List.mem_cons.mp hc).elim (fun hcd => hcd ▸ haltered) (ih hs)

theorem Console.notMem_of_isPlain (h : (Console.manual width).isPlain s = true) :
    '\t' ∉ s ∧ Console.joiner ∉ s := by
  constructor
  · exact fun hc => absurd (Console.isAltered_of_isPlain h hc) (by simp [Console.manual])
  · exact fun hc => absurd (Console.isAltered_of_isPlain h hc) (by simp [Console.manual])

/-! ## Plain text is shown as it is -/

theorem Markup.unescape_of_isPlain (h : (Console.manual width).isPlain s = true) :
    unescape s = s := by
  induction s using unescape.induct with
  | case1 => rfl
  | case2 s ih =>
    obtain ⟨-, hescape, -⟩ := isPlain_cons_iff.mp h
    exact absurd rfl (hescape rfl)
  | case3 c s hne ih =>
    obtain ⟨-, -, -, -, hs⟩ := isPlain_cons_iff.mp h
    rw [unescape, ih hs]
    exact hne

/-- What is read up to a colon stands before it. -/
theorem Screen.eq_of_readName (h : readName s = some body) : ∃ rest, s = body ++ ':' :: rest := by
  induction s generalizing body with
  | nil => cases h
  | cons c s ih =>
    unfold readName at h
    split at h
    · rename_i hc
      cases h
      exact ⟨s, by rw [hc, List.nil_append]⟩
    split at h
    · cases h
    · obtain ⟨name, hname, rfl⟩ := Option.map_eq_some_iff.mp h
      obtain ⟨rest, rfl⟩ := ih hname
      exact ⟨rest, rfl⟩

/-- Plain text has no names of pictures, so that what is left of it stays. -/
theorem Emoji.replaceFrom_of_isPlain (skip : Nat) (h : (Console.manual width).isPlain s = true) :
    replaceFrom skip s = s.drop skip := by
  induction s generalizing skip with
  | nil => rw [List.drop_nil, replaceFrom]
  | cons c s ih =>
    obtain ⟨-, -, -, hpicture, hs⟩ := isPlain_cons_iff.mp h
    unfold replaceFrom
    cases skip with
    | succ skip =>
      rw [if_pos (Nat.succ_pos skip), Nat.add_sub_cancel, ih skip hs, List.drop_succ_cons]
    | zero =>
      rw [if_neg (Nat.lt_irrefl 0), List.drop_zero]
      split
      · rename_i hc
        split
        · rename_i body hbody
          have hcode : code? body = none := by
            simpa [Console.manual] using hpicture hc body hbody
          obtain ⟨rest, rfl⟩ := Screen.eq_of_readName hbody
          rw [hcode, ih _ hs, hc]
          simp
        · rw [ih 0 hs, List.drop_zero]
      · rw [ih 0 hs, List.drop_zero]

theorem Markup.shown_of_isPlain (h : (Console.manual width).isPlain s = true) : shown s = s := by
  rw [shown, unescape_of_isPlain h, Emoji.replace, Emoji.replaceFrom_of_isPlain 0 h, List.drop_zero,
    List.filter_eq_self]
  intro c hc
  have haltered := Console.isAltered_of_isPlain h hc
  simp only [Console.manual, Bool.or_eq_false_iff] at haltered
  rw [haltered.1.1]
  rfl

end Plain

namespace Markup

variable {width : Environment → Nat} {s t body : List Char}

/-! ## Plain text between tags -/

theorem readBody_append_bracket (s t : List Char) :
    Screen.readBody (s ++ '[' :: t) = Screen.readBody s := by
  induction s with
  | nil => rfl
  | cons c s ih => rw [List.cons_append, Screen.readBody, Screen.readBody, ih]

/-- A tag does not reach beyond an opening bracket. -/
theorem readTag_append_bracket (s t : List Char) :
    Screen.readTag (s ++ '[' :: t) = Screen.readTag s := by
  cases s with
  | nil => rfl
  | cons c s =>
    rw [List.cons_append, Screen.readTag, Screen.readTag, ← List.cons_append,
      readBody_append_bracket]

/-- Plain text before a bracket is a stretch without tags. -/
theorem piecesFrom_append (position : Nat) (stretch t : List Char)
    (h : (Console.manual width).isPlain s = true) :
    piecesFrom position stretch 0 (s ++ '[' :: t) =
      piecesFrom (position + s.length) (s.reverse ++ stretch) 0 ('[' :: t) := by
  induction s generalizing position stretch with
  | nil => rfl
  | cons c s ih =>
    obtain ⟨-, -, htag, -, hs⟩ := isPlain_cons_iff.mp h
    have hnone : (if c = '[' then Screen.readTag (s ++ '[' :: t) else none) = none := by
      rw [readTag_append_bracket]
      split
      · exact htag ‹_›
      · rfl
    rw [List.cons_append, piecesFrom, if_neg (Nat.lt_irrefl 0), hnone, ih _ _ hs,
      List.length_cons, List.reverse_cons, List.append_assoc, List.singleton_append, Nat.add_assoc,
      Nat.add_comm 1]

/-- A tag ends a stretch of text that has no backslash at its end. -/
theorem piecesFrom_tag (position : Nat) (h : (Console.manual width).isPlain s = true)
    (hlast : s.getLast? ≠ some '\\') (hbody : Screen.readTag t = some body) :
    piecesFrom position [] 0 (s ++ '[' :: t) =
      textPiece s.reverse ++ .tag (position + s.length) body ::
        piecesFrom (position + s.length + 1) [] (body.length + 1) t := by
  have hslashes : s.reverse.takeWhile (· == '\\') = [] := by
    rw [← List.head?_reverse] at hlast
    cases hs : s.reverse with
    | nil => rfl
    | cons c stretch =>
      rw [hs] at hlast
      exact List.takeWhile_cons_of_neg (by simpa using hlast)
  rw [piecesFrom_append position [] t h, List.append_nil, piecesFrom, if_neg (Nat.lt_irrefl 0),
    if_pos rfl, hbody, hslashes]
  simp [tagPieces, textPiece]

/-- A stretch of plain text is shown in front of what follows. -/
theorem shownText_textPiece (state : State) (ps : List Piece)
    (h : (Console.manual width).isPlain s = true) :
    shownText state (textPiece s.reverse ++ ps) =
      (shownText state ps).map fun (u, end_) => (s ++ u, end_) := by
  rcases eq_or_ne s [] with rfl | hne
  · show shownText state ps = (shownText state ps).map id
    exact (Except.map_id ..).symm ▸ rfl
  · rw [textPiece, List.reverse_reverse, shown_of_isPlain h, List.singleton_append, shownText]
    exact fun hnil => hne (List.reverse_eq_nil_iff.mp hnil)

/-! ## Plain text in a colour -/

def red : List Char := ['r', 'e', 'd']

/-- The characters of a text in red. -/
theorem toList_colored (s : List Char) :
    ("[red]" ++ String.ofList s ++ "[/red]").toList =
      '[' :: red ++ ']' :: (s ++ '[' :: '/' :: red ++ [']']) := by
  simp [red]

theorem pieces_opening (t : List Char) :
    pieces ('[' :: red ++ ']' :: t) = .tag 0 red :: piecesFrom 5 [] 0 t := rfl

theorem normalName_red : normalName red = .ok red := by decide +kernel

theorem isFlawed_red : isFlawed red = false := by decide +kernel

theorem apply_red (position : Nat) :
    State.apply {} position red = .ok { opened := [⟨red, none⟩] } := by
  show (normalName red).map (fun name => { opened := [⟨name, none⟩] : State }) = _
  rw [normalName_red]
  rfl

/-- The tag of the colour is closed by a tag with its name. -/
theorem apply_close_red (position : Nat) :
    State.apply { opened := [⟨red, none⟩] } position ('/' :: red) = .ok { styles := [red] } := by
  have htrim : Text.trimChars ['r', 'e', 'd'] = ['r', 'e', 'd'] := by decide
  have hname : normalName ['r', 'e', 'd'] = .ok ['r', 'e', 'd'] := normalName_red
  simp [State.apply, Tag.ofBody, red, htrim, hname, State.close, Tag.close, Handler.isEvent,
    Tag.style, Except.map]

/-- The tag of the colour is closed by a tag without a name as well. -/
theorem apply_close_last (position : Nat) :
    State.apply { opened := [⟨red, none⟩] } position ['/'] = .ok { styles := [red] } := by
  simp [State.apply, Tag.ofBody, red, State.close, Tag.close, Handler.isEvent, Tag.style,
    Except.map, Text.trimChars]

/-- A tag that closes the colour is refused where it is not open. -/
theorem apply_close_unmatched (position : Nat) :
    State.apply { styles := [red] } position ('/' :: red) =
      .error (.unmatched ('/' :: red) position) := by
  have htrim : Text.trimChars ['r', 'e', 'd'] = ['r', 'e', 'd'] := by decide
  have hname : normalName ['r', 'e', 'd'] = .ok ['r', 'e', 'd'] := normalName_red
  simp [State.apply, Tag.ofBody, red, htrim, hname]

/-- A plain text in red is laid out as it is. -/
theorem render_colored (room : Nat) (h : (Console.manual width).isPlain s = true)
    (hlast : s.getLast? ≠ some '\\') :
    render room ("[red]" ++ String.ofList s ++ "[/red]") =
      .ok (String.ofList (Console.layOut room s)) := by
  have hclose : Screen.readTag ('/' :: red ++ [']']) = some ('/' :: red) := rfl
  have hpieces : pieces ('[' :: red ++ ']' :: (s ++ '[' :: '/' :: red ++ [']'])) =
      .tag 0 red :: (textPiece s.reverse ++ [.tag (5 + s.length) ('/' :: red)]) := by
    rw [pieces_opening, List.append_assoc, List.cons_append, piecesFrom_tag 5 h hlast hclose]
    rfl
  rw [render, toList_colored, hpieces, shownText, apply_red]
  simp [shownText_textPiece _ _ h, shownText, apply_close_red, Except.map, State.allStyles,
    isFlawed_red]

/-- A tag without a name in a plain text in red closes the colour, so that nothing is left for the tag
that is to close it. -/
theorem render_unmatched (room : Nat) (hs : (Console.manual width).isPlain s = true)
    (ht : (Console.manual width).isPlain t = true) (hslast : s.getLast? ≠ some '\\')
    (htlast : t.getLast? ≠ some '\\') :
    render room ("[red]" ++ String.ofList (s ++ "[/]".toList ++ t) ++ "[/red]") =
      .error (.unmatched ('/' :: red) (8 + s.length + t.length)) := by
  have hend (u : List Char) : Screen.readTag ('/' :: ']' :: u) = some ['/'] := rfl
  have hclose : Screen.readTag ('/' :: red ++ [']']) = some ('/' :: red) := rfl
  have hpieces : pieces ('[' :: red ++ ']' ::
        (s ++ '[' :: '/' :: ']' :: (t ++ '[' :: '/' :: red ++ [']']))) =
      .tag 0 red :: (textPiece s.reverse ++ .tag (5 + s.length) ['/'] ::
        (textPiece t.reverse ++ [.tag (8 + s.length + t.length) ('/' :: red)])) := by
    have hskip (position : Nat) (u : List Char) :
        piecesFrom position [] 2 ('/' :: ']' :: u) = piecesFrom (position + 2) [] 0 u := rfl
    have hposition : 5 + s.length + 1 + 2 = 8 + s.length := by omega
    rw [pieces_opening, piecesFrom_tag 5 hs hslast (hend _), List.length_singleton,
      hskip, hposition, List.append_assoc, List.cons_append, piecesFrom_tag _ ht htlast hclose]
    rfl
  have hlist : ("[red]" ++ String.ofList (s ++ "[/]".toList ++ t) ++ "[/red]").toList =
      '[' :: red ++ ']' :: (s ++ '[' :: '/' :: ']' :: (t ++ '[' :: '/' :: red ++ [']'])) := by
    rw [toList_colored]
    simp
  rw [render, hlist, hpieces, shownText, apply_red]
  simp [shownText_textPiece _ _ hs, shownText_textPiece _ _ ht, shownText, apply_close_last,
    apply_close_unmatched, Except.map]

end Markup
end Cloister
