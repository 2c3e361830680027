import Cloister.Bubblewrap.Words
import Cloister.Proofs.Directive.Formed
import Mathlib.Data.List.Infix

/-! # Command lines read back

The confinement program reads its command line from left to right: a word where an option is due
names one, a fixed number of words after it belongs to it, and the first end mark in such a place
ends the options. What stands after a name is never looked at as a name, so paths and values may be
any texts.

* `Bubblewrap.Flag`: an option with the words that belong to it.
* `Bubblewrap.flags`: the options of a command line, and the words behind them.
* `Bubblewrap.meaning`: what options say, as directives.
* `Bubblewrap.read`: both.
* `Bubblewrap.Spells`: options that say what directives say, in the same words.
* `Bubblewrap.read_of_spells`: the words of such options are read as the directives.
-/

namespace Cloister.Bubblewrap
set_option autoImplicit false

/-! ## Options -/

/-- An option with the words that belong to it. -/
structure Flag where
  name : String
  operands : List String
  deriving DecidableEq, Repr

def Flag.words (f : Flag) : List String := f.name :: f.operands

/-- The mark behind the last option. -/
def endMark : String := "--"

/-- The front of the options that separate a namespace; the rest of the word is its name. -/
def separating : String := "--unshare-"

def separated? (word : String) : Option String :=
  if separating.toList.isPrefixOf word.toList then
    some (String.ofList (word.toList.drop separating.toList.length))
  else none

/-- The other options, each with the number of words that belong to it. -/
def operandCounts : List (String × Nat) :=
  [("--bind-try", 2), ("--ro-bind-try", 2), ("--dev-bind", 2), ("--dev-bind-try", 2),
    ("--perms", 1), ("--tmpfs", 1), ("--remount-ro", 1), ("--unsetenv", 1), ("--hostname", 1),
    ("--cap-drop", 1), ("--proc", 1), ("--dev", 1), ("--symlink", 2), ("--new-session", 0)]

def operandCount? (word : String) : Option Nat :=
  if (separated? word).isSome then some 0 else operandCounts.lookup word

/-- The options at the front of some words, and the words behind the end mark. The first `skip`
words belong to the option read last. There is no reading where a word that is no option stands in
the place of one, or where words are lacking. -/
def flagsFrom (skip : Nat) : List String → Option (List Flag × List String)
  | [] => if skip = 0 then some ([], []) else none
  | w :: ws =>
    if 0 < skip then flagsFrom (skip - 1) ws
    else if w = endMark then some ([⟨w, []⟩], ws)
    else match operandCount? w with
      | none => none
      | some n => (flagsFrom n ws).map fun (fs, rest) => (⟨w, ws.take n⟩ :: fs, rest)

def flags (ws : List String) : Option (List Flag × List String) := flagsFrom 0 ws

/-- A flag that is read as it is written: an option with as many words as belong to it. -/
def Flag.Proper (f : Flag) : Prop :=
  f.name ≠ endMark ∧ operandCount? f.name = some f.operands.length

theorem flagsFrom_append (skipped ws : List String) :
    flagsFrom skipped.length (skipped ++ ws) = flags ws := by
  induction skipped with
  | nil => rfl
  | cons w skipped ih =>
    rw [List.cons_append, flagsFrom, if_pos (by simp), List.length_cons, Nat.add_sub_cancel, ih]

theorem flags_words {f : Flag} (hf : f.Proper) (ws : List String) :
    flags (f.words ++ ws) = (flags ws).map fun (fs, rest) => (f :: fs, rest) := by
  rw [flags, Flag.words, List.cons_append, flagsFrom, if_neg (Nat.lt_irrefl 0), if_neg hf.1, hf.2]
  simp only [flagsFrom_append, List.take_left]

theorem flags_flatMap_words {fs : List Flag} (hfs : ∀ f ∈ fs, f.Proper) (ws : List String) :
    flags (fs.flatMap Flag.words ++ ws) = (flags ws).map fun (gs, rest) => (fs ++ gs, rest) := by
  induction fs with
  | nil => simp
  | cons f fs ih =>
    obtain ⟨hf, hfs⟩ := List.forall_mem_cons.mp hfs
    rw [List.flatMap_cons, List.append_assoc, flags_words hf, ih hfs, Option.map_map]
    rfl

theorem flags_nil : flags [] = some ([], []) := rfl

theorem flags_endMark (rest : List String) :
    flags (endMark :: rest) = some ([⟨endMark, []⟩], rest) := by
  rw [flags, flagsFrom, if_neg (Nat.lt_irrefl 0), if_pos rfl]

/-! ## What options say -/

/-- What an option says by itself. -/
def Flag.directive? : Flag → Option Directive
  | ⟨"--bind-try", [source, target]⟩ =>
    some ⟨.bindWritable, some source, some target, none, false⟩
  | ⟨"--ro-bind-try", [source, target]⟩ =>
    some ⟨.bindReadOnly, some source, some target, none, false⟩
  | ⟨"--dev-bind", [source, target]⟩ =>
    some ⟨.bindDevice, some source, some target, none, true⟩
  | ⟨"--dev-bind-try", [source, target]⟩ =>
    some ⟨.bindDevice, some source, some target, none, false⟩
  | ⟨"--remount-ro", [path]⟩ => some (.lock (some path))
  | ⟨"--unsetenv", [name]⟩ => some (.unsetVariable name)
  | ⟨"--hostname", [name]⟩ => some (.setHostname name)
  | ⟨"--cap-drop", [capability]⟩ => some (.dropCapability capability)
  | ⟨"--proc", [path]⟩ => some (.mountProc path)
  | ⟨"--dev", [path]⟩ => some (.minimalDev path)
  | ⟨"--symlink", [source, target]⟩ => some (.symlink source target)
  | ⟨"--new-session", []⟩ => some .newSession
  | ⟨"--", []⟩ => some .terminator
  | ⟨name, []⟩ => (separated? name).map .unshare
  | _ => none

/-- What options say, one after another. A mode belongs to the directory that is cleared next. -/
def meaning : List Flag → Option (List Directive)
  | [] => some []
  | ⟨"--perms", [mode]⟩ :: ⟨"--tmpfs", [path]⟩ :: fs =>
    if mode = clearedMode then (meaning fs).map (.clear (some path) :: ·) else none
  | f :: fs => f.directive?.bind fun d => (meaning fs).map (d :: ·)

/-- The directives at the front of some words, and the words behind the end mark. -/
def read (ws : List String) : Option (List Directive × List String) :=
  (flags ws).bind fun (fs, rest) => (meaning fs).map fun ds => (ds, rest)

theorem separated?_append (name : String) : separated? (separating ++ name) = some name := by
  simp [separated?, separating, List.isPrefixOf]

theorem proper_separating (name : String) : (Flag.mk (separating ++ name) []).Proper := by
  constructor
  · intro h
    have hmark : separated? endMark = none := by decide
    rw [← h, separated?_append] at hmark
    cases hmark
  · rw [operandCount?, separated?_append]
    rfl

theorem directive?_separating (name : String) :
    Flag.directive? ⟨separating ++ name, []⟩ = some (.unshare name) := by
  have hne (word : String) (h : separated? word = none) : separating ++ name ≠ word := by
    rintro rfl
    rw [separated?_append] at h
    cases h
  rw [Flag.directive?, separated?_append, Option.map_some]
  · exact hne _ (by decide)
  · exact hne _ (by decide)

end Cloister.Bubblewrap

/-! ## Directives as options -/

/-- A directive as its words tell it: a mask is a read-only bind of the null file. -/
def Cloister.Directive.unmasked (d : Directive) : Directive :=
  if d.kind = .maskFile then { d with kind := .bindReadOnly } else d

namespace Cloister.Bubblewrap

/-- Options that say what directives say, in the same words. -/
structure Spells (fs : List Flag) (ds : List Directive) : Prop where
  wordsAll_eq : wordsAll ds = (fs.flatMap Flag.words).map some
  proper : ∀ f ∈ fs, f.Proper
  meaning_append : ∀ gs, meaning (fs ++ gs) = (meaning gs).map (ds.map Directive.unmasked ++ ·)

theorem Spells.nil : Spells [] [] where
  wordsAll_eq := rfl
  proper := nofun
  meaning_append gs := by simp

theorem Spells.append {fs gs : List Flag} {ds es : List Directive} (h : Spells fs ds)
    (k : Spells gs es) : Spells (fs ++ gs) (ds ++ es) where
  wordsAll_eq := by
    have happend : wordsAll (ds ++ es) = wordsAll ds ++ wordsAll es := List.flatMap_append
    rw [happend, h.wordsAll_eq, k.wordsAll_eq, List.flatMap_append, List.map_append]
  proper := List.forall_mem_append.mpr ⟨h.proper, k.proper⟩
  meaning_append hs := by
    rw [List.append_assoc, h.meaning_append, k.meaning_append, Option.map_map, List.map_append]
    simp only [Function.comp_def, List.append_assoc]

theorem proper_of_lookup {f : Flag} (h : operandCounts.lookup f.name = some f.operands.length) :
    f.Proper := by
  have hmem : (f.name, f.operands.length) ∈ operandCounts := by
    obtain ⟨front, back, hsplit, -⟩ := List.lookup_eq_some_iff.mp h
    rw [hsplit]
    exact List.mem_append_right _ (List.mem_cons_self ..)
  have htable : ∀ e ∈ operandCounts, e.1 ≠ endMark ∧ operandCount? e.1 = some e.2 := by decide
  exact htable _ hmem

theorem spells_singleton {d : Directive} {f : Flag} (hf : f.Proper)
    (hwords : words d = f.words.map some)
    (hmeaning : ∀ gs, meaning (f :: gs) = (meaning gs).map (d.unmasked :: ·)) : Spells [f] [d] where
  wordsAll_eq := by simpa [wordsAll] using hwords
  proper := List.forall_mem_singleton.mpr hf
  meaning_append := hmeaning

/-- Every directive of a form but the end is spelled by options. -/
theorem exists_spells {d : Directive} (hd : d.Formed) (hend : d ≠ .terminator) :
    ∃ fs, Spells fs [d] := by
  have hone (f : Flag) (hf : operandCounts.lookup f.name = some f.operands.length)
      (hwords : words d = f.words.map some)
      (hmeaning : ∀ gs, meaning (f :: gs) = (meaning gs).map (d.unmasked :: ·)) :
      ∃ fs, Spells fs [d] := ⟨_, spells_singleton (proper_of_lookup hf) hwords hmeaning⟩
  cases hd with
  | bindWritable path => exact hone ⟨"--bind-try", [path, path]⟩ rfl rfl fun _ => rfl
  | bindReadOnly path => exact hone ⟨"--ro-bind-try", [path, path]⟩ rfl rfl fun _ => rfl
  | bindDevice path required =>
    cases required with
    | true => exact hone ⟨"--dev-bind", [path, path]⟩ rfl rfl fun _ => rfl
    | false => exact hone ⟨"--dev-bind-try", [path, path]⟩ rfl rfl fun _ => rfl
  | clear path =>
    have hmode : (Flag.mk "--perms" [clearedMode]).Proper := proper_of_lookup rfl
    have hclear : (Flag.mk "--tmpfs" [path]).Proper := proper_of_lookup rfl
    exact ⟨[⟨"--perms", [clearedMode]⟩, ⟨"--tmpfs", [path]⟩], rfl,
      List.forall_mem_cons.mpr ⟨hmode, List.forall_mem_singleton.mpr hclear⟩, fun _ => rfl⟩
  | maskFile path => exact hone ⟨"--ro-bind-try", [Directive.nullFile, path]⟩ rfl rfl fun _ => rfl
  | lock path => exact hone ⟨"--remount-ro", [path]⟩ rfl rfl fun _ => rfl
  | unsetVariable name => exact hone ⟨"--unsetenv", [name]⟩ rfl rfl fun _ => rfl
  | setHostname name => exact hone ⟨"--hostname", [name]⟩ rfl rfl fun _ => rfl
  | unshare name =>
    refine ⟨_, spells_singleton (proper_separating name) rfl fun gs => ?_⟩
    rw [meaning, directive?_separating]
    · rfl
    · simp
  | dropCapability capability => exact hone ⟨"--cap-drop", [capability]⟩ rfl rfl fun _ => rfl
  | mountProc path => exact hone ⟨"--proc", [path]⟩ rfl rfl fun _ => rfl
  | minimalDev path => exact hone ⟨"--dev", [path]⟩ rfl rfl fun _ => rfl
  | symlink source target => exact hone ⟨"--symlink", [source, target]⟩ rfl rfl fun _ => rfl
  | newSession => exact hone ⟨"--new-session", []⟩ rfl rfl fun _ => rfl
  | terminator => exact absurd rfl hend

/-- Directives of forms are spelled by options, unless one of them is the end. -/
theorem exists_spells_all {ds : List Directive} (hds : ∀ d ∈ ds, d.Formed ∧ d ≠ .terminator) :
    ∃ fs, Spells fs ds := by
  induction ds with
  | nil => exact ⟨_, .nil⟩
  | cons d ds ih =>
    obtain ⟨⟨hd, hend⟩, hds⟩ := List.forall_mem_cons.mp hds
    obtain ⟨fs, hfs⟩ := exists_spells hd hend
    obtain ⟨gs, hgs⟩ := ih hds
    exact ⟨_, hfs.append hgs⟩

/-! ## Reading back -/

theorem read_of_spells {fs : List Flag} {ds : List Directive} (h : Spells fs ds) :
    read (fs.flatMap Flag.words) = some (ds.map Directive.unmasked, []) := by
  have hflags : flags (fs.flatMap Flag.words) = some (fs, []) := by
    have hall := flags_flatMap_words h.proper []
    simpa [flags_nil] using hall
  have hmeaning : meaning fs = some (ds.map Directive.unmasked) := by
    have hall := h.meaning_append []
    simpa [meaning] using hall
  rw [read, hflags, Option.bind_some]
  simp only [hmeaning, Option.map_some]

theorem read_of_spells_end {fs : List Flag} {ds : List Directive} (h : Spells fs ds)
    (rest : List String) :
    read (fs.flatMap Flag.words ++ endMark :: rest) =
      some ((ds ++ [Directive.terminator]).map Directive.unmasked, rest) := by
  have hend : meaning [⟨endMark, []⟩] = some [Directive.terminator.unmasked] := rfl
  rw [read, flags_flatMap_words h.proper, flags_endMark, Option.map_some, Option.bind_some]
  simp only [h.meaning_append, hend, Option.map_some, List.map_append, List.map_singleton]

/-- The words of directives with the end behind them are read back, and what follows is left. -/
theorem read_wordsAll_append {ds : List Directive} (hds : ∀ d ∈ ds, d.Formed ∧ d ≠ .terminator)
    (rest : List String) :
    ∃ ws, wordsAll (ds ++ [.terminator]) = ws.map some ∧
      read (ws ++ rest) = some ((ds ++ [Directive.terminator]).map Directive.unmasked, rest) := by
  obtain ⟨fs, hfs⟩ := exists_spells_all hds
  refine ⟨fs.flatMap Flag.words ++ [endMark], ?_, ?_⟩
  · have happend : wordsAll (ds ++ [.terminator]) = wordsAll ds ++ [some endMark] :=
      List.flatMap_append
    rw [happend, hfs.wordsAll_eq, List.map_append, List.map_singleton]
  · rw [List.append_assoc, List.singleton_append]
    exact read_of_spells_end hfs rest

/-- The words of directives are read back, as long as the end stands nowhere but behind them. -/
theorem read_wordsAll {ds : List Directive} (hds : ∀ d ∈ ds, d.Formed)
    (hend : ∀ d ∈ ds.dropLast, d ≠ .terminator) :
    ∃ ws, wordsAll ds = ws.map some ∧ read ws = some (ds.map Directive.unmasked, []) := by
  rcases List.eq_nil_or_concat ds with rfl | ⟨front, d, rfl⟩
  · exact ⟨[], rfl, rfl⟩
  rw [List.concat_eq_append] at hds hend ⊢
  rw [List.dropLast_concat] at hend
  obtain ⟨hfront, hd⟩ := List.forall_mem_append.mp hds
  by_cases h : d = .terminator
  · rw [h]
    obtain ⟨ws, hws, hread⟩ := read_wordsAll_append (fun x hx => ⟨hfront x hx, hend x hx⟩) []
    exact ⟨ws, hws, by rwa [List.append_nil] at hread⟩
  · have hall : ∀ x ∈ front ++ [d], x.Formed ∧ x ≠ .terminator := by
      refine List.forall_mem_append.mpr ⟨fun x hx => ⟨hfront x hx, hend x hx⟩, ?_⟩
      exact List.forall_mem_singleton.mpr ⟨hd d (List.mem_singleton_self d), h⟩
    obtain ⟨fs, hfs⟩ := exists_spells_all hall
    exact ⟨_, hfs.wordsAll_eq, read_of_spells hfs⟩

end Cloister.Bubblewrap
