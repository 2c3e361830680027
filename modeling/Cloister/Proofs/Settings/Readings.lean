import Cloister.Settings.Snapshot
import Mathlib.Data.List.Basic
import Mathlib.Order.Monotone.Basic

/-! # When the settings are read

The settings are read from the environment at the first request for them and kept until they are
dropped. A reading that is asked for explicitly is always a new one, and nothing else depends on it.

* `SettingsStore.after`, `SettingsStore.answers`: a store after some requests, and its answers.
* `SettingsStore.FirstGet`: the first request for the settings since they were dropped.
* `SettingsStore.reading`: what a reading at some place of a run returns.
* `SettingsStore.keptFrom_before`: the settings that are kept were read at that first request.
* `SettingsStore.eq_of_number_eq`: no two readings that are made have the same number.
* `SettingsStore.Alike`: stores that differ at most in the numbers of readings.
* `SettingsStore.answers_readings`: all answers of a run in terms of readings.
-/

namespace Cloister.SettingsStore
set_option autoImplicit false

/-! ## Runs -/

/-- The store of a new process. -/
def start (e : Environment) : SettingsStore := { environment := e }

/-- The store after some requests. -/
def after (s : SettingsStore) (rs : List Request) : SettingsStore :=
  rs.foldl (fun s r => (s.perform r).2) s

/-- The answers to some requests, one after another. -/
def answers (s : SettingsStore) : List Request → List (Option Snapshot)
  | [] => []
  | r :: rs => (s.perform r).1 :: (s.perform r).2.answers rs

section Runs
variable (s : SettingsStore) (rs : List Request)

theorem after_concat (r : Request) : s.after (rs ++ [r]) = ((s.after rs).perform r).2 := by
  rw [after, List.foldl_append]
  rfl

theorem answers_append (later : List Request) :
    s.answers (rs ++ later) = s.answers rs ++ (s.after rs).answers later := by
  induction rs generalizing s with
  | nil => rfl
  | cons r rs ih =>
    rw [List.cons_append, answers, answers, ih]
    rfl

theorem length_answers : (s.answers rs).length = rs.length := by
  induction rs generalizing s with
  | nil => rfl
  | cons r rs ih => rw [answers, List.length_cons, ih, List.length_cons]

theorem getElem?_answers (i : Nat) :
    (s.answers rs)[i]? = rs[i]?.map fun r => ((s.after (rs.take i)).perform r).1 := by
  induction rs generalizing s i with
  | nil => rfl
  | cons r rs ih =>
    cases i with
    | zero => rfl
    | succ i => exact ih (s.perform r).2 i

end Runs

/-! ## The environment -/

/-- The environment after a request. -/
def Request.alter (e : Environment) : Request → Environment
  | .set name value => e.set name value
  | .unset name => e.unset name
  | .drop | .get | .read => e

theorem environment_perform (s : SettingsStore) (r : Request) :
    (s.perform r).2.environment = Request.alter s.environment r := by
  cases r with
  | get =>
    rw [perform, get]
    cases s.kept <;> rfl
  | set | unset | drop | read => rfl

theorem environment_after (s : SettingsStore) (rs : List Request) :
    (s.after rs).environment = rs.foldl Request.alter s.environment := by
  induction rs generalizing s with
  | nil => rfl
  | cons r rs ih => rw [List.foldl_cons, ← environment_perform, ← ih, after, List.foldl_cons, after]

/-! ## Kept settings and numbers -/

section Steps
variable {s : SettingsStore}

theorem fst_get_of_kept {snapshot : Snapshot} (h : s.kept = some snapshot) :
    s.get.1 = snapshot := by
  rw [get, h]

theorem fst_get_of_none (h : s.kept = none) : s.get.1 = s.read.1 := by
  rw [get, h]

theorem kept_get (s : SettingsStore) : s.get.2.kept = some s.get.1 := by
  rw [get]
  cases h : s.kept with
  | none => rfl
  | some snapshot => exact h

/-- A snapshot is kept until it is dropped. -/
theorem kept_perform {s : SettingsStore} {r : Request} {x : Snapshot} (hx : s.kept = some x)
    (hr : r ≠ .drop) : (s.perform r).2.kept = some x := by
  cases r with
  | drop => exact absurd rfl hr
  | get => exact (kept_get s).trans (congrArg some (fst_get_of_kept hx))
  | set | unset | read => exact hx

theorem next_get_of_none (h : s.kept = none) : s.get.2.next = s.next + 1 := by
  rw [get, h]
  rfl

theorem next_le_perform (s : SettingsStore) (r : Request) : s.next ≤ (s.perform r).2.next := by
  cases r with
  | get =>
    rw [perform, get]
    cases s.kept with
    | none => exact Nat.le_succ _
    | some snapshot => exact Nat.le_refl _
  | read => exact Nat.le_succ _
  | set | unset | drop => exact Nat.le_refl _

end Steps

/-! ## Places of a run -/

/-- The first request for the settings since they were dropped, as it is seen from a place. -/
structure FirstGet (rs : List Request) (f i : Nat) : Prop where
  le : f ≤ i
  get : rs[f]? = some .get
  /-- The settings are not dropped in between. -/
  keeps : ∀ k, f < k → k < i → rs[k]? ≠ some .drop
  /-- After each earlier request for them, they were dropped. -/
  first : ∀ g, g < f → rs[g]? = some .get → ∃ k, g < k ∧ k < f ∧ rs[k]? = some .drop

namespace FirstGet

variable {rs : List Request} {f g i j : Nat}

theorem self (h : FirstGet rs f i) : FirstGet rs f f :=
  ⟨Nat.le_refl f, h.get, by omega, h.first⟩

/-- What is first stays so as long as the settings are kept. -/
theorem mono (h : FirstGet rs f i) (hij : i ≤ j)
    (hkeeps : ∀ k, i ≤ k → k < j → rs[k]? ≠ some .drop) : FirstGet rs f j where
  le := h.le.trans hij
  get := h.get
  keeps k hf hk := (Nat.lt_or_ge k i).elim (h.keeps k hf) fun hi => hkeeps k hi hk
  first := h.first

theorem succ (h : FirstGet rs f i) (hdrop : rs[i]? ≠ some .drop) : FirstGet rs f (i + 1) := by
  refine h.mono (Nat.le_succ i) fun k hi hk => ?_
  obtain rfl : k = i := by omega
  exact hdrop

theorem not_lt (hf : FirstGet rs f i) (hg : FirstGet rs g i) : ¬ f < g := by
  intro hlt
  obtain ⟨k, hfk, hkg, hdrop⟩ := hg.first f hlt hf.get
  exact hf.keeps k hfk (Nat.lt_of_lt_of_le hkg hg.le) hdrop

theorem unique (hf : FirstGet rs f i) (hg : FirstGet rs g i) : f = g :=
  Nat.le_antisymm (Nat.le_of_not_lt (not_lt hg hf)) (Nat.le_of_not_lt (not_lt hf hg))

end FirstGet

section Places
variable (e : Environment) (rs : List Request)

/-- The store before the request at a place. -/
def before (i : Nat) : SettingsStore := (start e).after (rs.take i)

/-- What a reading at a place returns. -/
def reading (i : Nat) : Snapshot := (before e rs i).read.1

/-- Where kept settings come from: the first request for them. Without kept settings, they were
dropped after each request for them. -/
def KeptFrom (i : Nat) : Option Snapshot → Prop
  | some snapshot => ∃ f, f < i ∧ FirstGet rs f i ∧ snapshot = reading e rs f
  | none => ∀ g, g < i → rs[g]? = some .get → ∃ k, g < k ∧ k < i ∧ rs[k]? = some .drop

variable {e rs} {i j : Nat} {r : Request} {kept : Option Snapshot}

theorem before_succ (h : rs[i]? = some r) :
    before e rs (i + 1) = ((before e rs i).perform r).2 := by
  rw [before, List.take_add_one, h, Option.toList_some, after_concat, before]

theorem before_succ_of_none (h : rs[i]? = none) : before e rs (i + 1) = before e rs i := by
  rw [before, List.take_add_one, h, Option.toList_none, List.append_nil, before]

theorem KeptFrom.succ (h : KeptFrom e rs i kept) (hdrop : rs[i]? ≠ some .drop)
    (hget : rs[i]? = some .get → kept ≠ none) : KeptFrom e rs (i + 1) kept := by
  cases kept with
  | some snapshot =>
    obtain ⟨f, hf, hfirst, rfl⟩ := h
    exact ⟨f, hf.trans (Nat.lt_succ_self i), hfirst.succ hdrop, rfl⟩
  | none =>
    intro g hg hgg
    have hne : g ≠ i := by
      rintro rfl
      exact hget hgg rfl
    obtain ⟨k, hgk, hki, hk⟩ := h g (by omega) hgg
    exact ⟨k, hgk, hki.trans (Nat.lt_succ_self i), hk⟩

theorem keptFrom_drop (h : rs[i]? = some .drop) : KeptFrom e rs (i + 1) none := by
  intro g hg hgg
  have hne : g ≠ i := by
    rintro rfl
    rw [h] at hgg
    cases hgg
  exact ⟨i, by omega, Nat.lt_succ_self i, h⟩

theorem KeptFrom.firstGet (h : KeptFrom e rs i none) (hget : rs[i]? = some .get) :
    FirstGet rs i i :=
  ⟨Nat.le_refl i, hget, by omega, h⟩

theorem KeptFrom.get (h : KeptFrom e rs i (before e rs i).kept) (hget : rs[i]? = some .get) :
    KeptFrom e rs (i + 1) (some (before e rs i).get.1) := by
  cases hk : (before e rs i).kept with
  | none =>
    rw [hk] at h
    have hfirst : FirstGet rs i (i + 1) := (h.firstGet hget).succ (by simp [hget])
    exact ⟨i, Nat.lt_succ_self i, hfirst, fst_get_of_none hk⟩
  | some snapshot =>
    rw [fst_get_of_kept hk, ← hk]
    exact h.succ (by simp [hget]) (by simp [hk])

/-- At every place of a run, the kept settings come from the first request for them. -/
theorem keptFrom_before (i : Nat) : KeptFrom e rs i (before e rs i).kept := by
  -- only a drop and the first request for the settings change what is kept
  induction i with
  | zero => exact fun g hg => absurd hg (Nat.not_lt_zero g)
  | succ i ih =>
    cases hr : rs[i]? with
    | none =>
      rw [before_succ_of_none hr]
      exact ih.succ (by simp [hr]) (by simp [hr])
    | some r =>
      rw [before_succ hr]
      cases r with
      | set | unset | read => exact ih.succ (by simp [hr]) (by simp [hr])
      | drop => exact keptFrom_drop hr
      | get =>
        have hkept : ((before e rs i).perform .get).2.kept = some (before e rs i).get.1 := kept_get _
        rw [hkept]
        exact ih.get hr

/-! ## Answers -/

theorem answers_get (h : rs[i]? = some .get) :
    ∃ f, FirstGet rs f i ∧ ((start e).answers rs)[i]? = some (some (reading e rs f)) := by
  have hanswer : ((start e).answers rs)[i]? = some (some (before e rs i).get.1) := by
    rw [getElem?_answers, h]
    rfl
  have hkept : KeptFrom e rs i (before e rs i).kept := keptFrom_before i
  rw [hanswer]
  cases hk : (before e rs i).kept with
  | none =>
    rw [hk] at hkept
    exact ⟨i, hkept.firstGet h, by rw [fst_get_of_none hk, reading]⟩
  | some snapshot =>
    rw [hk] at hkept
    obtain ⟨f, -, hfirst, hsnapshot⟩ := hkept
    exact ⟨f, hfirst, by rw [fst_get_of_kept hk, hsnapshot]⟩

/-- As long as the settings are kept, requests for them have one answer. -/
theorem answers_get_eq (hij : i < j) (hi : rs[i]? = some .get) (hj : rs[j]? = some .get)
    (hkeeps : ∀ k, i < k → k < j → rs[k]? ≠ some .drop) :
    ((start e).answers rs)[i]? = ((start e).answers rs)[j]? := by
  obtain ⟨f, hf, hfi⟩ := answers_get (e := e) hi
  obtain ⟨g, hg, hgj⟩ := answers_get (e := e) hj
  have hfj : FirstGet rs f j := by
    refine hf.mono hij.le fun k hk hkj => ?_
    rcases Nat.eq_or_lt_of_le hk with rfl | hk
    · rw [hi]
      nofun
    · exact hkeeps k hk hkj
  rw [hfi, hgj, hfj.unique hg]

theorem answers_read (h : rs[i]? = some .read) :
    ((start e).answers rs)[i]? = some (some (reading e rs i)) := by
  rw [getElem?_answers, h]
  rfl

/-! ## Numbers -/

/-- A place where a reading is made. -/
def Reads (rs : List Request) (i : Nat) : Prop := rs[i]? = some .read ∨ FirstGet rs i i

theorem kept_of_firstGet (h : FirstGet rs i i) : (before e rs i).kept = none := by
  have hkept : KeptFrom e rs i (before e rs i).kept := keptFrom_before i
  cases hk : (before e rs i).kept with
  | none => rfl
  | some snapshot =>
    rw [hk] at hkept
    obtain ⟨f, hf, hfirst, -⟩ := hkept
    obtain ⟨k, hfk, hki, hdrop⟩ := h.first f hf hfirst.get
    exact absurd hdrop (hfirst.keeps k hfk hki)

theorem Reads.next_succ (h : Reads rs i) :
    (before e rs (i + 1)).next = (before e rs i).next + 1 := by
  rcases h with h | h
  · rw [before_succ h]
    rfl
  · rw [before_succ h.get]
    exact next_get_of_none (kept_of_firstGet h)

theorem next_mono : Monotone fun i => (before e rs i).next := by
  refine monotone_nat_of_le_succ fun i => ?_
  cases hr : rs[i]? with
  | none => rw [before_succ_of_none hr]
  | some r =>
    rw [before_succ hr]
    exact next_le_perform _ r

theorem Reads.number_lt (h : Reads rs i) (hij : i < j) :
    (reading e rs i).number < (reading e rs j).number := by
  have hnext : (before e rs (i + 1)).next ≤ (before e rs j).next := next_mono hij
  rw [h.next_succ] at hnext
  exact hnext

/-- No two readings that are made have the same number. -/
theorem eq_of_number_eq (hi : Reads rs i) (hj : Reads rs j)
    (h : (reading e rs i).number = (reading e rs j).number) : i = j := by
  rcases Nat.lt_trichotomy i j with hij | hij | hij
  · exact absurd h (Nat.ne_of_lt (hi.number_lt hij))
  · exact hij
  · exact absurd h.symm (Nat.ne_of_lt (hj.number_lt hij))

/-- Each answer is a reading that is made: at its own place, or at the first request for the
settings. -/
theorem exists_reading {snapshot : Snapshot}
    (h : ((start e).answers rs)[i]? = some (some snapshot)) :
    ∃ m, Reads rs m ∧ snapshot = reading e rs m ∧ (m = i ∨ FirstGet rs m i) := by
  cases hr : rs[i]? with
  | none =>
    rw [getElem?_answers, hr] at h
    cases h
  | some r =>
    cases r with
    | get =>
      obtain ⟨f, hf, hanswer⟩ := answers_get (e := e) hr
      rw [h, Option.some.injEq, Option.some.injEq] at hanswer
      exact ⟨f, .inr hf.self, hanswer, .inr hf⟩
    | read =>
      rw [answers_read hr, Option.some.injEq, Option.some.injEq] at h
      exact ⟨i, .inl hr, h.symm, .inl rfl⟩
    | set | unset | drop =>
      rw [getElem?_answers, hr] at h
      cases h

/-- What is asked for explicitly is no other answer. -/
theorem number_ne_of_read {snapshot : Snapshot} (hi : rs[i]? = some .read) (hji : j ≠ i)
    (hj : ((start e).answers rs)[j]? = some (some snapshot)) :
    snapshot.number ≠ (reading e rs i).number := by
  intro hnumber
  obtain ⟨m, hreads, rfl, hm⟩ := exists_reading hj
  obtain rfl : m = i := eq_of_number_eq hreads (.inl hi) hnumber
  rcases hm with rfl | hm
  · exact hji rfl
  · rw [hm.get] at hi
    cases hi

theorem snapshot_eq_of_number_eq {x y : Snapshot}
    (hx : ((start e).answers rs)[i]? = some (some x))
    (hy : ((start e).answers rs)[j]? = some (some y)) (h : x.number = y.number) : x = y := by
  obtain ⟨m, hm, rfl, -⟩ := exists_reading hx
  obtain ⟨n, hn, rfl, -⟩ := exists_reading hy
  rw [eq_of_number_eq hm hn h]

end Places

/-! ## Stores that show the same -/

/-- Two stores differ at most in the numbers of readings. -/
structure Alike (s t : SettingsStore) : Prop where
  environment : s.environment = t.environment
  settings : s.kept.map Snapshot.settings = t.kept.map Snapshot.settings

namespace Alike

variable {s t : SettingsStore}

theorem refl (s : SettingsStore) : Alike s s := ⟨rfl, rfl⟩

theorem read_left (h : Alike s t) : Alike s.read.2 t := ⟨h.environment, h.settings⟩

theorem fst_read (h : Alike s t) : s.read.1.settings = t.read.1.settings := by
  rw [read, read, h.environment]

theorem fst_get (h : Alike s t) : s.get.1.settings = t.get.1.settings := by
  have hsettings := h.settings
  cases hs : s.kept with
  | none =>
    cases ht : t.kept with
    | none => rw [fst_get_of_none hs, fst_get_of_none ht, h.fst_read]
    | some y =>
      rw [hs, ht] at hsettings
      cases hsettings
  | some x =>
    cases ht : t.kept with
    | none =>
      rw [hs, ht] at hsettings
      cases hsettings
    | some y =>
      rw [hs, ht] at hsettings
      rw [fst_get_of_kept hs, fst_get_of_kept ht]
      exact Option.some.inj hsettings

theorem fst_perform (h : Alike s t) (r : Request) :
    (s.perform r).1.map Snapshot.settings = (t.perform r).1.map Snapshot.settings := by
  cases r with
  | get => exact congrArg some h.fst_get
  | read => exact congrArg some h.fst_read
  | set | unset | drop => rfl

theorem snd_perform (h : Alike s t) (r : Request) : Alike (s.perform r).2 (t.perform r).2 where
  environment := by rw [environment_perform, environment_perform, h.environment]
  settings := by
    cases r with
    | get =>
      have hs : (s.perform .get).2.kept = some s.get.1 := kept_get s
      have ht : (t.perform .get).2.kept = some t.get.1 := kept_get t
      rw [hs, ht, Option.map_some, Option.map_some, h.fst_get]
    | drop => rfl
    | set | unset | read => exact h.settings

theorem answers (h : Alike s t) (rs : List Request) :
    (s.answers rs).map (Option.map Snapshot.settings) =
      (t.answers rs).map (Option.map Snapshot.settings) := by
  induction rs generalizing s t with
  | nil => rfl
  | cons r rs ih =>
    rw [SettingsStore.answers, SettingsStore.answers, List.map_cons, List.map_cons,
      h.fst_perform r, ih (h.snd_perform r)]

end Alike

/-- Without a reading that is asked for explicitly, all other answers give the same settings. -/
theorem answers_eraseIdx (s : SettingsStore) {rs : List Request} {i : Nat}
    (h : rs[i]? = some .read) :
    (s.answers (rs.eraseIdx i)).map (Option.map Snapshot.settings) =
      ((s.answers rs).map (Option.map Snapshot.settings)).eraseIdx i := by
  obtain ⟨front, back, rfl, rfl⟩ : ∃ front back, rs = front ++ .read :: back ∧ i = front.length := by
    obtain ⟨hi, hread⟩ := List.getElem?_eq_some_iff.mp h
    refine ⟨rs.take i, rs.drop (i + 1), ?_, (List.length_take_of_le hi.le).symm⟩
    rw [← hread, List.getElem_cons_drop, List.take_append_drop]
  have hrest : ((s.after front).answers back).map (Option.map Snapshot.settings) =
      ((s.after front).read.2.answers back).map (Option.map Snapshot.settings) :=
    ((Alike.refl _).read_left.answers back).symm
  have hlength : ((s.answers front).map (Option.map Snapshot.settings)).length = front.length := by
    rw [List.length_map, length_answers]
  rw [List.eraseIdx_append_of_length_le (Nat.le_refl _), Nat.sub_self, List.eraseIdx_cons_zero,
    answers_append, answers_append, List.map_append, List.map_append, hrest,
    List.eraseIdx_append_of_length_le hlength.le, hlength, Nat.sub_self]
  rfl

/-- In every run, the settings are those of a reading at the first request for them since they were
dropped, and the same at all requests in between, whatever happens to the environment. A reading
that is asked for explicitly shows the environment of its own place, is no other answer, and makes no
difference to the settings in other answers. Snapshots with the same number are the same, and no
request but the one that drops it changes the snapshot that is kept. -/
theorem answers_readings (e : Environment) (rs : List Request) :
    let answers := (start e).answers rs
    let environment (i : Nat) : Environment := (rs.take i).foldl Request.alter e
    let reading (i : Nat) : Snapshot := ((start e).after (rs.take i)).read.1
    (∀ i, (reading i).settings = .ofEnvironment (environment i) ∧
      (reading i).settings.backendEnvironment = (environment i).set "PATH" "/bin:/usr/bin") ∧
    (∀ i : Nat, rs[i]? = some .get →
      ∃ f, FirstGet rs f i ∧ answers[i]? = some (some (reading f))) ∧
    (∀ i j : Nat, i < j → rs[i]? = some .get → rs[j]? = some .get →
      (∀ k, i < k → k < j → rs[k]? ≠ some .drop) → answers[i]? = answers[j]?) ∧
    (∀ i : Nat, rs[i]? = some .read →
      answers[i]? = some (some (reading i)) ∧
      (∀ (j : Nat) (x : Snapshot), j ≠ i → answers[j]? = some (some x) →
        x.number ≠ (reading i).number) ∧
      ((start e).answers (rs.eraseIdx i)).map (Option.map Snapshot.settings) =
        (answers.map (Option.map Snapshot.settings)).eraseIdx i) ∧
    (∀ (i j : Nat) (x y : Snapshot), answers[i]? = some (some x) → answers[j]? = some (some y) →
      x.number = y.number → x = y) ∧
    ∀ (i : Nat) (r : Request) (x : Snapshot), rs[i]? = some r → r ≠ .drop →
      ((start e).after (rs.take i)).kept = some x →
      ((start e).after (rs.take (i + 1))).kept = some x := by
  intro answers environment reading
  have hsettings (i : Nat) : (reading i).settings = .ofEnvironment (environment i) := by
    have henvironment : ((start e).after (rs.take i)).environment = environment i :=
      environment_after _ _
    rw [← henvironment]
    rfl
  have hkept (i : Nat) (r : Request) (x : Snapshot) (hr : rs[i]? = some r) (hdrop : r ≠ .drop)
      (hx : (before e rs i).kept = some x) : (before e rs (i + 1)).kept = some x := by
    rw [before_succ hr]
    exact kept_perform hx hdrop
  exact ⟨fun i => ⟨hsettings i, by rw [hsettings i]; rfl⟩, fun _ => answers_get,
    fun _ _ => answers_get_eq,
    fun _ hi => ⟨answers_read hi, fun _ _ => number_ne_of_read hi, answers_eraseIdx _ hi⟩,
    fun _ _ _ _ => snapshot_eq_of_number_eq, hkept⟩

/-- A change of the environment shows in explicit readings at once, and in the settings in force only
after they were dropped. -/
theorem answers_readings_changed :
    let rs : List Request := [.set "HOME" "/a", .get, .set "HOME" "/b", .read, .get, .drop, .get]
    let answers := (start .empty).answers rs
    answers[1]? = answers[4]? ∧
      answers.map (Option.map fun x => (x.number, x.settings.home)) =
        [none, some (0, "/a"), none, some (1, "/b"), some (0, "/a"), none, some (2, "/b")] := by
  intro rs answers
  have hkeeps : ∀ k < 4, rs[k]? ≠ some .drop := by decide
  have hreadings := answers_readings .empty rs
  exact ⟨hreadings.2.2.1 1 4 (by decide) rfl rfl fun k _ hk => hkeeps k hk, by decide +kernel⟩

end Cloister.SettingsStore
