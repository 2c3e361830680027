import Cloister.Proofs.Access.Absence
import Cloister.Proofs.Access.Switches

/-! # Hiding one directory

A directory with a restriction of its own is cleared or shown at one place of a compiled list. What
else is in the list does not depend on it, and its lock moves no other lock.

* `DifferAt`: two lists are the same but for one place.
* `plainDirectories`: the directories that a restriction hides and that nothing else depends on.
* `Access.steps_differAt`: to hide one of them changes one step.
* `DifferInHiding`: compiled lists that differ in the hiding of one directory only.
* `compile_hides_locally`: so do those that ask for the restriction and for its denial.
-/

namespace Cloister
set_option autoImplicit false

/-! ## Lists that are the same but for one place -/

/-- Two lists are the same but for one place, where `x` stands in the first and `y` in the second. -/
def DifferAt {α : Type} (x y : α) (xs ys : List α) : Prop :=
  ∃ front back, xs = front ++ x :: back ∧ ys = front ++ y :: back

namespace DifferAt

variable {α β : Type} {x y : α} {xs ys : List α}

theorem head (x y : α) (zs : List α) : DifferAt x y (x :: zs) (y :: zs) := ⟨[], zs, rfl, rfl⟩

theorem append_left (h : DifferAt x y xs ys) (zs : List α) :
    DifferAt x y (zs ++ xs) (zs ++ ys) := by
  obtain ⟨front, back, rfl, rfl⟩ := h
  exact ⟨zs ++ front, back, (List.append_assoc ..).symm, (List.append_assoc ..).symm⟩

theorem append_right (h : DifferAt x y xs ys) (zs : List α) :
    DifferAt x y (xs ++ zs) (ys ++ zs) := by
  obtain ⟨front, back, rfl, rfl⟩ := h
  exact ⟨front, back ++ zs, by rw [List.append_assoc, List.cons_append],
    by rw [List.append_assoc, List.cons_append]⟩

/-- Two functions that differ on one member make lists that differ at its place. -/
theorem flatMap {f g : β → List α} {bs : List β} {b : β} (hb : b ∈ bs) (hn : bs.Nodup)
    (h : ∀ e ∈ bs, e ≠ b → f e = g e) (hd : DifferAt x y (f b) (g b)) :
    DifferAt x y (bs.flatMap f) (bs.flatMap g) := by
  obtain ⟨front, back, rfl⟩ := List.append_of_mem hb
  obtain ⟨-, hback, hapart⟩ := List.nodup_append.mp hn
  have hfront : front.flatMap f = front.flatMap g := by
    refine List.flatMap_congr fun e he => h e (List.mem_append_left _ he) ?_
    exact hapart e he b List.mem_cons_self
  have hrest : back.flatMap f = back.flatMap g := by
    refine List.flatMap_congr fun e he => h e ?_ ?_
    · exact List.mem_append_right _ (List.mem_cons_of_mem _ he)
    · rintro rfl
      exact (List.nodup_cons.mp hback).1 he
  rw [List.flatMap_append, List.flatMap_append, List.flatMap_cons, List.flatMap_cons, hfront, hrest]
  exact (hd.append_right _).append_left _

end DifferAt

/-! ## Directories with a restriction of their own -/

/-- The directories that a restriction hides and that nothing else depends on, each with the
restriction. -/
def plainDirectories : List (Capability × String) :=
  Access.programDirectories ++ [(.hideEtc, "/etc"), (.hideSys, "/sys"), (.hideVar, "/var")]

section Plain
variable {c d : Capability} {p : String} (hc : (c, p) ∈ plainDirectories)
include hc

theorem restriction_of_mem_plainDirectories : c ∈ Capability.restrictions := by
  have h : ∀ e ∈ plainDirectories, e.1 ∈ Capability.restrictions := by decide
  exact h (c, p) hc

theorem path_ne_of_mem_plainDirectories : p ≠ "" ∧ p ≠ "/" := by
  have h : ∀ e ∈ plainDirectories, e.2 ≠ "" ∧ e.2 ≠ "/" := by decide
  exact h (c, p) hc

theorem ne_of_notMem_plainDirectories (hd : d ∉ plainDirectories.map Prod.fst) : d ≠ c := by
  rintro rfl
  exact hd (List.mem_map.mpr ⟨_, hc, rfl⟩)

theorem fst_ne_of_mem_plainDirectories {e : Capability × String} (he : e ∈ plainDirectories)
    (hne : e ≠ (c, p)) : e.1 ≠ c := by
  have h : ∀ e ∈ plainDirectories, ∀ e' ∈ plainDirectories, e ≠ e' → e.1 ≠ e'.1 := by decide
  exact h e he (c, p) hc hne

end Plain

namespace Access

variable {a b : Access} {c : Capability} {p : String}

/-- What follows each of the directories in the layout of the system. -/
def following (a : Access) : Capability → List Step
  | .hideLibexec =>
    libraryDirectories.map Step.read ++ rootLinks.map fun e => .emit (.symlink e.1 e.2)
  | .hideEtc => [a.temporary]
  | .hideSys => a.services
  | _ => []

theorem systemLayout_eq_flatMap (a : Access) :
    a.systemLayout = only (a.tokens.restricts .preventPreload) [.emit (.maskFile preloadFile)] ++
      plainDirectories.flatMap fun e => a.hideOrRead e.1 e.2 :: a.following e.1 := by
  simp only [systemLayout_eq, plainDirectories, programDirectories, following, List.map_cons,
    List.map_nil, List.flatMap_cons, List.flatMap_nil, List.append_assoc, List.cons_append,
    List.nil_append, List.append_nil]

theorem following_eq (h : AgreesOn (· ≠ c) a b) (hc : (c, p) ∈ plainDirectories)
    (d : Capability) : a.following d = b.following d := by
  have htemporary := h.temporary_eq (ne_of_notMem_plainDirectories hc (by decide))
  have hservices := h.services_eq fun d hd => ne_of_notMem_plainDirectories hc
    ((by decide : ∀ d ∈ [Capability.hideRun, .unshareNetwork],
      d ∉ plainDirectories.map Prod.fst) d hd)
  cases d <;> simp only [following, htemporary, hservices]

/-- To hide one of the directories changes one step. -/
theorem steps_differAt (h : AgreesOn (· ≠ c) a b) (hc : (c, p) ∈ plainDirectories) :
    DifferAt (a.hideOrRead c p) (b.hideOrRead c p) a.steps b.steps := by
  have hother (cs : List Capability) (hcs : ∀ d ∈ cs, d ∉ plainDirectories.map Prod.fst) :
      ∀ d ∈ cs, d ≠ c :=
    fun d hd => ne_of_notMem_plainDirectories hc (hcs d hd)
  have hpreload := h.restricts .preventPreload (by decide)
    (ne_of_notMem_plainDirectories hc (by decide))
  have hlayout : DifferAt (a.hideOrRead c p) (b.hideOrRead c p) a.systemLayout b.systemLayout := by
    rw [systemLayout_eq_flatMap, systemLayout_eq_flatMap, hpreload]
    refine (DifferAt.flatMap hc (by decide) (fun e he hne => ?_) ?_).append_left _
    -- the other directories, and then what follows the one itself
    · rw [following_eq h hc, h.hideOrRead_eq (restriction_of_mem_plainDirectories he)
        (fst_ne_of_mem_plainDirectories hc he hne)]
    · rw [following_eq h hc]
      exact .head _ _ _
  -- no other group of rules looks at the restriction
  rw [steps, steps, h.namespaces_eq (hother _ (by decide)), systemDirectories, systemDirectories,
    h.readAccess, h.runtimeSockets_eq (hother _ (by decide)), h.devices_eq (hother _ (by decide)),
    h.homeDirectory_eq (hother _ (by decide)), h.displays_eq,
    h.messageBus_eq (ne_of_notMem_plainDirectories hc (by decide))]
  exact ((((((hlayout.append_right _).append_left _).append_right _).append_right _).append_right
    _).append_right _).append_right _

/-! ## Compiled lists -/

/-- The locks of a finished list, without that of one directory. -/
theorem filter_map_lock (ps : List String) (p : String) :
    (ps.map fun q => Directive.lock (some q)).filter (· ≠ .lock (some p)) =
      (ps.filter (· ≠ p)).map fun q => .lock (some q) := by
  have hinj (q : String) : Directive.lock (some q) ≠ .lock (some p) ↔ q ≠ p := by
    simp [Directive.lock]
  rw [List.filter_map]
  refine congrArg _ (List.filter_congr fun q _ => ?_)
  rw [Function.comp_apply, decide_eq_decide]
  exact hinj q

/-- Apart from the lock of one directory, its hiding changes no lock. -/
theorem erase_locked_of_differAt (h : DifferAt (.clear p) (.read p) a.steps b.steps) :
    a.locked.erase p = b.locked.erase p := by
  obtain ⟨front, back, ha, hb⟩ := h
  have hread : (Step.read p).cleared? = none := rfl
  have hclear : (Step.clear p).cleared? = some p := rfl
  have hdropped (ps : List String) : (p :: ps).filter (fun q => decide (q ≠ p)) =
      ps.filter (fun q => decide (q ≠ p)) := by
    simp
  rw [locked_eq, locked_eq, Distinct.erase_insertAll, Distinct.erase_insertAll, ha, hb,
    List.filterMap_append, List.filterMap_append, List.filterMap_cons_none hread,
    List.filterMap_cons_some hclear, List.filter_append, List.filter_append, hdropped]

end Access

/-- Two compiled lists differ in the hiding of one directory only: before the locks it is cleared at
the place where the second list shows it, if it is on the host, and its lock is beside the same
locks. -/
def DifferInHiding (host : Host) (p : String) (ds ds' : List Directive) : Prop :=
  ∃ before after locks locks' : List Directive,
    ds = before ++ .clear (some p) :: after ++ locks ++ [.terminator] ∧
    ds' = before ++ (if host p = true then [.bindReadOnly p] else []) ++ after ++ locks' ++
      [.terminator] ∧
    (∀ d ∈ before ++ after, d.kind ≠ .lock ∧ d.kind ≠ .terminator) ∧
    (∀ d ∈ locks ++ locks', d.kind = .lock) ∧
    .lock (some p) ∈ locks ∧
    locks.filter (· ≠ .lock (some p)) = locks'.filter (· ≠ .lock (some p))

namespace Access

variable {a b : Access} {c : Capability} {p : String}

theorem differInHiding_of_differAt (h : DifferAt (.clear p) (.read p) a.steps b.steps)
    (hp : p ≠ "") (host : Host) (path : String) :
    DifferInHiding host p (a.compile host path).directives (b.compile host path).directives := by
  have hclear : .lock (some p) ∈ a.locked.toList.map fun q => Directive.lock (some q) := by
    obtain ⟨front, back, ha, -⟩ := h
    have hstep : Step.clear p ∈ a.steps := ha ▸ List.mem_append_right _ List.mem_cons_self
    exact List.mem_map.mpr ⟨p, a.mem_toList_locked.mpr (.inr hstep), rfl⟩
  have herase : a.locked.toList.filter (· ≠ p) = b.locked.toList.filter (· ≠ p) := by
    rw [← Distinct.toList_erase, ← Distinct.toList_erase, erase_locked_of_differAt h]
  have hread : (Step.read p).directives host = if host p = true then [.bindReadOnly p] else [] := by
    rw [directives_read, toList_program]
    simp only [hp, ne_eq, not_false_eq_true, true_and]
  obtain ⟨front, back, ha, hb⟩ :
      DifferAt (.clear p) (.read p) (a.stepsWith path) (b.stepsWith path) := h.append_right _
  refine ⟨front.flatMap (Step.directives host), back.flatMap (Step.directives host),
    a.locked.toList.map fun q => .lock (some q), b.locked.toList.map fun q => .lock (some q),
    ?_, ?_, fun d hd => ?_, fun d hd => ?_, hclear, ?_⟩
  · rw [directives_compile_stepsWith, ha, closing, List.flatMap_append, List.flatMap_cons,
      List.append_assoc _ (a.locked.toList.map _)]
    rfl
  · rw [directives_compile_stepsWith, hb, closing, List.flatMap_append, List.flatMap_cons, hread]
    simp only [List.append_assoc]
  · rw [← List.flatMap_append] at hd
    obtain ⟨s, hs, hd⟩ := List.mem_flatMap.mp hd
    have hstep : s ∈ a.stepsWith path := by
      rw [ha, List.mem_append, List.mem_cons]
      exact (List.mem_append.mp hs).imp_right .inr
    exact (regular_of_mem_stepsWith a hstep).kind_open hd
  · rcases List.mem_append.mp hd with hd | hd <;>
    · obtain ⟨q, -, rfl⟩ := List.mem_map.mp hd
      rfl
  · rw [filter_map_lock, filter_map_lock, herase]

variable {s : Settings} {t u v : TokenSet}

theorem differInHiding_withTokens (hc : (c, p) ∈ plainDirectories) (hsaid : c.denial ∉ t)
    (hu : ∀ x, x ∈ u ↔ x ∈ t.insert c.name) (hv : ∀ x, x ∈ v ↔ x ∈ t.insert c.denial)
    (host : Host) (path : String) :
    DifferInHiding host p ((withTokens s u).compile host path).directives
      ((withTokens s v).compile host path).directives := by
  have hsingle : c ∈ Capability.single :=
    List.mem_append_left _ (restriction_of_mem_plainDirectories hc)
  have hagree : AgreesOn (· ≠ c) (withTokens s u) (withTokens s v) :=
    agreesOn_of_beside hsingle (ne_of_notMem_plainDirectories hc (by decide)).symm
      (ne_of_notMem_plainDirectories hc (by decide)).symm ((Settings.Asks.refl s).alike (.refl s))
      ((TokenSet.agreeBeside_of_insert hu).trans (TokenSet.agreeBeside_of_insert_denial hv).symm)
  have hhides : u.restricts c = true :=
    TokenSet.restricts_of_named ((hu _).mpr (Distinct.mem_insert.mpr (.inl rfl)))
      ((TokenSet.denial_mem_of_insert hu hsingle).not.mpr hsaid)
  have hshows : v.restricts c = false :=
    TokenSet.restricts_of_denied ((hv _).mpr (Distinct.mem_insert.mpr (.inl rfl)))
  have hsteps := steps_differAt hagree hc
  have hclear : (withTokens s u).hideOrRead c p = .clear p := if_pos hhides
  have hread : (withTokens s v).hideOrRead c p = .read p :=
    if_neg (Bool.eq_false_iff.mp hshows)
  rw [hclear, hread] at hsteps
  exact differInHiding_of_differAt hsteps (path_ne_of_mem_plainDirectories hc).1 host path

/-- The lists of capabilities matter by their tokens only. -/
theorem compile_eq_withTokens {s' : Settings} (h : s'.Asks s u) (host : Host) (path : String) :
    Cloister.compile s' host path = (withTokens s s'.tokens).compile host path := by
  have hagree : AgreesOn (fun _ => True) (withTokens s' s'.tokens) (withTokens s s'.tokens) :=
    .of_closed (.of_alike (h.alike (.refl s)) (fun _ _ _ => rfl) (fun _ _ _ => rfl) trivial
      fun _ => .rfl) rfl
  rw [Cloister.compile, ofSettings_eq_withTokens, hagree.compile_eq]

end Access

/-- Hiding a directory changes a compiled list at one place, whatever else is asked for. The
directory is cleared there instead of being shown, and all other directives and all other locks stay
as they are, also if the directory is locked for another reason. -/
theorem compile_hides_locally (s : Settings) {c : Capability} {p : String}
    (hc : (c, p) ∈ plainDirectories) {t : TokenSet} (hsaid : c.denial ∉ t) (host : Host)
    (path : String) :
    DifferInHiding host p ((Access.withTokens s (t.insert c.name)).compile host path).directives
        ((Access.withTokens s (t.insert c.denial)).compile host path).directives ∧
      ∀ u v : Settings, u.Asks s (t.insert c.name) → v.Asks s (t.insert c.denial) →
        DifferInHiding host p (compile u host path).directives
          (compile v host path).directives := by
  refine ⟨Access.differInHiding_withTokens hc hsaid (fun _ => .rfl) (fun _ => .rfl) host path,
    fun u v hu hv => ?_⟩
  rw [Access.compile_eq_withTokens hu, Access.compile_eq_withTokens hv]
  exact Access.differInHiding_withTokens hc hsaid hu.mem_tokens hv.mem_tokens host path

/-- The directory may be that of the sockets too. Then both lists lock it, each at another place. -/
theorem compile_hides_locally_sockets :
    let s : Settings := { runtimeDir := "/etc", home := "/home/user" }
    let t : TokenSet := .ofList ["hidesockets", "nosandbox", "hideusr"]
    let hidden : Settings := { s with userParams := "hidesockets,nosandbox,hideusr,hideetc" }
    let shown : Settings := { s with userParams := "hidesockets,nosandbox,hideusr,nohideetc" }
    Directive.lock (some "/etc") ∈ (compile shown (fun _ => true) "/usr/bin/true").directives ∧
      DifferInHiding (fun _ => true) "/etc"
        ((Access.withTokens s (t.insert "hideetc")).compile (fun _ => true)
          "/usr/bin/true").directives
        ((Access.withTokens s (t.insert "nohideetc")).compile (fun _ => true)
          "/usr/bin/true").directives ∧
      DifferInHiding (fun _ => true) "/etc"
        (compile hidden (fun _ => true) "/usr/bin/true").directives
        (compile shown (fun _ => true) "/usr/bin/true").directives := by
  intro s t hidden shown
  have hhidden : hidden.Asks s (t.insert Capability.hideEtc.name) :=
    ⟨⟨_, _, rfl⟩, Distinct.sameMembers_iff.mp (by decide +kernel)⟩
  have hshown : shown.Asks s (t.insert Capability.hideEtc.denial) :=
    ⟨⟨_, _, rfl⟩, Distinct.sameMembers_iff.mp (by decide +kernel)⟩
  have hlocal := compile_hides_locally s (c := .hideEtc) (p := "/etc") (t := t) (by decide)
    (by decide +kernel) (fun _ => true) "/usr/bin/true"
  exact ⟨by decide +kernel, hlocal.1, hlocal.2 hidden shown hhidden hshown⟩

end Cloister
