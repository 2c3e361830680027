import Cloister.Proofs.Access.Hidden

/-! # What is seen at the preload file

The preload file is masked before the directory it lies in is cleared or shown. Where that directory
is cleared, or is not on the host, the file of the host is out of sight; where it is shown, the file
is shown with it, and the mask has no effect.

* `Access.preloadSight`: what is seen at the preload file.
* `seenAt_preload`: every compiled list shows that, unless a path of the settings or the program
  covers the file.
* `preload_shown_iff`: when the file of the host is seen in spite of its mask.
-/

namespace Cloister
set_option autoImplicit false

namespace Access

variable {a : Access} {host : Host} {path : String}

/-- What is seen at the preload file once it was masked. -/
def preloadSight (a : Access) (host : Host) : Directive :=
  if a.tokens.restricts .hideEtc then .clear (some "/etc")
  else if host "/etc" then .bindReadOnly "/etc"
  else .maskFile preloadFile

theorem isGrant_preloadSight :
    (a.preloadSight host).isGrant = true ↔
      a.tokens.restricts .hideEtc = false ∧ host "/etc" = true := by
  unfold preloadSight
  split
  · rename_i h
    simp [h, Directive.isGrant, Directive.clear, Directive.Kind.isGrant]
  · rename_i h
    split
    · rename_i he
      simp [h, he, Directive.isGrant, Directive.bindReadOnly, Directive.Kind.isGrant]
    · rename_i he
      simp [he, Directive.isGrant, Directive.maskFile, Directive.Kind.isGrant]

/-! ## The mask and its directory in the layout -/

/-- In the layout the mask stands ahead of the directory of the file. -/
def Masked (a : Access) (middle back : List Step) : Prop :=
  a.namespaces ++ a.systemLayout = a.namespaces ++ .emit (.maskFile preloadFile) ::
    (middle ++ a.hideOrRead .hideEtc "/etc" :: back)

theorem exists_masked (hr : a.tokens.restricts .preventPreload = true) :
    ∃ middle back, a.Masked middle back := by
  refine ⟨programDirectories.map (fun e => a.hideOrRead e.1 e.2) ++
      libraryDirectories.map Step.read ++ rootLinks.map (fun e => .emit (.symlink e.1 e.2)),
    [a.temporary, a.hideOrRead .hideSys "/sys"] ++ a.services ++ [a.hideOrRead .hideVar "/var"], ?_⟩
  simp only [Masked, systemLayout_eq, hr, only, if_true, List.append_assoc, List.cons_append,
    List.nil_append]

/-- Between the mask and its directory, and after the directory, nothing of the layout is mounted
over the preload file. -/
theorem layoutPaths_spare_preload : ∀ target ∈ layoutPaths,
    ([preloadFile, target].Sublist layoutPaths ∧ [target, "/etc"].Sublist layoutPaths ∨
      ["/etc", target].Sublist layoutPaths) → ¬ Path.Covers target preloadFile := by
  decide

variable {middle back : List Step}

theorem Masked.middle_spares (h : a.Masked middle back) {s : Step} (hs : s ∈ middle) :
    s.Spares preloadFile := by
  intro target ht _
  obtain ⟨m₁, m₂, hm⟩ := List.append_of_mem hs
  -- the directory itself covers the file, so it matters that the step stands before it
  have hafter : [preloadFile, target].Sublist layoutPaths :=
    targets_sublist h rfl (by simp [hs]) ht
  have hbefore : [target, "/etc"].Sublist layoutPaths := by
    have hsplit : a.namespaces ++ a.systemLayout =
        (a.namespaces ++ .emit (.maskFile preloadFile) :: m₁) ++
          s :: (m₂ ++ a.hideOrRead .hideEtc "/etc" :: back) := by
      rw [h, hm]
      simp only [List.append_assoc, List.cons_append]
    exact targets_sublist hsplit ht (by simp) (a.target?_hideOrRead .hideEtc "/etc")
  exact layoutPaths_spare_preload target (hafter.subset (by simp)) (.inl ⟨hafter, hbefore⟩)

theorem Masked.back_spares (h : a.Masked middle back) {s : Step} (hs : s ∈ back) :
    s.Spares preloadFile := by
  intro target ht _
  have hsplit : a.namespaces ++ a.systemLayout =
      (a.namespaces ++ .emit (.maskFile preloadFile) :: middle) ++
        a.hideOrRead .hideEtc "/etc" :: back := by
    rw [h]
    simp only [List.append_assoc, List.cons_append]
  have hafter : ["/etc", target].Sublist layoutPaths :=
    targets_sublist hsplit (a.target?_hideOrRead .hideEtc "/etc") hs ht
  exact layoutPaths_spare_preload target (hafter.subset (by simp)) (.inr hafter)

/-! ## What is seen -/

theorem seenAt_etc_or_mask :
    (seenAt ((a.hideOrRead .hideEtc "/etc").directives host) preloadFile).or
      (some (.maskFile preloadFile)) = some (a.preloadSight host) := by
  have hclear : (Directive.clear (some "/etc")).MountsOver preloadFile := by decide
  have hread : (Directive.bindReadOnly "/etc").MountsOver preloadFile := by decide
  unfold hideOrRead preloadSight
  split
  · rw [Step.directives, seenAt_singleton, if_pos hclear]
    rfl
  · have hadmitted : (Directive.bindReadOnly "/etc").admitted host = host "/etc" := rfl
    rw [Step.read, Step.directives, hadmitted]
    split
    · rw [seenAt_singleton, if_pos hread]
      rfl
    · rfl

theorem seenAt_content_preload (hr : a.tokens.restricts .preventPreload = true)
    (hp : ∀ q ∈ a.settings.openPaths, q ≠ "" → ¬ Path.Covers q preloadFile) :
    seenAt (a.content host) preloadFile = some (a.preloadSight host) := by
  have hmask : (Directive.maskFile preloadFile).MountsOver preloadFile := by decide
  have hsession : ∀ base ∈ a.sessionBases, base ≠ "" → ¬ Path.Covers base preloadFile :=
    sessionBases_spare hp (by decide)
  obtain ⟨middle, back, hmasked⟩ := exists_masked hr
  have hsteps : a.steps = a.namespaces ++ [.emit (.maskFile preloadFile)] ++ middle ++
      [a.hideOrRead .hideEtc "/etc"] ++
        (back ++ a.earlySession ++ a.devices ++ a.lateSession) := by
    rw [steps_eq, hmasked]
    simp only [List.append_assoc, List.cons_append, List.nil_append]
  have hmiddle : seenAt (middle.flatMap (Step.directives host)) preloadFile = none := by
    refine seenAt_flatMap_eq_none (a := a) ?_ fun s => hmasked.middle_spares
    intro s hs
    refine regular_of_mem_steps ?_
    rw [hsteps]
    exact List.mem_append_left _ (List.mem_append_left _ (List.mem_append_right _ hs))
  have hlater : seenAt ((back ++ a.earlySession ++ a.devices ++ a.lateSession).flatMap
      (Step.directives host)) preloadFile = none := by
    refine seenAt_flatMap_eq_none (a := a) ?_ ?_
    · intro s hs
      refine regular_of_mem_steps ?_
      rw [hsteps]
      exact List.mem_append_right _ hs
    · intro s hs
      simp only [List.mem_append] at hs
      rcases hs with ((hs | hs) | hs) | hs
      · exact hmasked.back_spares hs
      · exact (within_of_mem_earlySession hs).spares hsession
      · exact (within_of_mem_devices hs).spares (by decide)
      · exact (within_of_mem_lateSession hs).spares hsession
  rw [content, hsteps, List.flatMap_append, seenAt_append, hlater, Option.none_or,
    List.flatMap_append, seenAt_append, List.flatMap_singleton, List.flatMap_append, seenAt_append,
    hmiddle, Option.none_or, List.flatMap_append, seenAt_append, List.flatMap_singleton]
  rw [Step.directives.eq_1, seenAt_singleton, if_pos hmask, Option.some_or, seenAt_etc_or_mask]

theorem seenAt_preload (hr : a.tokens.restricts .preventPreload = true)
    (hp : ∀ q ∈ path :: a.settings.openPaths, q ≠ "" → ¬ Path.Covers q preloadFile) :
    seenAt (a.compile host path).directives preloadFile = some (a.preloadSight host) := by
  rw [directives_compile, List.append_assoc, seenAt_append, seenAt_locks, Option.none_or,
    seenAt_append, seenAt_program (hp path (List.mem_cons_self ..)), Option.none_or,
    seenAt_content_preload hr fun q hq => hp q (List.mem_cons_of_mem _ hq)]

end Access

/-- With its mask in the list, the preload file of the host is seen just where the directory it lies
in is shown, unless a path of the settings or the program covers it. -/
theorem preload_shown_iff (s : Settings) (host : Host) (path : String)
    (hr : s.tokens.restricts .preventPreload = true)
    (hp : ∀ q ∈ path :: s.openPaths, q ≠ "" → ¬ Path.Covers q Access.preloadFile) :
    ∃ d, seenAt (compile s host path).directives Access.preloadFile = some d ∧
      (d.isGrant = true ↔ s.tokens.restricts .hideEtc = false ∧ host "/etc" = true) := by
  rw [← Access.tokens_ofSettings] at hr ⊢
  exact ⟨_, Access.seenAt_preload hr hp, Access.isGrant_preloadSight⟩

/-- A file beside the preload file may be shown. -/
theorem preload_shown_iff_hosts :
    let s : Settings :=
      { userParams := "nosandbox,preventpreload", home := "/home/user",
        runtimeDir := "/run/user/1000", readAccess := ["/etc/hosts"] }
    ∃ d, seenAt (compile s (fun _ => true) "/usr/bin/true").directives Access.preloadFile = some d ∧
      (d.isGrant = true ↔ s.tokens.restricts .hideEtc = false ∧ true = true) :=
  preload_shown_iff _ (fun _ => true) _ (by decide) (by decide)

/-- The mask has no effect where the directory of the file is shown. -/
theorem preload_shown_in_etc :
    let s : Settings := { applicationParams := "nohideetc" }
    s.tokens.restricts .preventPreload = true ∧
      (∀ q ∈ "/usr/bin/true" :: s.openPaths, q ≠ "" → ¬ Path.Covers q Access.preloadFile) ∧
      seenAt (compile s (fun _ => true) "/usr/bin/true").directives Access.preloadFile =
        some (.bindReadOnly "/etc") := by
  decide

end Cloister
