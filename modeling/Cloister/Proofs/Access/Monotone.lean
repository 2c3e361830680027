import Cloister.Proofs.Access.Absence
import Cloister.Proofs.Access.Switches

/-! # Tokens act monotonically

A token that restricts takes grants away and clears more; a token that grants adds grants and clears
less. There is one exception: where the directory of services becomes hidden, the directory for name
resolution in it has to be shown by itself.

* `Narrower`: steps grant no more than others, and clear all that these clear.
* `Access.Tighter`: rules restrict no less than others and allow no more.
* `Access.Tighter.narrower_steps`: tighter rules take narrower steps.
* `compile_monotone`: what one more token does to a compiled list.
-/

namespace Cloister
set_option autoImplicit false

/-- The grants in a list. -/
def grantsIn (ds : List Directive) : List Directive := ds.filter Directive.isGrant

/-- The directories that a list clears. -/
def clearedIn (ds : List Directive) : List (Option String) :=
  (ds.filter fun d => d.kind == .clear).map Directive.target

/-! ## Narrower steps -/

/-- The steps `xs` grant no more than the steps `ys`, some directives apart, and clear all that the
steps `ys` clear. -/
structure Narrower (host : Host) (regained : Directive → Prop) (xs ys : List Step) : Prop where
  grants : ∀ d ∈ xs.flatMap (Step.directives host), d.isGrant = true →
    d ∈ ys.flatMap (Step.directives host) ∨ regained d
  clears : ∀ d ∈ ys.flatMap (Step.directives host), d.kind = .clear →
    d ∈ xs.flatMap (Step.directives host)

namespace Narrower

variable {host : Host} {regained : Directive → Prop} {xs ys xs' ys' : List Step}

theorem of_eq (h : xs = ys) : Narrower host regained xs ys := by
  subst h
  exact ⟨fun _ hd _ => .inl hd, fun _ hd _ => hd⟩

theorem append (h : Narrower host regained xs ys) (h' : Narrower host regained xs' ys') :
    Narrower host regained (xs ++ xs') (ys ++ ys') where
  grants := by
    intro d hd hg
    rw [List.flatMap_append, List.mem_append] at hd ⊢
    rcases hd with hd | hd
    · exact (h.grants d hd hg).imp_left .inl
    · exact (h'.grants d hd hg).imp_left .inr
  clears := by
    intro d hd hk
    rw [List.flatMap_append, List.mem_append] at hd ⊢
    rcases hd with hd | hd
    · exact .inl (h.clears d hd hk)
    · exact .inr (h'.clears d hd hk)

theorem cons (s : Step) (h : Narrower host regained xs ys) :
    Narrower host regained (s :: xs) (s :: ys) :=
  (of_eq rfl : Narrower host regained [s] [s]).append h

/-- Steps that grant nothing are narrower than steps that clear nothing. -/
theorem of_opposite (hx : ∀ s ∈ xs, ∀ d ∈ s.directives host, d.isGrant = false)
    (hy : ∀ s ∈ ys, ∀ d ∈ s.directives host, d.kind ≠ .clear) :
    Narrower host regained xs ys where
  grants := by
    intro d hd hg
    obtain ⟨s, hs, hd⟩ := List.mem_flatMap.mp hd
    rw [hx s hs d hd] at hg
    cases hg
  clears := by
    intro d hd hk
    obtain ⟨s, hs, hd⟩ := List.mem_flatMap.mp hd
    exact absurd hk (hy s hs d hd)

theorem map {α : Type} {f g : α → Step} {as : List α}
    (h : ∀ x ∈ as, Narrower host regained [f x] [g x]) :
    Narrower host regained (as.map f) (as.map g) := by
  induction as with
  | nil => exact of_eq rfl
  | cons x as ih =>
    have hhead := h x (List.mem_cons_self ..)
    exact hhead.append (ih fun y hy => h y (List.mem_cons_of_mem _ hy))

theorem flatMap {α : Type} {f g : α → List Step} {as : List α}
    (h : ∀ x ∈ as, Narrower host regained (f x) (g x)) :
    Narrower host regained (as.flatMap f) (as.flatMap g) := by
  induction as with
  | nil => exact of_eq rfl
  | cons x as ih =>
    have hhead := h x (List.mem_cons_self ..)
    exact hhead.append (ih fun y hy => h y (List.mem_cons_of_mem _ hy))

end Narrower

namespace Access

variable {a b : Access} {host : Host} {regained : Directive → Prop}

theorem narrower_only {p q : Bool} {steps : List Step} (hpq : p = true → q = true)
    (hs : ∀ s ∈ steps, ∃ x, s = .grant x ∧ x.kind ≠ .clear) :
    Narrower host regained (only p steps) (only q steps) := by
  cases p with
  | true => exact .of_eq (by rw [hpq rfl])
  | false =>
    refine .of_opposite (fun s hs => absurd hs List.not_mem_nil) fun s h d hd => ?_
    obtain ⟨x, rfl, hx⟩ := hs s (mem_only.mp h).2
    rw [Step.eq_of_mem_grant hd]
    exact hx

theorem exists_grant_of_mem_read {path : String} {s : Step} (hs : s ∈ [Step.read path]) :
    ∃ x, s = .grant x ∧ x.kind ≠ .clear :=
  ⟨_, List.mem_singleton.mp hs, nofun⟩

theorem exists_grant_of_mem_write {path : String} {s : Step} (hs : s ∈ [a.write path]) :
    ∃ x, s = .grant x ∧ x.kind ≠ .clear := by
  refine ⟨_, List.mem_singleton.mp hs, ?_⟩
  split <;> nofun

/-! ## Tighter rules -/

/-- The rules of `a` restrict no less than those of `b` and allow no more, and are the same in all
else. -/
structure Tighter (a b : Access) : Prop where
  agrees : AgreesOn (· = .protectHome) a b
  restricts : ∀ c ∈ Capability.restrictions, b.tokens.restricts c = true →
    a.tokens.restricts c = true
  allows : ∀ c ∈ Capability.grants, a.tokens.allows c = true → b.tokens.allows c = true

/-- What tighter rules show by itself: the directory for name resolution, where they hide the
directory of services and leave the network alone. -/
def Regains (a b : Access) (d : Directive) : Prop :=
  a.tokens.restricts .hideRun = true ∧ b.tokens.restricts .hideRun = false ∧
    a.tokens.restricts .unshareNetwork = false ∧ d = .bindReadOnly resolverDir

theorem not_regains (h : a.tokens.restricts .hideRun = b.tokens.restricts .hideRun)
    (d : Directive) : ¬ a.Regains b d := by
  rintro ⟨hrun, hopen, -, -⟩
  rw [hrun, hopen] at h
  cases h

/-- All that separates a sandbox from its host grants nothing and clears nothing, but for the root of
the host. -/
theorem plain_of_mem_namespaces {s : Step} (hs : s ∈ a.closed.namespaces) {d : Directive}
    (hd : d ∈ s.directives host) : d.isGrant = false ∧ d.kind ≠ .clear := by
  rcases mem_namespaces.mp hs with (⟨h, -⟩ | rfl | rfl | rfl) | ⟨-, rfl | rfl⟩ | ⟨-, rfl⟩ |
    ⟨-, rfl⟩ | rfl | ⟨-, rfl⟩
  case inl.inl => cases h
  all_goals
    rw [List.mem_singleton.mp hd]
    exact ⟨rfl, nofun⟩

theorem narrower_deviceGrants {xs ys : List String} (h : xs ⊆ ys) :
    Narrower host regained (deviceGrants [] xs) (deviceGrants [] ys) where
  grants := by
    intro d hd _
    obtain ⟨s, hs, hd⟩ := List.mem_flatMap.mp hd
    obtain ⟨name, hname, rfl | ⟨path, hpath, rfl⟩⟩ := mem_deviceGrants hs
    · cases hd
    · exact .inl (List.mem_flatMap.mpr
        ⟨_, grant_mem_deviceGrants List.not_mem_nil (h hname) hpath, hd⟩)
  clears := by
    intro d hd hk
    obtain ⟨s, hs, hd⟩ := List.mem_flatMap.mp hd
    obtain ⟨name, -, rfl | ⟨path, -, rfl⟩⟩ := mem_deviceGrants hs
    · cases hd
    · rw [Step.eq_of_mem_grant hd] at hk
      cases hk

/-- To clear a directory is narrower than to show something. -/
theorem narrower_clear (path : String) {x : Directive} (hx : x.kind ≠ .clear) :
    Narrower host regained [.clear path] [.grant x] := by
  refine .of_opposite (fun s hs d hd => ?_) fun s hs d hd => ?_
  · rw [List.mem_singleton.mp hs] at hd
    rw [List.mem_singleton.mp hd]
    rfl
  · rw [List.mem_singleton.mp hs] at hd
    rw [Step.eq_of_mem_grant hd]
    exact hx

namespace Tighter

variable (h : Tighter a b)
include h

theorem not_restricts {c : Capability} (hc : c ∈ Capability.restrictions)
    (ha : ¬ a.tokens.restricts c = true) : ¬ b.tokens.restricts c = true :=
  fun hb => ha (h.restricts c hc hb)

theorem narrower_hideOrRead {c : Capability} (hc : c ∈ Capability.restrictions) (path : String) :
    Narrower host regained [a.hideOrRead c path] [b.hideOrRead c path] := by
  unfold hideOrRead
  by_cases ha : a.tokens.restricts c = true
  · rw [if_pos ha]
    split
    · exact .of_eq rfl
    · exact narrower_clear path nofun
  · exact .of_eq (by rw [if_neg ha, if_neg (h.not_restricts hc ha)])

/-! ## The system -/

theorem narrower_namespaces : Narrower host regained a.namespaces b.namespaces := by
  rw [a.namespaces_eq_closed, b.namespaces_eq_closed, h.agrees.permissive]
  exact (Narrower.of_eq rfl).append (.of_opposite
    (fun _ hs _ hd => (plain_of_mem_namespaces hs hd).1)
    fun _ hs _ hd => (plain_of_mem_namespaces hs hd).2)

theorem narrower_temporary : Narrower host regained [a.temporary] [b.temporary] := by
  unfold temporary
  by_cases ha : a.tokens.restricts .hideTmp = true
  · rw [if_pos ha]
    split
    · exact .of_eq rfl
    · split
      -- the directory is cleared on both sides, whether or not it is locked in the end
      · exact ⟨fun _ hd _ => .inl hd, fun _ hd _ => hd⟩
      · exact narrower_clear "/tmp" nofun
  · have hb := h.not_restricts (c := .hideTmp) (by decide) ha
    exact .of_eq (by rw [if_neg ha, if_neg hb, h.agrees.ephemeral])

theorem narrower_services : Narrower host (a.Regains b) a.services b.services := by
  unfold services
  by_cases ha : a.tokens.restricts .hideRun = true
  · rw [if_pos ha]
    split
    · refine .cons _ (narrower_only ?_ fun _ => exists_grant_of_mem_read)
      intro hnetwork
      have hopen := h.not_restricts (c := .unshareNetwork) (by decide) (by simpa using hnetwork)
      simpa using hopen
    · rename_i hb
      constructor
      · intro d hd hg
        obtain ⟨s, hs, hd⟩ := List.mem_flatMap.mp hd
        rcases List.mem_cons.mp hs with rfl | hs
        · rw [List.mem_singleton.mp hd] at hg
          cases hg
        · obtain ⟨hnetwork, hs⟩ := mem_only.mp hs
          rw [List.mem_singleton.mp hs] at hd
          exact .inr ⟨ha, by simpa using hb, by simpa using hnetwork, Step.eq_of_mem_grant hd⟩
      · intro d hd hk
        rw [List.flatMap_singleton] at hd
        rw [Step.eq_of_mem_grant hd] at hk
        cases hk
  · have hb := h.not_restricts (c := .hideRun) (by decide) ha
    exact .of_eq (by rw [if_neg ha, if_neg hb])

theorem narrower_systemDirectories :
    Narrower host (a.Regains b) a.systemDirectories b.systemDirectories := by
  have hpreload : Narrower host (a.Regains b)
      (only (a.tokens.restricts .preventPreload) [.emit (.maskFile preloadFile)])
      (only (b.tokens.restricts .preventPreload) [.emit (.maskFile preloadFile)]) := by
    have hmask (p : Bool) : ∀ s ∈ only p [.emit (.maskFile preloadFile)],
        ∀ d ∈ s.directives host, d.isGrant = false ∧ d.kind ≠ .clear := by
      intro s hs d hd
      rw [List.mem_singleton.mp (mem_only.mp hs).2] at hd
      rw [List.mem_singleton.mp hd]
      exact ⟨rfl, nofun⟩
    exact .of_opposite (fun s hs d hd => (hmask _ s hs d hd).1) fun s hs d hd => (hmask _ s hs d hd).2
  have hprograms : Narrower host (a.Regains b)
      (programDirectories.map fun e => a.hideOrRead e.1 e.2)
      (programDirectories.map fun e => b.hideOrRead e.1 e.2) := by
    have hmem : ∀ e ∈ programDirectories, e.1 ∈ Capability.restrictions := by decide
    exact .map fun e he => h.narrower_hideOrRead (hmem e he) e.2
  have hetc : Narrower host (a.Regains b)
      [a.hideOrRead .hideEtc "/etc", a.temporary, a.hideOrRead .hideSys "/sys"]
      [b.hideOrRead .hideEtc "/etc", b.temporary, b.hideOrRead .hideSys "/sys"] :=
    (h.narrower_hideOrRead (by decide) "/etc").append
      (h.narrower_temporary.append (h.narrower_hideOrRead (by decide) "/sys"))
  rw [systemDirectories, systemDirectories, systemLayout_eq, systemLayout_eq,
    h.agrees.readAccess]
  exact ((((((hpreload.append hprograms).append (.of_eq rfl)).append (.of_eq rfl)).append
    hetc).append h.narrower_services).append
      (h.narrower_hideOrRead (by decide) "/var")).append (.of_eq rfl)

/-! ## The session -/

theorem narrower_runtimeSockets : Narrower host regained a.runtimeSockets b.runtimeSockets := by
  have hsockets : ∀ e ∈ grantedSockets, e.1 ∈ Capability.grants := by decide
  have hgranted : Narrower host regained
      (grantedSockets.flatMap fun e => only (a.tokens.allows e.1) [.read (b.runtimePath e.2)])
      (grantedSockets.flatMap fun e => only (b.tokens.allows e.1) [.read (b.runtimePath e.2)]) :=
    .flatMap fun e he => narrower_only (h.allows e.1 (hsockets e he))
      fun _ => exists_grant_of_mem_read
  have hdconf : Narrower host regained
      (only (a.tokens.allows .allowDconf) [b.write (b.runtimePath "dconf")])
      (only (b.tokens.allows .allowDconf) [b.write (b.runtimePath "dconf")]) :=
    narrower_only (h.allows .allowDconf (by decide)) fun _ => exists_grant_of_mem_write
  have hbase : Narrower host regained [a.hideOrRead .hideSockets b.settings.runtimeDir]
      [b.hideOrRead .hideSockets b.settings.runtimeDir] :=
    h.narrower_hideOrRead (by decide) b.settings.runtimeDir
  simp only [runtimeSockets, h.agrees.hasRuntimeDir_eq, h.agrees.runtimePath_eq, h.agrees.write_eq,
    h.agrees.runtimeDir, h.agrees.socketAccess]
  cases b.hasRuntimeDir with
  | false => exact .of_eq rfl
  | true => exact ((hbase.append hgranted).append hdconf).append (.of_eq rfl)

theorem deviceNames_subset : a.deviceNames ⊆ b.deviceNames := by
  intro name hname
  simp only [deviceNames, List.mem_append, List.mem_ite_nil_right] at hname ⊢
  rw [← h.agrees.deviceAccess]
  exact hname.imp_left fun hname => hname.imp
    (fun hname => hname.imp (fun hg => hg.imp_left (h.allows .allowGpu (by decide)))
      fun hg => hg.imp_left (h.allows .allowUsb (by decide)))
    fun hg => hg.imp_left (h.allows .allowShm (by decide))

theorem narrower_devices : Narrower host regained a.devices b.devices := by
  have hbase : Narrower host regained
      [if a.tokens.restricts .hideDevices then .emit (.minimalDev deviceDir)
        else .emit (.bindDevice deviceDir true)]
      [if b.tokens.restricts .hideDevices then .emit (.minimalDev deviceDir)
        else .emit (.bindDevice deviceDir true)] := by
    by_cases ha : a.tokens.restricts .hideDevices = true
    · rw [if_pos ha]
      refine .of_opposite (fun s hs d hd => ?_) fun s hs d hd => ?_
      · rw [List.mem_singleton.mp hs] at hd
        rw [List.mem_singleton.mp hd]
        rfl
      · rw [List.mem_singleton.mp hs] at hd
        split at hd <;> (rw [List.mem_singleton.mp hd]; nofun)
    · have hb := h.not_restricts (c := .hideDevices) (by decide) ha
      exact .of_eq (by rw [if_neg ha, if_neg hb])
  have hshm : Narrower host regained (only (!a.tokens.allows .allowShm) [.clear sharedMemory])
      (only (!b.tokens.allows .allowShm) [.clear sharedMemory]) := by
    cases ha : a.tokens.allows .allowShm with
    | true => exact .of_eq (by rw [h.allows .allowShm (by decide) ha])
    | false =>
      refine ⟨fun d hd hg => ?_, fun d hd _ => ?_⟩
      · rw [Bool.not_false, only, if_pos rfl, List.flatMap_singleton] at hd
        rw [List.mem_singleton.mp hd] at hg
        cases hg
      · obtain ⟨s, hs, hd⟩ := List.mem_flatMap.mp hd
        exact List.mem_flatMap.mpr ⟨s, mem_only.mpr ⟨rfl, (mem_only.mp hs).2⟩, hd⟩
  exact (hbase.append hshm).append (narrower_deviceGrants h.deviceNames_subset)

theorem narrower_homeDirectory : Narrower host regained a.homeDirectory b.homeDirectory := by
  have hdownloads : Narrower host regained
      (only (a.tokens.allows .allowDownloads) [b.write (Path.join b.settings.home downloads)])
      (only (b.tokens.allows .allowDownloads) [b.write (Path.join b.settings.home downloads)]) :=
    narrower_only (h.allows .allowDownloads (by decide)) fun _ => exists_grant_of_mem_write
  have hwrite : a.write = b.write := funext h.agrees.write_eq
  rw [homeDirectory, homeDirectory, h.agrees.homeBase_eq rfl, hwrite, h.agrees.home,
    h.agrees.homeAccess]
  cases b.settings.home != "" with
  | false => exact .of_eq rfl
  | true => exact (hdownloads.cons _).append (.of_eq rfl)

theorem narrower_messageBus : Narrower host regained a.messageBus b.messageBus := by
  rw [messageBus, messageBus, h.agrees.hasRuntimeDir_eq, h.agrees.runtimePath_eq]
  refine narrower_only (h.allows .allowDbus (by decide)) fun s hs => ?_
  rcases List.mem_cons.mp hs with rfl | hs
  · exact exists_grant_of_mem_read (List.mem_singleton_self _)
  · exact exists_grant_of_mem_read (mem_only.mp hs).2

/-! ## All rules -/

theorem narrower_steps : Narrower host (a.Regains b) a.steps b.steps :=
  (((((h.narrower_namespaces.append h.narrower_systemDirectories).append
    h.narrower_runtimeSockets).append h.narrower_devices).append h.narrower_homeDirectory).append
      (.of_eq h.agrees.displays_eq)).append h.narrower_messageBus

theorem narrower_stepsWith (path : String) :
    Narrower host (a.Regains b) (a.stepsWith path) (b.stepsWith path) :=
  h.narrower_steps.append (.of_eq rfl)

theorem grants_compile {path : String} {d : Directive}
    (hd : d ∈ grantsIn (a.compile host path).directives) :
    d ∈ grantsIn (b.compile host path).directives ∨ a.Regains b d := by
  rw [grantsIn, List.mem_filter, directives_compile_stepsWith, List.mem_append] at hd ⊢
  obtain ⟨hd | hd, hg⟩ := hd
  · exact ((h.narrower_stepsWith path).grants d hd hg).imp_left fun hd => ⟨.inl hd, hg⟩
  · rw [a.isGrant_of_mem_closing hd] at hg
    cases hg

theorem cleared_compile (path : String) :
    clearedIn (b.compile host path).directives ⊆ clearedIn (a.compile host path).directives := by
  refine List.map_subset _ fun d hd => ?_
  simp only [List.mem_filter, directives_compile_stepsWith, List.mem_append, beq_iff_eq] at hd ⊢
  obtain ⟨hd | hd, hk⟩ := hd
  · exact ⟨.inl ((h.narrower_stepsWith path).clears d hd hk), hk⟩
  · rcases b.kind_of_mem_closing hd with h' | h' <;> cases h'.symm.trans hk

end Tighter

/-! ## One more token -/

variable {s t : Settings} {c : Capability}

theorem tighter_of_restriction (hc : c ∈ Capability.restrictions) (hprotect : c ≠ .protectHome)
    (ht : t.Asks s (s.tokens.insert c.name)) : Tighter (ofSettings t) (ofSettings s) := by
  have hagree : AgreesOn (· ≠ c) (ofSettings s) (ofSettings t) :=
    agreesOn_of_insert (List.mem_append_left _ hc) (Capability.restriction_ne_grant hc (by decide))
      hprotect ht
  refine ⟨hagree.symm.of_imp fun d hd => hd ▸ hprotect.symm, fun d hd hr => ?_, fun d hd ha => ?_⟩
  · by_cases hdc : d = c
    · subst hdc
      rw [tokens_ofSettings] at hr ⊢
      exact TokenSet.restricts_of_insert ht.mem_tokens (List.mem_append_left _ hc) hr
    · rw [← hagree.restricts d hd hdc]
      exact hr
  · rw [hagree.allows d hd (Capability.restriction_ne_grant hc hd).symm]
    exact ha

theorem tighter_of_grant (hc : c ∈ Capability.grants) (hephemeral : c ≠ .ephemeral)
    (ht : t.Asks s (s.tokens.insert c.name)) : Tighter (ofSettings s) (ofSettings t) := by
  have hprotect : .protectHome ≠ c := Capability.restriction_ne_grant (by decide) hc
  have hagree : AgreesOn (· ≠ c) (ofSettings s) (ofSettings t) :=
    agreesOn_of_insert (List.mem_append_right _ hc) hephemeral hprotect.symm ht
  refine ⟨hagree.of_imp fun d hd => hd ▸ hprotect, fun d hd hr => ?_, fun d hd ha => ?_⟩
  · rw [hagree.restricts d hd (Capability.restriction_ne_grant hd hc)]
    exact hr
  · by_cases hdc : d = c
    · subst hdc
      rw [tokens_ofSettings] at ha ⊢
      exact TokenSet.allows_of_insert ht.mem_tokens (List.mem_append_right _ hc) ha
    · rw [← hagree.allows d hd hdc]
      exact ha

end Access

/-- A restriction that is asked for takes grants away and clears more; only the directory for name
resolution may have to be shown anew. The protection of the home directory is left out, since it
shows the directory in another way. A grant that is asked for adds grants and clears less. -/
theorem compile_monotone (s : Settings) (host : Host) (path : String) :
    (∀ c ∈ Capability.restrictions, c ≠ .protectHome →
      ∀ t : Settings, t.Asks s (s.tokens.insert c.name) →
        (∀ d ∈ grantsIn (compile t host path).directives,
          d ∈ grantsIn (compile s host path).directives ∨
            c = .hideRun ∧ t.tokens.restricts .unshareNetwork = false ∧
              d = .bindReadOnly Access.resolverDir) ∧
        clearedIn (compile s host path).directives ⊆ clearedIn (compile t host path).directives) ∧
    ∀ c ∈ Capability.grants, c ≠ .ephemeral →
      ∀ t : Settings, t.Asks s (s.tokens.insert c.name) →
        grantsIn (compile s host path).directives ⊆ grantsIn (compile t host path).directives ∧
        clearedIn (compile t host path).directives ⊆
          clearedIn (compile s host path).directives := by
  refine ⟨fun c hc hprotect t ht => ?_, fun c hc hephemeral t ht => ?_⟩
  · have htighter := Access.tighter_of_restriction hc hprotect ht
    have hagree := Access.agreesOn_of_insert (List.mem_append_left _ hc)
      (Capability.restriction_ne_grant hc (by decide)) hprotect ht
    refine ⟨fun d hd => (htighter.grants_compile hd).imp_right fun hd => ?_,
      htighter.cleared_compile path⟩
    have hrun : c = .hideRun := by
      by_contra hne
      exact Access.not_regains (hagree.restricts .hideRun (by decide) (Ne.symm hne)).symm d hd
    rw [Access.Regains, Access.tokens_ofSettings] at hd
    exact ⟨hrun, hd.2.2⟩
  · have htighter := Access.tighter_of_grant hc hephemeral ht
    have hagree := Access.agreesOn_of_insert (List.mem_append_right _ hc) hephemeral
      (Capability.restriction_ne_grant (c := .protectHome) (by decide) hc).symm ht
    have hrun := hagree.restricts .hideRun (by decide)
      (Capability.restriction_ne_grant (by decide) hc)
    exact ⟨fun d hd => (htighter.grants_compile hd).resolve_right (Access.not_regains hrun d),
      htighter.cleared_compile path⟩

/-- Hiding the directory of services shows the one for name resolution; shared memory that is
granted is not cleared, and one that is listed too is granted no further. -/
theorem compile_monotone_services :
    let s : Settings :=
      { applicationParams := "nounsharenetwork,nosandbox,allowgpu", runtimeDir := "/run/user/1000",
        home := "/home/user", deviceAccess := ["/shm/"] }
    let hidden : Settings := { s with userParams := "hiderun" }
    let shared : Settings := { s with userParams := "allowshm" }
    Directive.bindReadOnly Access.resolverDir ∈
        grantsIn (compile hidden (fun _ => true) "/usr/bin/true").directives ∧
      Directive.bindReadOnly Access.resolverDir ∉
        grantsIn (compile s (fun _ => true) "/usr/bin/true").directives ∧
      clearedIn (compile s (fun _ => true) "/usr/bin/true").directives ⊆
        clearedIn (compile hidden (fun _ => true) "/usr/bin/true").directives ∧
      grantsIn (compile s (fun _ => true) "/usr/bin/true").directives ⊆
        grantsIn (compile shared (fun _ => true) "/usr/bin/true").directives := by
  intro s hidden shared
  have hhidden : hidden.Asks s (s.tokens.insert Capability.hideRun.name) :=
    ⟨⟨_, _, rfl⟩, Distinct.sameMembers_iff.mp (by decide +kernel)⟩
  have hshared : shared.Asks s (s.tokens.insert Capability.allowShm.name) :=
    ⟨⟨_, _, rfl⟩, Distinct.sameMembers_iff.mp (by decide +kernel)⟩
  have hmonotone := compile_monotone s (fun _ => true) "/usr/bin/true"
  exact ⟨by decide +kernel, by decide +kernel,
    (hmonotone.1 .hideRun (by decide) (by decide) hidden hhidden).2,
    (hmonotone.2 .allowShm (by decide) (by decide) shared hshared).1⟩

end Cloister
