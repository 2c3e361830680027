import Cloister.Proofs.Access.Absence
import Cloister.Proofs.Access.Switches
import Cloister.Proofs.Access.Writable

/-! # The home directory where changes are thrown away

An empty home directory comes before all that is shown beneath it.

* `Access.homePlaces`: what is shown beneath the home directory.
* `Access.directives_compile_home`: a compiled list with what it shows of the home directory.
* `Access.directives_compile_bare`: the same list with nothing beneath the home directory.
* `compile_writable`: what a compiled list shows for writing, and what it shows of a home directory
  that changes cannot reach.
-/

namespace Cloister
set_option autoImplicit false

namespace Access

variable {a b : Access} {host : Host}

/-! ## The rules of the home directory -/

/-- The paths that are shown beneath the home directory. -/
def homePlaces (a : Access) : List String :=
  (if a.tokens.allows .allowDownloads then [Path.join a.settings.home downloads] else []) ++
    a.settings.homeAccess.filterMap (Path.beneath a.settings.home)

/-- The rules before those of the home directory. -/
def beforeHome (a : Access) : List Step :=
  a.namespaces ++ a.systemDirectories ++ a.runtimeSockets ++ a.devices

/-- The rules after those of the home directory. -/
def afterHome (a : Access) : List Step := a.displays ++ a.messageBus

theorem steps_eq_home (a : Access) : a.steps = a.beforeHome ++ a.homeDirectory ++ a.afterHome := by
  simp only [steps, beforeHome, afterHome, List.append_assoc]

section Ephemeral
variable (he : a.context.ephemeral = true)
include he

theorem directives_write {q : String} (hq : q ≠ "") :
    (a.write q).directives host = ([q].filter host).map .bindReadOnly := by
  have hadmitted : (Directive.bindReadOnly q).admitted host = (q != "" && host q) := rfl
  rw [write, Step.write, he, if_pos rfl, Step.directives, hadmitted]
  cases hhost : host q <;> simp [hq, hhost]

theorem directives_entries (base : String) (names : List String) :
    (names.map fun name => entry base name a.write).flatMap (Step.directives host) =
      ((names.filterMap (Path.beneath base)).filter host).map .bindReadOnly := by
  have hplace : ∀ q ∈ names.filterMap (Path.beneath base),
      (a.write q).directives host = ([q].filter host).map .bindReadOnly := by
    intro q hq
    obtain ⟨name, -, hname⟩ := List.mem_filterMap.mp hq
    exact directives_write he (Path.ne_empty_of_beneath hname)
  rw [flatMap_entries, List.flatMap_congr hplace, ← List.map_flatMap, ← List.filter_flatMap,
    List.flatMap_singleton']

theorem directives_homeDirectory (hh : a.settings.home ≠ "")
    (hs : a.tokens.stated Capability.protectHome.name ≠ .enabled) :
    a.homeDirectory.flatMap (Step.directives host) =
      .clear (some a.settings.home) :: (a.homePlaces.filter host).map .bindReadOnly := by
  have hbase : a.homeBase = .emit (.clear (some a.settings.home)) := by
    rw [homeBase, if_pos he, if_neg hs]
  have hdownloads :
      (only (a.tokens.allows .allowDownloads)
        [a.write (Path.join a.settings.home downloads)]).flatMap (Step.directives host) =
      ((if a.tokens.allows .allowDownloads then [Path.join a.settings.home downloads]
        else []).filter host).map .bindReadOnly := by
    cases a.tokens.allows .allowDownloads with
    | false => rfl
    | true =>
      rw [only, if_pos rfl, if_pos rfl, List.flatMap_singleton]
      exact directives_write he (Path.join_ne_empty (by decide))
  have hhome : (a.settings.home != "") = true := bne_iff_ne.mpr hh
  rw [homeDirectory, only, if_pos hhome, hbase, homePlaces, List.filter_append, List.map_append,
    ← hdownloads, ← directives_entries he, List.flatMap_append, List.flatMap_cons,
    Step.directives, List.singleton_append, List.cons_append]

-- The home directory is emptied for good, so it is not among the directories that are locked.
theorem cleared_homeDirectory : a.homeDirectory.filterMap Step.cleared? = [] := by
  rw [List.filterMap_eq_nil_iff]
  intro s hs
  have hwrite (q : String) : (a.write q).cleared? = none := rfl
  obtain ⟨-, rfl | ⟨-, rfl⟩ | ⟨name, -, rfl⟩⟩ := mem_homeDirectory.mp hs
  · rw [homeBase, if_pos he]
    split <;> rfl
  · exact hwrite _
  · exact entry_cases (P := fun s => s.cleared? = none) (fun q _ => hwrite q) rfl

end Ephemeral

/-- The rules before and after those of the home directory decide what is locked. -/
theorem locked_eq_of_home (ha : a.context.ephemeral = true) (hb : b.context.ephemeral = true)
    (hbefore : a.beforeHome = b.beforeHome) (hafter : a.afterHome = b.afterHome) :
    a.locked = b.locked := by
  have hunlocked {c : Access} (hc : c.context.ephemeral = true) :
      c.steps.filterMap Step.cleared? =
        c.beforeHome.filterMap Step.cleared? ++ c.afterHome.filterMap Step.cleared? := by
    rw [steps_eq_home, List.filterMap_append, List.filterMap_append, cleared_homeDirectory hc,
      List.append_nil]
  rw [locked, locked, hunlocked ha, hunlocked hb, hbefore, hafter]

theorem directives_compile_home (he : a.context.ephemeral = true) (hh : a.settings.home ≠ "")
    (hs : a.tokens.stated Capability.protectHome.name ≠ .enabled) (path : String) :
    (a.compile host path).directives =
      a.beforeHome.flatMap (Step.directives host) ++ .clear (some a.settings.home) ::
        ((a.homePlaces.filter host).map .bindReadOnly ++
          ((a.afterHome ++ [Step.read path]).flatMap (Step.directives host) ++ a.closing)) := by
  rw [directives_compile_stepsWith, stepsWith, steps_eq_home, List.append_assoc,
    List.flatMap_append, List.flatMap_append, directives_homeDirectory he hh hs]
  simp only [List.append_assoc, List.cons_append]

/-! ## The same settings with less beneath the home directory -/

theorem tokens_homeAccess (s : Settings) (names : List String) :
    ({ s with homeAccess := names } : Settings).tokens = s.tokens := by
  rw [Settings.tokens, Settings.tokens]

theorem beforeHome_homeAccess (s : Settings) (names : List String) :
    (ofSettings { s with homeAccess := names }).beforeHome = (ofSettings s).beforeHome := by
  have ha (a : Access) :
      { a with settings := { a.settings with homeAccess := names } }.beforeHome = a.beforeHome :=
    rfl
  rw [← ha (ofSettings s)]
  simp only [ofSettings, tokens_homeAccess]

theorem afterHome_homeAccess (s : Settings) (names : List String) :
    (ofSettings { s with homeAccess := names }).afterHome = (ofSettings s).afterHome := by
  have ha (a : Access) :
      { a with settings := { a.settings with homeAccess := names } }.afterHome = a.afterHome := rfl
  rw [← ha (ofSettings s)]
  simp only [ofSettings, tokens_homeAccess]

namespace AgreesOn

variable {k : Capability → Prop}

theorem beforeHome_eq (h : AgreesOn k a b) (hk : ∀ c, c ≠ .allowDownloads → k c) :
    a.beforeHome = b.beforeHome := by
  have hnamespaces := h.namespaces_eq fun c hc => hk c (by rintro rfl; revert hc; decide)
  have hsystem := h.systemDirectories_eq fun c hc => hk c (by rintro rfl; revert hc; decide)
  have hsockets := h.runtimeSockets_eq fun c hc => hk c (by rintro rfl; revert hc; decide)
  have hdevices := h.devices_eq fun c hc => hk c (by rintro rfl; revert hc; decide)
  rw [beforeHome, beforeHome, hnamespaces, hsystem, hsockets, hdevices]

theorem afterHome_eq (h : AgreesOn k a b) (hk : k .allowDbus) : a.afterHome = b.afterHome := by
  rw [afterHome, afterHome, h.displays_eq, h.messageBus_eq hk]

end AgreesOn

theorem homePlaces_eq_nil {c : Settings} (hentries : c.homeAccess = [])
    (hdownloads : Capability.allowDownloads.name ∉ c.tokens) : (ofSettings c).homePlaces = [] := by
  have hallows : c.tokens.allows .allowDownloads = false := TokenSet.allows_of_unnamed hdownloads
  rw [homePlaces, tokens_ofSettings, hallows, settings_ofSettings, hentries]
  rfl

/-- With nothing to show beneath the home directory, an emptied home directory is all there is
of it. -/
theorem directives_compile_bare {s bare : Settings} (he : s.tokens.allows .ephemeral = true)
    (hh : s.home ≠ "") (hs : s.tokens.stated Capability.protectHome.name ≠ .enabled)
    (hbare : bare.Asks { s with homeAccess := [] }
      (s.tokens.erase Capability.allowDownloads.name)) (path : String) :
    (Cloister.compile bare host path).directives =
      (ofSettings s).beforeHome.flatMap (Step.directives host) ++ .clear (some s.home) ::
        (((ofSettings s).afterHome ++ [Step.read path]).flatMap (Step.directives host) ++
          (ofSettings s).closing) := by
  have htokens : ({ s with homeAccess := [] } : Settings).tokens = s.tokens :=
    tokens_homeAccess s []
  -- two steps from `s` to `bare`: first without the entries, then without the token
  have hagree : AgreesOn (· ≠ .allowDownloads) (ofSettings { s with homeAccess := [] })
      (ofSettings bare) :=
    agreesOn_of_erase (by decide) (by decide) (htokens.symm ▸ hbare)
  have hbefore : (ofSettings bare).beforeHome = (ofSettings s).beforeHome :=
    (hagree.beforeHome_eq fun _ h => h).symm.trans (beforeHome_homeAccess s [])
  have hafter : (ofSettings bare).afterHome = (ofSettings s).afterHome :=
    (hagree.afterHome_eq (by decide)).symm.trans (afterHome_homeAccess s [])
  have hephemeral : (ofSettings s).context.ephemeral = true := by
    rw [ephemeral_ofSettings]
    exact he
  have hephemeral' : (ofSettings bare).context.ephemeral = true := by
    rw [← hagree.ephemeral, ephemeral_ofSettings, htokens]
    exact he
  have hhome : (ofSettings bare).settings.home = s.home := hagree.home.symm
  have hstated : (ofSettings bare).tokens.stated Capability.protectHome.name ≠ .enabled := by
    rw [Ne, ← hagree.keepsHome (hagree.ephemeral.trans hephemeral'), tokens_ofSettings, htokens]
    exact hs
  have hplaces : (ofSettings bare).homePlaces = [] := by
    refine homePlaces_eq_nil hagree.homeAccess.symm ?_
    rw [hbare.mem_tokens, Distinct.mem_erase]
    exact fun h => h.2 rfl
  have hclosing : (ofSettings bare).closing = (ofSettings s).closing := by
    rw [closing, closing, locked_eq_of_home hephemeral' hephemeral hbefore hafter]
  rw [Cloister.compile, directives_compile_home hephemeral' (hhome.symm ▸ hh) hstated, hbefore,
    hafter, hplaces, hclosing, hhome, List.filter_nil, List.map_nil, List.nil_append]

end Access

/-- Where changes are thrown away, nothing is shown for writing. Otherwise the paths that are shown
for writing are the listed ones, as far as the host has them. An emptied home directory comes before
all that is shown beneath it. -/
theorem compile_writable (s : Settings) (host : Host) (path : String) :
    (∀ d, d ∈ (compile s host path).directives ∧ d.kind = .bindWritable ↔
      s.tokens.allows .ephemeral = false ∧
        ∃ p, (Access.ofSettings s).Writable p ∧ host p = true ∧ d = .bindWritable p) ∧
    (s.tokens.allows .ephemeral = true → s.home ≠ "" →
      s.tokens.stated Capability.protectHome.name ≠ .enabled →
      ∃ before after : List Directive,
        (compile s host path).directives =
          before ++ .clear (some s.home) ::
            (((Access.ofSettings s).homePlaces.filter host).map .bindReadOnly ++ after) ∧
        ∀ bare : Settings,
          bare.Asks { s with homeAccess := [] }
            (s.tokens.erase Capability.allowDownloads.name) →
          (compile bare host path).directives = before ++ .clear (some s.home) :: after) := by
  have hephemeral := Access.ephemeral_ofSettings s
  refine ⟨fun d => ?_, fun he hh hs => ?_⟩
  · rw [compile, Access.writable_mem_compile, hephemeral]
  · have hstated : (Access.ofSettings s).tokens.stated Capability.protectHome.name ≠ .enabled := by
      rw [Access.tokens_ofSettings]
      exact hs
    exact ⟨_, _, Access.directives_compile_home (hephemeral.trans he) hh hstated path,
      fun bare hbare => Access.directives_compile_bare he hh hs hbare path⟩

/-- Downloads and listed paths are shown for reading in the emptied home directory; an entry that
leads out of it has no place. -/
theorem compile_writable_emptied :
    let s : Settings :=
      { applicationParams := "ephemeral,allowdownloads,nohidetmp", home := "/home/user",
        homeAccess := ["work", "../other"] }
    let bare : Settings := { s with applicationParams := "ephemeral,nohidetmp", homeAccess := [] }
    ∃ before after : List Directive,
      (compile s (fun _ => true) "/usr/bin/true").directives =
        before ++ .clear (some "/home/user") ::
          ([.bindReadOnly "/home/user/Downloads", .bindReadOnly "/home/user/work"] ++ after) ∧
      (compile bare (fun _ => true) "/usr/bin/true").directives =
        before ++ .clear (some "/home/user") :: after := by
  intro s bare
  obtain ⟨before, after, hs, hbare⟩ := (compile_writable s (fun _ => true) "/usr/bin/true").2
    (by decide) (by decide) (by decide)
  have hplaces :
      (Access.ofSettings s).homePlaces = ["/home/user/Downloads", "/home/user/work"] := by
    decide +kernel
  have hasks : bare.Asks { s with homeAccess := [] }
      (s.tokens.erase Capability.allowDownloads.name) :=
    ⟨⟨_, _, rfl⟩, Distinct.sameMembers_iff.mp (by decide +kernel)⟩
  rw [hplaces] at hs
  exact ⟨before, after, hs, hbare bare hasks⟩

end Cloister
