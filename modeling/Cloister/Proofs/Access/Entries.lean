import Cloister.Proofs.Access.Phases
import Cloister.Proofs.Extension

/-! # Entries of the lists

Three lists of the settings hold entries that are placed beneath a base directory: paths beneath the
home directory, devices, and sockets beneath the runtime directory. All that their entries can do is
add grants strictly inside these directories.

* `Settings.withEntries`, `Settings.withoutEntries`: the settings with three other lists, and with
  the lists empty.
* `Access.EntryGrant`: the grants that an entry can lead to.
* `compile_extends_withoutEntries`: the entries add such grants to a compiled list and change
  nothing else.
-/

namespace Cloister
set_option autoImplicit false

/-- The settings with other entries. -/
def Settings.withEntries (s : Settings) (home devices sockets : List String) : Settings :=
  { s with homeAccess := home, deviceAccess := devices, socketAccess := sockets }

/-- The settings with the lists of entries empty. -/
def Settings.withoutEntries (s : Settings) : Settings :=
  { s with homeAccess := [], deviceAccess := [], socketAccess := [] }

namespace Access

/-- The same rules with other entries. -/
def withEntries (a : Access) (home devices sockets : List String) : Access :=
  { a with settings := a.settings.withEntries home devices sockets }

theorem ofSettings_withEntries (s : Settings) (home devices sockets : List String) :
    ofSettings (s.withEntries home devices sockets) =
      (ofSettings s).withEntries home devices sockets := by
  have htokens : (s.withEntries home devices sockets).tokens = s.tokens := by
    rw [Settings.tokens, Settings.tokens, Settings.withEntries]
  have hdisplay : (s.withEntries home devices sockets).displayChoice = s.displayChoice := rfl
  have hsession : (s.withEntries home devices sockets).sessionType = s.sessionType := rfl
  simp only [ofSettings, withEntries, htokens, hdisplay, hsession]

/-- The same rules without entries. -/
def withoutEntries (a : Access) : Access := { a with settings := a.settings.withoutEntries }

theorem ofSettings_withoutEntries (s : Settings) :
    ofSettings s.withoutEntries = (ofSettings s).withoutEntries :=
  ofSettings_withEntries s [] [] []

/-- A grant strictly inside the base directory of an entry. -/
inductive EntryGrant (a : Access) : Directive → Prop
  /-- Beneath the home directory, for reading only if changes are thrown away. -/
  | home (rel : String) : a.settings.home ≠ "" → Path.Inner rel →
      EntryGrant a (if a.context.ephemeral then .bindReadOnly (Path.join a.settings.home rel)
        else .bindWritable (Path.join a.settings.home rel))
  /-- Beneath the device directory. -/
  | device (rel : String) : Path.Inner rel →
      EntryGrant a (.bindDevice (Path.join deviceDir rel) false)
  /-- Beneath the runtime directory. -/
  | socket (rel : String) : a.settings.runtimeDir ≠ "" → Path.Inner rel →
      EntryGrant a (.bindReadOnly (Path.join a.settings.runtimeDir rel))

/-- The step of an entry: its refusal, or a grant strictly inside its base directory. -/
inductive EntryStep (a : Access) : Step → Prop
  | refuse (base name : String) : EntryStep a (.refuse base name)
  | grant {d : Directive} : EntryGrant a d → EntryStep a (.grant d)

variable {a : Access}

theorem EntryStep.entryGrant {host : Host} {s : Step} {d : Directive} (hs : EntryStep a s)
    (hd : d ∈ s.directives host) : EntryGrant a d := by
  cases hs with
  | refuse base name => cases hd
  | grant h =>
    rcases Step.mem_directives.mp hd with he | ⟨_, he, -⟩ | ⟨he, -⟩
    · cases he
    · cases he
    · cases he
      exact h

theorem EntryStep.cleared?_eq_none {s : Step} (hs : EntryStep a s) : s.cleared? = none := by
  cases hs <;> rfl

/-! ## The steps of the three lists -/

theorem entryStep_entry {base name : String} {place : String → Step}
    (h : ∀ rel, Path.Inner rel → EntryStep a (place (Path.join base rel))) :
    EntryStep a (entry base name place) := by
  refine entry_cases (fun path hpath => ?_) (.refuse base name)
  obtain ⟨rel, hrel, -, rfl⟩ := Path.exists_inner_of_beneath hpath
  exact h rel hrel

/-- Entries at the end of a group of steps only add their own steps. -/
theorem extends_only {b : Bool} {steps : List Step} {place : String → Step} (names : List String)
    (h : b = true → ∀ name, EntryStep a (place name)) :
    Extends (EntryStep a) (only b (steps ++ [].map place)) (only b (steps ++ names.map place)) := by
  cases b with
  | false => exact .nil
  | true =>
    refine Extends.append (Extends.refl _) (Extends.of_forall ?_)
    intro s hs
    obtain ⟨name, -, rfl⟩ := List.mem_map.mp hs
    exact h rfl name

theorem extends_runtimeSockets (a : Access) :
    Extends (EntryStep a) a.withoutEntries.runtimeSockets a.runtimeSockets := by
  rw [runtimeSockets, runtimeSockets]
  refine extends_only a.settings.socketAccess ?_
  intro hr name
  exact entryStep_entry fun rel hrel => .grant (.socket rel (hasRuntimeDir_iff.mp hr) hrel)

theorem extends_homeDirectory (a : Access) :
    Extends (EntryStep a) a.withoutEntries.homeDirectory a.homeDirectory := by
  rw [homeDirectory, homeDirectory]
  refine extends_only a.settings.homeAccess ?_
  intro hh name
  exact entryStep_entry fun rel hrel => .grant (.home rel (bne_iff_ne.mp hh) hrel)

theorem entryStep_of_mem_deviceGrants {met names : List String} {s : Step}
    (hs : s ∈ deviceGrants met names) : EntryStep a s := by
  obtain ⟨name, -, rfl | ⟨path, hpath, rfl⟩⟩ := mem_deviceGrants hs
  · exact .refuse deviceDir name
  · obtain ⟨rel, hrel, -, rfl⟩ := Path.exists_inner_of_beneath hpath
    exact .grant (.device rel hrel)

/-- Further names only add grants: a place that an earlier name has is passed over. -/
theorem extends_deviceGrants (met xs ys : List String) :
    Extends (EntryStep a) (deviceGrants met xs) (deviceGrants met (xs ++ ys)) := by
  fun_induction deviceGrants met xs with
  | case1 met => exact .of_forall fun s => entryStep_of_mem_deviceGrants
  | case2 met name names hnone ih =>
    rw [List.cons_append, deviceGrants]
    simp only [hnone]
    exact .keep _ ih
  | case3 met name names path hpath hmet ih =>
    rw [List.cons_append, deviceGrants]
    simp only [hpath, if_pos hmet]
    exact ih
  | case4 met name names path hpath hmet ih =>
    rw [List.cons_append, deviceGrants]
    simp only [hpath, if_neg hmet]
    exact .keep _ ih

theorem extends_devices (a : Access) :
    Extends (EntryStep a) a.withoutEntries.devices a.devices := by
  have hnames : a.deviceNames = a.withoutEntries.deviceNames ++ a.settings.deviceAccess := by
    have hnil : a.withoutEntries.settings.deviceAccess = [] := rfl
    rw [deviceNames, deviceNames, hnil, List.append_nil]
    rfl
  rw [devices, devices, hnames]
  exact (Extends.refl _).append (extends_deviceGrants _ _ _)

/-! ## The whole list -/

theorem extends_steps (a : Access) : Extends (EntryStep a) a.withoutEntries.steps a.steps := by
  rw [steps, steps]
  refine ((((Extends.append ?_ a.extends_runtimeSockets).append a.extends_devices).append
    a.extends_homeDirectory).append ?_).append ?_
  · exact Extends.refl (a.namespaces ++ a.systemDirectories)
  · exact Extends.refl a.displays
  · exact Extends.refl a.messageBus

theorem extends_content (a : Access) (host : Host) :
    Extends (EntryGrant a) (a.withoutEntries.content host) (a.content host) :=
  a.extends_steps.flatMap fun _ hs _ hd => hs.entryGrant hd

theorem locked_withoutEntries (a : Access) : a.withoutEntries.locked = a.locked := by
  rw [locked, locked, a.extends_steps.filterMap_eq fun _ hs => hs.cleared?_eq_none]

end Access

/-- The entries of the lists add grants strictly inside their base directories, and change nothing
else. -/
theorem compile_extends_withoutEntries (s : Settings) (host : Host) (path : String) :
    Extends (Access.EntryGrant (.ofSettings s)) (compile s.withoutEntries host path).directives
      (compile s host path).directives := by
  rw [compile, compile, Access.ofSettings_withoutEntries, Access.directives_compile,
    Access.directives_compile, Access.locked_withoutEntries]
  exact (((Access.extends_content _ host).append (.refl _)).append (.refl _)).append (.refl _)

end Cloister
