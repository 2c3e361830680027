import Cloister.Proofs.Access.Extent
import Cloister.Proofs.Access.Phases

/-! # What stays hidden

A directory that is to be hidden is cleared after everything that could show it, and locked in the
end. Paths of the settings are shown wherever they are, so none of them may cover it.

* `HiddenAt`: a path is cleared, nothing is put over it later, and it is locked.
* `Settings.Hides`: the paths that settings ask to hide.
* `compile_hides`: these paths are hidden in every compiled list.
-/

namespace Cloister
set_option autoImplicit false

/-- A path is cleared, nothing is put over it later, and it is locked. -/
def HiddenAt (ds : List Directive) (path : String) : Prop :=
  ∃ before after, ds = before ++ .clear (some path) :: after ∧ seenAt after path = none ∧
    .lock (some path) ∈ after

theorem HiddenAt.seenAt_eq {ds : List Directive} {path : String} (h : HiddenAt ds path) :
    seenAt ds path = some (.clear (some path)) := by
  obtain ⟨before, after, hds, hafter, -⟩ := h
  have hover : (Directive.clear (some path)).MountsOver path :=
    Directive.mountsOver_of_covers rfl rfl (.refl path)
  exact seenAt_eq_some_iff.mpr ⟨hover, before, after, hds, hafter⟩

/-- Directories that a restriction hides, each with the restriction. -/
def hideable : List (Capability × String) :=
  Access.programDirectories ++
    [(.hideEtc, "/etc"), (.hideTmp, "/tmp"), (.hideSys, "/sys"), (.hideRun, "/run"),
      (.hideVar, "/var")]

/-- The paths that settings ask to hide: directories whose restriction holds, and shared memory
unless it is granted. -/
def Settings.Hides (s : Settings) (path : String) : Prop :=
  (∃ c, (c, path) ∈ hideable ∧ s.tokens.restricts c = true) ∨
    path = Access.sharedMemory ∧ s.tokens.allows .allowShm = false

namespace Access

variable {a : Access} {host : Host} {path p : String}

/-! ## After the content -/

theorem seenAt_program (hp : path ≠ "" → ¬ Path.Covers path p) :
    seenAt (program host path).toList p = none := by
  rw [toList_program]
  split
  · rename_i h
    rw [seenAt_singleton, if_neg]
    rintro ⟨-, target, ht, hcov⟩
    cases ht
    exact hp h.1 hcov
  · rfl

/-- A directory is hidden if no step after the one that clears it puts anything over it. -/
theorem hiddenAt_of_steps {front back : List Step} (hs : a.steps = front ++ .clear p :: back)
    (hb : ∀ s ∈ back, s.Spares p) (hp : path ≠ "" → ¬ Path.Covers path p) :
    HiddenAt (a.compile host path).directives p := by
  have hclear : Step.clear p ∈ a.steps := by
    simp [hs]
  have hregular : ∀ s ∈ back, s.Regular a := by
    intro s h
    exact regular_of_mem_steps (by simp [hs, h])
  refine ⟨front.flatMap (Step.directives host),
    back.flatMap (Step.directives host) ++ (program host path).toList ++
      (a.locked.toList.map (fun p => .lock (some p)) ++ [.terminator]), ?_, ?_, ?_⟩
  · rw [directives_compile, content, hs]
    simp [Step.directives]
  · rw [seenAt_append, seenAt_locks, seenAt_append, seenAt_program hp,
      seenAt_flatMap_eq_none hregular hb]
    rfl
  · have hlocked : p ∈ a.locked.toList := a.mem_toList_locked.mpr (.inr hclear)
    exact List.mem_append_right _ (List.mem_append_left _ (List.mem_map.mpr ⟨p, hlocked, rfl⟩))

/-! ## Directories of the layout -/

theorem clear_mem_layout {c : Capability} (hc : (c, p) ∈ hideable)
    (hr : a.tokens.restricts c = true) : .clear p ∈ a.namespaces ++ a.systemLayout := by
  have hstep : a.hideOrRead c p = .clear p := if_pos hr
  refine List.mem_append_right _ (mem_systemLayout.mpr ?_)
  rcases List.mem_append.mp hc with hc | hc
  · exact .inr (.inl ⟨(c, p), hc, hstep.symm⟩)
  · simp only [List.mem_cons, Prod.mk.injEq, List.not_mem_nil, or_false] at hc
    rcases hc with ⟨rfl, rfl⟩ | ⟨rfl, rfl⟩ | ⟨rfl, rfl⟩ | ⟨rfl, rfl⟩ | ⟨rfl, rfl⟩
    · simp [hstep]
    · simp [temporary, hr]
    · simp [hstep]
    · simp [mem_services, hr]
    · simp [hstep]

/-- Nothing in the layout is mounted over a hideable directory after its own place. -/
theorem layoutPaths_order : ∀ e ∈ hideable, ∀ target ∈ layoutPaths,
    [e.2, target].Sublist layoutPaths → ¬ Path.Covers target e.2 := by
  decide

/-- The fixed places of devices and of the session cover no hideable directory. -/
theorem sessionPlaces_spare : ∀ e ∈ hideable, ∀ place ∈ [deviceDir, x11SocketDir, systemBus],
    ¬ Path.Covers place e.2 := by
  decide

theorem sessionBases_spare (hp : ∀ q ∈ a.settings.openPaths, q ≠ "" → ¬ Path.Covers q p)
    (hf : ∀ place ∈ [x11SocketDir, systemBus], ¬ Path.Covers place p) :
    ∀ base ∈ a.sessionBases, base ≠ "" → ¬ Path.Covers base p := by
  intro base hb hne
  rcases List.mem_append.mp hb with hb | hb
  · exact hp base hb hne
  · exact hf base hb

theorem hiddenAt_layout {c : Capability} (hc : (c, p) ∈ hideable)
    (hr : a.tokens.restricts c = true)
    (hp : ∀ q ∈ path :: a.settings.openPaths, q ≠ "" → ¬ Path.Covers q p) :
    HiddenAt (a.compile host path).directives p := by
  have hfixed := sessionPlaces_spare (c, p) hc
  have hsession : ∀ base ∈ a.sessionBases, base ≠ "" → ¬ Path.Covers base p :=
    sessionBases_spare (fun q hq => hp q (List.mem_cons_of_mem _ hq))
      fun place h => hfixed place (List.mem_cons_of_mem _ h)
  obtain ⟨front, back, hsplit⟩ := List.append_of_mem (clear_mem_layout hc hr)
  have hsteps : a.steps =
      front ++ .clear p :: (back ++ (a.earlySession ++ a.devices ++ a.lateSession)) := by
    rw [steps_eq, hsplit, List.append_assoc, List.cons_append]
  refine hiddenAt_of_steps hsteps ?_ (hp path (List.mem_cons_self ..))
  intro s hs
  simp only [List.mem_append] at hs
  rcases hs with hs | (hs | hs) | hs
  · intro target ht _
    have hsub : [p, target].Sublist layoutPaths := targets_sublist hsplit rfl hs ht
    exact layoutPaths_order (c, p) hc target (hsub.subset (by simp)) hsub
  · exact (within_of_mem_earlySession hs).spares hsession
  · refine (within_of_mem_devices hs).spares fun base hb _ => ?_
    rw [List.mem_singleton.mp hb]
    exact hfixed deviceDir (List.mem_cons_self ..)
  · exact (within_of_mem_lateSession hs).spares hsession

/-! ## Shared memory -/

/-- The device directory shows shared memory only under its own name. -/
theorem deviceGrants_spare {names : List String}
    (hn : ∀ name ∈ names, Path.normal (name.toList.dropWhile (· = Path.slash)) ≠ "shm".toList)
    {s : Step} (hs : s ∈ deviceGrants [] names) : s.Spares sharedMemory := by
  obtain ⟨name, hname, rfl | ⟨place, hplace, rfl⟩⟩ := mem_deviceGrants hs
  · nofun
  · obtain ⟨rel, hrel, hnormal, rfl⟩ := Path.exists_inner_of_beneath hplace
    intro target ht _ hcov
    cases ht
    have hshm : Path.Plain "shm".toList := by
      unfold Path.Plain
      decide
    have hrelshm : rel = "shm" := Path.eq_of_covers_join hrel hshm hcov
    rw [hrelshm] at hnormal
    exact hn name hname hnormal.symm

theorem hiddenAt_sharedMemory (hr : a.tokens.allows .allowShm = false)
    (hp : ∀ q ∈ path :: a.settings.openPaths, q ≠ "" → ¬ Path.Covers q sharedMemory)
    (hd : ∀ name ∈ a.settings.deviceAccess,
      Path.normal (name.toList.dropWhile (· = Path.slash)) ≠ "shm".toList) :
    HiddenAt (a.compile host path).directives sharedMemory := by
  have hsession : ∀ base ∈ a.sessionBases, base ≠ "" → ¬ Path.Covers base sharedMemory :=
    sessionBases_spare (fun q hq => hp q (List.mem_cons_of_mem _ hq)) (by decide)
  have hnames : ∀ name ∈ a.deviceNames,
      Path.normal (name.toList.dropWhile (· = Path.slash)) ≠ "shm".toList := by
    intro name hname
    simp only [deviceNames, hr, List.mem_append, List.mem_ite_nil_right, List.mem_singleton,
      Bool.false_eq_true, false_and, or_false] at hname
    rcases hname with (⟨-, rfl⟩ | ⟨-, rfl⟩) | hname
    · decide
    · decide
    · exact hd name hname
  obtain ⟨base, hdevices⟩ : ∃ base,
      a.devices = base :: .clear sharedMemory :: deviceGrants [] a.deviceNames :=
    ⟨_, by rw [devices, hr]; rfl⟩
  have hsteps : a.steps = (a.namespaces ++ a.systemLayout ++ a.earlySession ++ [base]) ++
      .clear sharedMemory :: (deviceGrants [] a.deviceNames ++ a.lateSession) := by
    rw [steps_eq, hdevices]
    simp only [List.append_assoc, List.cons_append, List.nil_append]
  refine hiddenAt_of_steps hsteps ?_ (hp path (List.mem_cons_self ..))
  intro s hs
  rcases List.mem_append.mp hs with hs | hs
  · exact deviceGrants_spare hnames hs
  · exact (within_of_mem_lateSession hs).spares hsession

end Access

/-- What settings ask to hide stays hidden, unless a path of the settings or the program covers it,
or a device is asked for that is the shared memory. -/
theorem compile_hides (s : Settings) (host : Host) (path p : String) (hs : s.Hides p)
    (hp : ∀ q ∈ path :: s.openPaths, q ≠ "" → ¬ Path.Covers q p)
    (hd : p = Access.sharedMemory → ∀ name ∈ s.deviceAccess,
      Path.normal (name.toList.dropWhile (· = Path.slash)) ≠ "shm".toList) :
    HiddenAt (compile s host path).directives p := by
  rw [Settings.Hides, ← Access.tokens_ofSettings] at hs
  rcases hs with ⟨c, hc, hr⟩ | ⟨rfl, hr⟩
  · exact Access.hiddenAt_layout hc hr hp
  · exact Access.hiddenAt_sharedMemory hr hp (hd rfl)

/-- The whole root is shown, and yet programs and shared memory are hidden. -/
theorem compile_hides_permissive :
    let s : Settings :=
      { applicationParams := "nosandbox,hidebin", home := "/home/user",
        runtimeDir := "/run/user/1000", readAccess := ["/opt/data"],
        deviceAccess := ["snd", "/shm/../kvm"] }
    HiddenAt (compile s (fun _ => true) "/opt/app/run").directives "/usr/bin" ∧
      HiddenAt (compile s (fun _ => true) "/opt/app/run").directives "/dev/shm" :=
  ⟨compile_hides _ _ _ _ (.inl ⟨.hideBin, by decide, by decide⟩) (by decide) (by decide),
    compile_hides _ _ _ _ (.inr ⟨rfl, by decide⟩) (by decide) (by decide)⟩

end Cloister
