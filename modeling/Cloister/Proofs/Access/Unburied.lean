import Cloister.Proofs.Access.Absence
import Cloister.Proofs.Access.Extent

/-! # Entries stay on top

The entries of a list are granted after the directory that they lie in is cleared or shown. What the
later rules clear lies in other base directories. Where these are apart, an entry is not buried by
any of them; only what keeps the displays out of reach can still be put over it.

* `Directive.Buries`: a directive leaves nothing of what was at a path.
* `Settings.BasesApart`: the base directories of the lists are apart.
* `Access.Listed`: the grant of an entry.
* `Access.Unburied`: a directive is followed by none that buries a path, displays apart.
* `compile_keeps_entries`: the grants of entries are unburied in every compiled list.
-/

namespace Cloister
set_option autoImplicit false

/-- Operations that put something in place that shows nothing of the host. -/
def Directive.Kind.buries : Directive.Kind → Bool
  | clear | maskFile | minimalDev => true
  | _ => false

/-- A directive leaves nothing of what was at a path, or at a directory above it. -/
def Directive.Buries (d : Directive) (place : String) : Prop :=
  d.kind.buries = true ∧ ∃ target ∈ d.target, Path.AtOrAbove target place

/-- The base directories of the lists are apart, as far as they are given. -/
structure Settings.BasesApart (s : Settings) : Prop where
  home_runtimeDir : s.home ≠ "" → s.runtimeDir ≠ "" → Path.Apart s.home s.runtimeDir
  home_deviceDir : s.home ≠ "" → Path.Apart s.home Access.deviceDir
  runtimeDir_deviceDir : s.runtimeDir ≠ "" → Path.Apart s.runtimeDir Access.deviceDir

namespace Access

/-- The grant of an entry of a list, with the place of the entry beneath its base directory. -/
inductive Listed (a : Access) (place : String) : Directive → Prop
  | home (name : String) : a.settings.home ≠ "" → name ∈ a.settings.homeAccess →
      Path.beneath a.settings.home name = some place →
      Listed a place (if a.context.ephemeral then .bindReadOnly place else .bindWritable place)
  | device (name : String) : name ∈ a.settings.deviceAccess →
      Path.beneath deviceDir name = some place → Listed a place (.bindDevice place false)
  | socket (name : String) : a.settings.runtimeDir ≠ "" → name ∈ a.settings.socketAccess →
      Path.beneath a.settings.runtimeDir name = some place → Listed a place (.bindReadOnly place)

/-- The directives that keep the displays out of reach. -/
inductive Veil (a : Access) : Directive → Prop
  | x11 : Veil a (.clear (some x11SocketDir))
  | key : a.settings.xauthority ≠ "" → Veil a (.maskFile a.settings.xauthority)
  | wayland : a.settings.runtimeDir ≠ "" → Veil a (.maskFile (a.runtimePath waylandSocket))

/-- A directive is in a list, and none after its last occurrence buries a path, but for those that
keep the displays out of reach. -/
def Unburied (a : Access) (ds : List Directive) (d : Directive) (place : String) : Prop :=
  ∃ before after, ds = before ++ d :: after ∧ d ∉ after ∧
    ∀ x ∈ after, x.Buries place → a.Veil x

end Access

variable {a : Access} {host : Host} {path place : String} {d : Directive}

theorem Directive.Optional.not_buries (h : d.Optional) : ¬ d.Buries place := by
  rintro ⟨hk, -⟩
  cases h <;> cases hk

theorem Directive.Optional.admitted (h : d.Optional) (hsource : d.source = some place)
    (hne : place ≠ "") (hhost : host place = true) : d.admitted host = true := by
  obtain ⟨q, hq, hd⟩ := h.exists_source
  rw [hsource, Option.some.injEq] at hq
  subst hq
  rw [(hd host).2, hhost, Bool.and_true, bne_iff_ne]
  exact hne

theorem exists_last_of_mem {ds : List Directive} (h : d ∈ ds) :
    ∃ before after, ds = before ++ d :: after ∧ d ∉ after := by
  obtain ⟨after, before, hds, hafter⟩ := List.eq_append_cons_of_mem (List.mem_reverse.mpr h)
  refine ⟨before.reverse, after.reverse, ?_, by simpa using hafter⟩
  rw [← List.reverse_reverse ds, hds, List.reverse_append, List.reverse_cons,
    List.append_assoc, List.singleton_append]

/-! ## Steps that bury nothing -/

/-- Nothing that a step emits buries a path, unless it keeps a display out of reach. -/
def Step.Keeps (a : Access) (host : Host) (place : String) (s : Step) : Prop :=
  ∀ d ∈ s.directives host, d.Buries place → a.Veil d

namespace Step

theorem keeps_grant (h : d.Optional) : (grant d).Keeps a host place :=
  forall_grant fun hb => absurd hb h.not_buries

theorem keeps_refuse (base name : String) : (refuse base name).Keeps a host place :=
  forall_refuse base name

theorem keeps_emit (h : d.Buries place → a.Veil d) : (emit d).Keeps a host place := forall_emit h

theorem keeps_clear {dir : String}
    (h : (Directive.clear (some dir)).Buries place → a.Veil (.clear (some dir))) :
    (clear dir).Keeps a host place :=
  forall_clear h

theorem keeps_unset (name : String) : (emit (.unsetVariable name)).Keeps a host place :=
  keeps_emit fun hb => absurd hb.1 Bool.false_ne_true

theorem keeps_read (q : String) : (read q).Keeps a host place := keeps_grant (.readOnly q)

/-- What is mounted inside another base directory does not bury a path. -/
theorem Within.keeps {base : String} {s : Step} (h : s.Within [base]) (hr : s.Regular a)
    (hbase : base ≠ "" → ¬ Path.AtOrAbove base place) : s.Keeps a host place := by
  rintro d hd ⟨-, target, ht, habove⟩
  have htarget : s.target? = some target := (target_of_mem_directives hd).symm.trans ht
  have hne : target ≠ "" := fun he => hr.target_ne hd (he ▸ ht)
  obtain ⟨b, hb, hbne, hcov⟩ := h target htarget hne
  rw [List.mem_singleton.mp hb] at hbne hcov
  exact absurd (hcov.atOrAbove.trans habove) (hbase hbne)

end Step

namespace Access

theorem keeps_write (q : String) : (a.write q).Keeps a host place := by
  unfold write Step.write
  split
  · exact Step.keeps_grant (.readOnly q)
  · exact Step.keeps_grant (.writable q)

theorem keeps_entries {base : String} {names : List String} {mount : String → Step}
    (hs : ∀ q, (mount q).Keeps a host place) :
    ∀ s ∈ names.map (fun name => entry base name mount), s.Keeps a host place := by
  intro s hmem
  obtain ⟨name, -, rfl⟩ := mem_map_iff.mp hmem
  exact entry_cases (fun q _ => hs q) (Step.keeps_refuse base name)

theorem keeps_deviceGrants {names : List String} :
    ∀ s ∈ deviceGrants [] names, s.Keeps a host place := by
  intro s hs
  obtain ⟨name, -, rfl | ⟨q, -, rfl⟩⟩ := mem_deviceGrants hs
  · exact Step.keeps_refuse deviceDir name
  · exact Step.keeps_grant (.device q)

theorem keeps_x11 {s : Step} (hs : s ∈ a.x11) : s.Keeps a host place := by
  rw [mem_x11] at hs
  split at hs
  · rcases hs with ⟨-, rfl⟩ | rfl
    · exact Step.keeps_read _
    · exact Step.keeps_read _
  · rcases hs with rfl | rfl | ⟨hk, rfl⟩ | rfl
    · exact Step.keeps_unset _
    · exact Step.keeps_unset _
    · exact Step.keeps_emit fun _ => .key hk
    · exact Step.keeps_clear fun _ => .x11

theorem keeps_wayland {s : Step} (hs : s ∈ a.wayland) : s.Keeps a host place := by
  rw [mem_wayland] at hs
  split at hs
  · rw [hs.2]
    exact Step.keeps_read _
  · rcases hs with rfl | ⟨hr, rfl⟩
    · exact Step.keeps_unset _
    · exact Step.keeps_emit fun _ => .wayland hr

theorem keeps_messageBus {s : Step} (hs : s ∈ a.messageBus) : s.Keeps a host place := by
  obtain ⟨-, rfl | ⟨-, rfl⟩⟩ := mem_messageBus.mp hs
  · exact Step.keeps_read _
  · exact Step.keeps_read _

/-- The rules after those of the home directory bury nothing. -/
theorem keeps_late {s : Step} (hs : s ∈ a.displays ++ a.messageBus) : s.Keeps a host place := by
  simp only [displays, List.mem_append] at hs
  rcases hs with (hs | hs) | hs
  · exact keeps_x11 hs
  · exact keeps_wayland hs
  · exact keeps_messageBus hs

/-! ## Base directories that are apart -/

theorem keeps_devices (h : ¬ Path.AtOrAbove deviceDir place) {s : Step} (hs : s ∈ a.devices) :
    s.Keeps a host place :=
  (within_of_mem_devices hs).keeps (regular_of_mem_devices hs) fun _ => h

theorem keeps_homeDirectory (h : a.settings.home ≠ "" → ¬ Path.AtOrAbove a.settings.home place)
    {s : Step} (hs : s ∈ a.homeDirectory) : s.Keeps a host place :=
  (within_of_mem_homeDirectory (List.mem_singleton_self _) hs).keeps
    (regular_of_mem_homeDirectory hs) h

/-- A grant is not buried if no step from some point before it on buries its place. -/
theorem unburied_of_steps {front back : List Step} (hsteps : a.steps = front ++ back)
    (hd : .grant d ∈ back) (hadmitted : d.admitted host = true)
    (hback : ∀ s ∈ back, s.Keeps a host place) :
    a.Unburied (a.compile host path).directives d place := by
  have hmem : d ∈ (back ++ [Step.read path]).flatMap (Step.directives host) ++ a.closing := by
    refine List.mem_append_left _ (List.mem_flatMap.mpr ⟨_, List.mem_append_left _ hd, ?_⟩)
    rw [Step.directives, if_pos hadmitted]
    exact List.mem_singleton_self d
  -- the last occurrence is not before `back`, so nothing has to be known of `front`
  obtain ⟨before, after, hsplit, hlast⟩ := exists_last_of_mem hmem
  refine ⟨front.flatMap (Step.directives host) ++ before, after, ?_, hlast, fun x hx hb => ?_⟩
  · rw [directives_compile_stepsWith, stepsWith, hsteps, List.append_assoc, List.flatMap_append,
      List.append_assoc, hsplit, List.append_assoc]
  · have hx' : x ∈ (back ++ [Step.read path]).flatMap (Step.directives host) ++ a.closing := by
      rw [hsplit]
      exact List.mem_append_right _ (List.mem_cons_of_mem _ hx)
    rcases List.mem_append.mp hx' with hx' | hx'
    · obtain ⟨s, hs, hxs⟩ := List.mem_flatMap.mp hx'
      rcases List.mem_append.mp hs with hs | hs
      · exact hback s hs x hxs hb
      · rw [List.mem_singleton.mp hs] at hxs
        exact Step.keeps_read path x hxs hb
    · rcases a.kind_of_mem_closing hx' with hk | hk <;> rw [Directive.Buries, hk] at hb <;>
        cases hb.1

theorem unburied_home {name : String} (hh : a.settings.home ≠ "")
    (hname : name ∈ a.settings.homeAccess)
    (hplace : Path.beneath a.settings.home name = some place)
    (hadmitted : d.admitted host = true) (hd : a.write place = .grant d) :
    a.Unburied (a.compile host path).directives d place := by
  obtain ⟨front, hfront⟩ : ∃ front, a.homeDirectory =
      front ++ a.settings.homeAccess.map fun name => entry a.settings.home name a.write :=
    ⟨_, by rw [homeDirectory, only, if_pos (bne_iff_ne.mpr hh)]⟩
  have hsteps : a.steps = (a.namespaces ++ a.systemDirectories ++ a.runtimeSockets ++ a.devices ++
      front) ++ ((a.settings.homeAccess.map fun name => entry a.settings.home name a.write) ++
        (a.displays ++ a.messageBus)) := by
    simp only [steps, hfront, List.append_assoc]
  have hentry : .grant d = entry a.settings.home name a.write := by
    simp only [entry, hplace, hd]
  refine unburied_of_steps hsteps ?_ hadmitted fun s hs => ?_
  · exact List.mem_append_left _ (mem_map_iff.mpr ⟨name, hname, hentry⟩)
  · rcases List.mem_append.mp hs with hs | hs
    · exact keeps_entries keeps_write s hs
    · exact keeps_late hs

theorem unburied_device {name : String} (hname : name ∈ a.settings.deviceAccess)
    (hplace : Path.beneath deviceDir name = some place)
    (hadmitted : (Directive.bindDevice place false).admitted host = true)
    (hhome : a.settings.home ≠ "" → ¬ Path.AtOrAbove a.settings.home place) :
    a.Unburied (a.compile host path).directives (.bindDevice place false) place := by
  obtain ⟨front, hfront⟩ : ∃ front, a.devices = front ++ deviceGrants [] a.deviceNames :=
    ⟨_, by rw [devices]⟩
  have hsteps : a.steps = (a.namespaces ++ a.systemDirectories ++ a.runtimeSockets ++ front) ++
      (deviceGrants [] a.deviceNames ++ (a.homeDirectory ++ (a.displays ++ a.messageBus))) := by
    simp only [steps, hfront, List.append_assoc]
  have hgrant : .grant (.bindDevice place false) ∈ deviceGrants [] a.deviceNames :=
    grant_mem_deviceGrants List.not_mem_nil (List.mem_append_right _ hname) hplace
  refine unburied_of_steps hsteps (List.mem_append_left _ hgrant) hadmitted fun s hs => ?_
  rcases List.mem_append.mp hs with hs | hs
  · exact keeps_deviceGrants s hs
  · rcases List.mem_append.mp hs with hs | hs
    · exact keeps_homeDirectory hhome hs
    · exact keeps_late hs

theorem unburied_socket {name : String} (hr : a.settings.runtimeDir ≠ "")
    (hname : name ∈ a.settings.socketAccess)
    (hplace : Path.beneath a.settings.runtimeDir name = some place)
    (hadmitted : (Directive.bindReadOnly place).admitted host = true)
    (hdevices : ¬ Path.AtOrAbove deviceDir place)
    (hhome : a.settings.home ≠ "" → ¬ Path.AtOrAbove a.settings.home place) :
    a.Unburied (a.compile host path).directives (.bindReadOnly place) place := by
  obtain ⟨front, hfront⟩ : ∃ front, a.runtimeSockets =
      front ++ a.settings.socketAccess.map fun name => entry a.settings.runtimeDir name Step.read :=
    ⟨_, by rw [runtimeSockets, only, if_pos (hasRuntimeDir_iff.mpr hr)]⟩
  have hsteps : a.steps = (a.namespaces ++ a.systemDirectories ++ front) ++
      ((a.settings.socketAccess.map fun name => entry a.settings.runtimeDir name Step.read) ++
        (a.devices ++ (a.homeDirectory ++ (a.displays ++ a.messageBus)))) := by
    simp only [steps, hfront, List.append_assoc]
  have hentry : .read place = entry a.settings.runtimeDir name Step.read := by
    simp only [entry, hplace]
  refine unburied_of_steps hsteps ?_ hadmitted fun s hs => ?_
  · exact List.mem_append_left _ (mem_map_iff.mpr ⟨name, hname, hentry⟩)
  · simp only [List.mem_append] at hs
    rcases hs with hs | hs | hs | hs
    · exact keeps_entries Step.keeps_read s hs
    · exact keeps_devices hdevices hs
    · exact keeps_homeDirectory hhome hs
    · exact keeps_late (List.mem_append.mpr hs)

end Access

/-- Where the base directories of the lists are apart, the grant of every entry that is on the host
is in the compiled list, and nothing that comes later buries the entry, displays apart. -/
theorem compile_keeps_entries (s : Settings) (hs : s.BasesApart) (host : Host)
    (path place : String) (d : Directive) (hd : (Access.ofSettings s).Listed place d)
    (hhost : host place = true) :
    (Access.ofSettings s).Unburied (compile s host path).directives d place := by
  cases hd with
  | home name hh hname hplace =>
    have hne := Path.ne_empty_of_beneath hplace
    refine Access.unburied_home hh hname hplace ?_ rfl
    split
    · exact Directive.Optional.admitted (.readOnly place) rfl hne hhost
    · exact Directive.Optional.admitted (.writable place) rfl hne hhost
  | device name hname hplace =>
    have hne := Path.ne_empty_of_beneath hplace
    have hbase := (Path.covers_of_beneath (by decide) hplace).atOrAbove
    refine Access.unburied_device hname hplace
      (Directive.Optional.admitted (.device place) rfl hne hhost) fun hh => ?_
    exact (hs.home_deviceDir hh).symm.not_atOrAbove hbase
  | socket name hr hname hplace =>
    have hne := Path.ne_empty_of_beneath hplace
    have hbase := (Path.covers_of_beneath hr hplace).atOrAbove
    refine Access.unburied_socket hr hname hplace
      (Directive.Optional.admitted (.readOnly place) rfl hne hhost)
      ((hs.runtimeDir_deviceDir hr).not_atOrAbove hbase) fun hh => ?_
    exact (hs.home_runtimeDir hh hr).symm.not_atOrAbove hbase

/-- A socket of the settings stays on top even where a denied display has the same one. -/
theorem compile_keeps_entries_beside :
    let s : Settings :=
      { applicationParams := "hidedevices,hidesockets", home := "/home/user/",
        runtimeDir := "/run/user/1000", homeAccess := ["docs//work", "../etc"],
        deviceAccess := ["/snd"], socketAccess := ["app/../wayland-0"] }
    let ds := (compile s (fun _ => true) "/usr/bin/true").directives
    (Access.ofSettings s).Unburied ds (.bindWritable "/home/user/docs/work")
        "/home/user/docs/work" ∧
      (Access.ofSettings s).Unburied ds (.bindDevice "/dev/snd" false) "/dev/snd" ∧
      (Access.ofSettings s).Unburied ds (.bindReadOnly "/run/user/1000/wayland-0")
        "/run/user/1000/wayland-0" := by
  intro s ds
  have hs : s.BasesApart :=
    ⟨fun _ _ => by decide, fun _ => by decide, fun _ => by decide⟩
  have hkept : (Access.ofSettings s).context.ephemeral = false := by decide
  have hhome : (Access.ofSettings s).Listed "/home/user/docs/work"
      (.bindWritable "/home/user/docs/work") := by
    have h : (Access.ofSettings s).Listed "/home/user/docs/work" _ :=
      .home "docs//work" (by decide) (by decide) (by decide)
    rw [hkept, if_neg Bool.false_ne_true] at h
    exact h
  have hdevice : (Access.ofSettings s).Listed "/dev/snd" (.bindDevice "/dev/snd" false) :=
    .device "/snd" (by decide) (by decide)
  have hsocket : (Access.ofSettings s).Listed "/run/user/1000/wayland-0"
      (.bindReadOnly "/run/user/1000/wayland-0") :=
    .socket "app/../wayland-0" (by decide) (by decide) (by decide)
  exact ⟨compile_keeps_entries s hs _ _ _ _ hhome rfl,
    compile_keeps_entries s hs _ _ _ _ hdevice rfl,
    compile_keeps_entries s hs _ _ _ _ hsocket rfl⟩

end Cloister
