import Cloister.Proofs.Access.Phases

/-! # What a host leaves out

The rules are the same on every host. All that a host without some of the sources can do is leave
out the grants of these sources, and it says so once for each of them.

* `Host.everything`: the host on which every path exists.
* `Directive.absentOn`: the grants that a host leaves out.
* `Step.Regular.directives_eq_filter`, `Step.Regular.notices_of_absent`: what that means for a
  single step.
* `Step.refusal?`: what a step warns of, on every host.
* `compile_on_host`: what it means for a compiled list and its notices.
-/

namespace Cloister
set_option autoImplicit false

/-- The host on which every path exists. -/
def Host.everything : Host := fun _ => true

/-- A grant that is not required, with a source that the host does not have. -/
def Directive.absentOn (host : Host) (d : Directive) : Bool :=
  d.isGrant && !d.required && d.source.any fun path => !host path

/-- A notice of a grant that was left out, with a source that is not empty. -/
def Notice.namesSource : Notice → Bool
  | .skipped _ (some path) => path != ""
  | _ => false

/-- A notice that is a warning. -/
def Notice.isWarning (n : Notice) : Bool := n.severity == Notice.warning

variable {host : Host}

/-! ## Single grants -/

theorem Directive.absentOn_of_not_isGrant {d : Directive} (h : d.isGrant = false) :
    d.absentOn host = false := by
  rw [absentOn, h, Bool.false_and, Bool.false_and]

theorem Directive.Structural.absentOn_eq_false {a : Access} {d : Directive} (h : d.Structural a) :
    d.absentOn host = false := by
  by_cases hg : d.isGrant = true
  · rw [absentOn, h.required_of_isGrant hg, Bool.not_true, Bool.and_false, Bool.false_and]
  · exact absentOn_of_not_isGrant (Bool.not_eq_true _ ▸ hg)

/-- An optional grant is one of a path. -/
theorem Directive.Optional.exists_source {d : Directive} (h : d.Optional) :
    ∃ path, d.source = some path ∧ ∀ host, d.absentOn host = !host path ∧
      d.admitted host = (path != "" && host path) := by
  cases h with
  | readOnly path | writable path | device path => exact ⟨path, rfl, fun _ => ⟨rfl, rfl⟩⟩

/-! ## Single steps -/

namespace Step

variable {a : Access} {s : Step}

theorem Regular.directives_eq_filter (hs : s.Regular a) :
    s.directives host = (s.directives .everything).filter fun d => !d.absentOn host := by
  cases s with
  | emit d =>
    have hd : d.absentOn host = false := Directive.Structural.absentOn_eq_false hs
    simp [directives, hd]
  | clear path =>
    have hd : (Directive.clear (some path)).absentOn host = false :=
      Directive.absentOn_of_not_isGrant rfl
    simp [directives, hd]
  | grant d =>
    obtain ⟨path, -, h⟩ := Directive.Optional.exists_source hs
    simp only [directives, h, Host.everything, Bool.and_true]
    by_cases hp : path = ""
    · simp [hp]
    · cases hh : host path <;> simp [hp, hh, h]
  | refuse base entry => rfl

/-- A step tells of each grant that the host leaves out, and of no other with a source. -/
theorem Regular.notices_of_absent (hs : s.Regular a) :
    (s.notices host).filter Notice.namesSource =
      ((s.directives .everything).filter (Directive.absentOn host)).map fun d =>
        .skipped d.kind d.source := by
  cases s with
  | emit d =>
    have hd : d.absentOn host = false := Directive.Structural.absentOn_eq_false hs
    simp [directives, notices, hd]
  | clear path =>
    have hd : (Directive.clear (some path)).absentOn host = false :=
      Directive.absentOn_of_not_isGrant rfl
    simp [directives, notices, hd]
  | grant d =>
    obtain ⟨path, hsource, h⟩ := Directive.Optional.exists_source hs
    simp only [directives, notices, h, Host.everything, Bool.and_true]
    by_cases hp : path = ""
    · simp [hp, Directive.skipNotice, hsource, Notice.namesSource]
    · cases hh : host path <;>
        simp [hp, hh, h, Directive.skipNotice, hsource, Notice.namesSource]
  | refuse base entry => rfl

/-- The warning of a step: that an entry is refused. -/
def refusal? : Step → Option Notice
  | .refuse base name => some (.outside base name)
  | _ => none

theorem filter_isWarning_notices (host : Host) (s : Step) :
    (s.notices host).filter Notice.isWarning = s.refusal?.toList := by
  cases s with
  | grant d =>
    rw [notices]
    split <;> rfl
  | emit | clear | refuse => rfl

end Step

/-! ## All steps -/

section Run
variable {a : Access} {steps : List Step}

theorem flatMap_directives_eq_filter (h : ∀ s ∈ steps, s.Regular a) :
    steps.flatMap (Step.directives host) =
      (steps.flatMap (Step.directives .everything)).filter fun d => !d.absentOn host := by
  rw [List.filter_flatMap]
  exact List.flatMap_congr fun s hs => (h s hs).directives_eq_filter

theorem flatMap_notices_of_absent (h : ∀ s ∈ steps, s.Regular a) :
    (steps.flatMap (Step.notices host)).filter Notice.namesSource =
      ((steps.flatMap (Step.directives .everything)).filter (Directive.absentOn host)).map fun d =>
        .skipped d.kind d.source := by
  rw [List.filter_flatMap, List.filter_flatMap, List.map_flatMap]
  exact List.flatMap_congr fun s hs => (h s hs).notices_of_absent

theorem filter_isWarning_flatMap (host : Host) (steps : List Step) :
    (steps.flatMap (Step.notices host)).filter Notice.isWarning =
      steps.filterMap Step.refusal? := by
  rw [List.filter_flatMap, List.filterMap_eq_flatMap_toList]
  exact List.flatMap_congr fun s _ => s.filter_isWarning_notices host

/-- What steps warn of does not depend on the host. -/
theorem flatMap_warnings_eq (host host' : Host) (steps : List Step) :
    (steps.flatMap (Step.notices host)).filter Notice.isWarning =
      (steps.flatMap (Step.notices host')).filter Notice.isWarning := by
  rw [filter_isWarning_flatMap, filter_isWarning_flatMap]

end Run

namespace Access

variable (a : Access)

/-- The steps of the rules, with the program as the last one. -/
def stepsWith (path : String) : List Step := a.steps ++ [.read path]

theorem regular_of_mem_stepsWith {path : String} {s : Step} (hs : s ∈ a.stepsWith path) :
    s.Regular a := by
  rcases List.mem_append.mp hs with hs | hs
  · exact regular_of_mem_steps hs
  · rw [List.mem_singleton.mp hs]
    exact regular_read path

theorem notices_compile (host : Host) (path : String) :
    (a.compile host path).notices = (a.stepsWith path).flatMap (Step.notices host) := by
  rw [compile, stepsWith, List.flatMap_append, List.flatMap_singleton, programNotices]

/-- The locks and the end, which no host changes. -/
def closing : List Directive := a.locked.toList.map (fun p => .lock (some p)) ++ [.terminator]

theorem directives_compile_stepsWith (host : Host) (path : String) :
    (a.compile host path).directives =
      (a.stepsWith path).flatMap (Step.directives host) ++ a.closing := by
  rw [directives_compile, stepsWith, List.flatMap_append, List.flatMap_singleton, directives_read,
    content, closing, List.append_assoc _ (a.locked.toList.map _)]

theorem kind_of_mem_closing {d : Directive} (hd : d ∈ a.closing) :
    d.kind = .lock ∨ d.kind = .terminator := by
  rcases List.mem_append.mp hd with hd | hd
  · obtain ⟨p, -, rfl⟩ := List.mem_map.mp hd
    exact .inl rfl
  · rw [List.mem_singleton.mp hd]
    exact .inr rfl

theorem isGrant_of_mem_closing {d : Directive} (hd : d ∈ a.closing) : d.isGrant = false := by
  rcases a.kind_of_mem_closing hd with h | h <;> rw [Directive.isGrant, h] <;> rfl

theorem not_absentOn_of_mem_closing {d : Directive} (hd : d ∈ a.closing) :
    d.absentOn host = false :=
  Directive.absentOn_of_not_isGrant (a.isGrant_of_mem_closing hd)

theorem filter_absentOn_closing : a.closing.filter (Directive.absentOn host) = [] := by
  rw [List.filter_eq_nil_iff]
  intro d hd
  rw [a.not_absentOn_of_mem_closing hd]
  exact Bool.false_ne_true

theorem filter_not_absentOn_closing :
    a.closing.filter (fun d => !d.absentOn host) = a.closing := by
  rw [List.filter_eq_self]
  intro d hd
  rw [a.not_absentOn_of_mem_closing hd, Bool.not_false]

end Access

/-- A list that is compiled on a host is the list for a host with every path, less the grants whose
sources the host does not have. There is one notice for each of them, in order, and the warnings
are the same. -/
theorem compile_on_host (s : Settings) (host : Host) (path : String) :
    (compile s host path).directives =
        (compile s .everything path).directives.filter (fun d => !d.absentOn host) ∧
      (compile s host path).notices.filter Notice.namesSource =
        ((compile s .everything path).directives.filter (Directive.absentOn host)).map
          (fun d => .skipped d.kind d.source) ∧
      (compile s host path).notices.filter Notice.isWarning =
        (compile s .everything path).notices.filter Notice.isWarning := by
  have hregular : ∀ t ∈ (Access.ofSettings s).stepsWith path, t.Regular (.ofSettings s) :=
    fun t => Access.regular_of_mem_stepsWith _
  simp only [compile, Access.directives_compile_stepsWith, Access.notices_compile]
  refine ⟨?_, ?_, ?_⟩
  · rw [List.filter_append, Access.filter_not_absentOn_closing,
      ← flatMap_directives_eq_filter hregular]
  · rw [List.filter_append, Access.filter_absentOn_closing, List.append_nil,
      flatMap_notices_of_absent hregular]
  · exact flatMap_warnings_eq host .everything _

end Cloister
