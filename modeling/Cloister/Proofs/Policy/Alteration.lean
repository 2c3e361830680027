import Cloister.Proofs.Policy.Naming

/-! # Token sets made from others

* `TokenSet.AgreeBeside`: token sets that differ at most in the tokens of one capability.
* `TokenSet.AgreeBeside.stated_eq`: the tokens of a capability say nothing of another one.
* `TokenSet.opened`, `TokenSet.ungranted`: tokens that say of each capability what a switch would
  say.
-/

namespace Cloister.TokenSet
set_option autoImplicit false

variable {t u : TokenSet} {c d : Capability} {n x : String}

/-! ## What follows from the switches and from what is said -/

theorem stated_eq_silent_iff : t.stated n = .silent ↔ "no" ++ n ∉ t ∧ n ∉ t := by
  unfold stated
  split
  · simp_all
  · split <;> simp_all

theorem restricts_of_strict (h : t.strict = true) :
    t.restricts c = true ↔ t.stated c.name ≠ .disabled := by
  rw [restricts, restrictsName]
  cases t.stated c.name <;> simp [h]

theorem restricts_of_not_permissive (h : t.permissive = false) :
    t.restricts c = true ↔ t.stated c.name ≠ .disabled := by
  rw [restricts, restrictsName]
  cases t.stated c.name <;> simp [h]

theorem restricts_of_permissive (hs : t.strict = false) (hp : t.permissive = true) :
    t.restricts c = true ↔ t.stated c.name = .enabled := by
  rw [restricts, restrictsName]
  cases t.stated c.name <;> simp [hs, hp]

theorem restricts_congr (hsaid : u.stated c.name = t.stated c.name) (hstrict : u.strict = t.strict)
    (hpermissive : u.permissive = t.permissive) : u.restricts c = t.restricts c := by
  rw [restricts, restricts, restrictsName, restrictsName, hsaid, hstrict, hpermissive]

theorem allows_congr (hsaid : u.stated c.name = t.stated c.name) (hstrict : u.strict = t.strict) :
    u.allows c = t.allows c := by
  rw [allows, allows, allowsName, allowsName, hsaid, hstrict]

/-- Where something is said of a restriction, the switches do not matter. -/
theorem restricts_eq_of_stated (h : u.stated c.name = t.stated c.name)
    (hsaid : t.stated c.name ≠ .silent) : u.restricts c = t.restricts c := by
  rw [restricts, restricts, restrictsName, restrictsName, h]
  cases hs : t.stated c.name with
  | silent => exact absurd hs hsaid
  | enabled | disabled => rfl

theorem allows_of_strict (h : t.strict = true) : t.allows c = false := by
  rw [allows, allowsName, h, Bool.not_true, Bool.false_and]

theorem allows_of_not_strict (h : t.strict = false) :
    t.allows c = true ↔ t.stated c.name = .enabled := by
  simp [allows, allowsName, h]

theorem restricts_of_named (hname : c.name ∈ t) (hdenial : c.denial ∉ t) : t.restricts c = true := by
  rw [restricts, restrictsName_eq_true_iff]
  exact ⟨hdenial, .inl hname⟩

theorem restricts_of_denied (h : c.denial ∈ t) : t.restricts c = false := by
  rw [← Bool.not_eq_true, restricts, restrictsName_eq_true_iff]
  exact fun hrestricts => hrestricts.1 h

theorem allows_of_denied (h : c.denial ∈ t) : t.allows c = false := by
  rw [← Bool.not_eq_true, allows, allowsName_eq_true_iff]
  exact fun hallows => hallows.2.1 h

theorem allows_of_unnamed (h : c.name ∉ t) : t.allows c = false := by
  rw [← Bool.not_eq_true, allows, allowsName_eq_true_iff]
  exact fun hallows => h hallows.2.2

/-! ## One token more or less -/

/-- Neither the denial nor the name of a single capability is the name of another capability. -/
theorem tokens_ne_name (hd : d ∈ Capability.single) (hdc : d ≠ c) :
    d.denial ≠ c.name ∧ d.name ≠ c.name := by
  obtain ⟨hstrict, -⟩ := Capability.ne_switch_of_mem_single hd
  refine ⟨?_, fun h => hdc (Capability.name_injective h)⟩
  by_cases hc : c = .noSandbox
  · rw [hc, ← Capability.denial_sandbox]
    exact fun h => hstrict (Capability.denial_injective h)
  · exact (Capability.name_ne_denial hc d).symm

theorem mem_insert_iff_of_ne {w : String} (h : x ≠ w) : x ∈ t.insert w ↔ x ∈ t := by
  rw [Distinct.mem_insert]
  exact or_iff_right h

theorem mem_erase_iff_of_ne {w : String} (h : x ≠ w) : x ∈ t.erase w ↔ x ∈ t := by
  rw [Distinct.mem_erase]
  exact and_iff_left h

theorem strict_congr (h : Capability.sandbox.name ∈ u ↔ Capability.sandbox.name ∈ t) :
    u.strict = t.strict := by
  rw [Bool.eq_iff_iff, strict_eq_true_iff, strict_eq_true_iff, h]

theorem permissive_congr (h : Capability.noSandbox.name ∈ u ↔ Capability.noSandbox.name ∈ t) :
    u.permissive = t.permissive := by
  rw [Bool.eq_iff_iff, permissive_eq_true_iff, permissive_eq_true_iff, h]

/-- Two token sets differ at most in the name and in the denial of a capability. -/
def AgreeBeside (c : Capability) (t u : TokenSet) : Prop :=
  ∀ x, x ≠ c.name → x ≠ c.denial → (x ∈ t ↔ x ∈ u)

theorem agreeBeside_of_insert (h : ∀ x, x ∈ u ↔ x ∈ t.insert c.name) : AgreeBeside c u t :=
  fun x hname _ => (h x).trans (mem_insert_iff_of_ne hname)

theorem agreeBeside_of_insert_denial (h : ∀ x, x ∈ u ↔ x ∈ t.insert c.denial) : AgreeBeside c u t :=
  fun x _ hdenial => (h x).trans (mem_insert_iff_of_ne hdenial)

theorem agreeBeside_of_erase (h : ∀ x, x ∈ u ↔ x ∈ t.erase c.name) : AgreeBeside c u t :=
  fun x hname _ => (h x).trans (mem_erase_iff_of_ne hname)

namespace AgreeBeside

variable {v : TokenSet}

theorem symm (h : AgreeBeside c t u) : AgreeBeside c u t :=
  fun x hname hdenial => (h x hname hdenial).symm

theorem trans (h : AgreeBeside c t u) (h' : AgreeBeside c u v) : AgreeBeside c t v :=
  fun x hname hdenial => (h x hname hdenial).trans (h' x hname hdenial)

theorem stated_eq (h : AgreeBeside c t u) (hd : d ∈ Capability.single) (hdc : d ≠ c) :
    t.stated d.name = u.stated d.name := by
  obtain ⟨hdenial, hname⟩ := tokens_ne_name hd hdc
  have hswitch := (Capability.ne_switch_of_mem_single hd).2
  exact stated_congr (h _ hdenial (Capability.denial_injective.ne hdc))
    (h _ hname (Capability.name_ne_denial hswitch c))

theorem strict_eq (h : AgreeBeside c t u) (hc : .sandbox ≠ c) : t.strict = u.strict :=
  strict_congr (h _ (Capability.name_injective.ne hc) (Capability.name_ne_denial (by decide) c))

theorem permissive_eq (h : AgreeBeside c t u) (hc : c ∈ Capability.single) :
    t.permissive = u.permissive := by
  obtain ⟨hstrict, hpermissive⟩ := Capability.ne_switch_of_mem_single hc
  have hdenial : Capability.noSandbox.name ≠ c.denial := by
    rw [← Capability.denial_sandbox]
    exact Capability.denial_injective.ne hstrict.symm
  exact permissive_congr (h _ (Capability.name_injective.ne hpermissive.symm) hdenial)

end AgreeBeside

theorem stated_eq_of_insert (h : ∀ x, x ∈ u ↔ x ∈ t.insert c.name) (hd : d ∈ Capability.single)
    (hdc : d ≠ c) : u.stated d.name = t.stated d.name :=
  (agreeBeside_of_insert h).stated_eq hd hdc

theorem stated_eq_of_erase (h : ∀ x, x ∈ u ↔ x ∈ t.erase c.name) (hd : d ∈ Capability.single)
    (hdc : d ≠ c) : u.stated d.name = t.stated d.name :=
  (agreeBeside_of_erase h).stated_eq hd hdc

theorem strict_eq_of_insert (h : ∀ x, x ∈ u ↔ x ∈ t.insert c.name) (hc : .sandbox ≠ c) :
    u.strict = t.strict :=
  (agreeBeside_of_insert h).strict_eq hc

theorem permissive_eq_of_insert (h : ∀ x, x ∈ u ↔ x ∈ t.insert c.name) (hc : .noSandbox ≠ c) :
    u.permissive = t.permissive :=
  permissive_congr ((h _).trans (mem_insert_iff_of_ne (Capability.name_injective.ne hc)))

theorem strict_eq_of_erase (h : ∀ x, x ∈ u ↔ x ∈ t.erase c.name) (hc : .sandbox ≠ c) :
    u.strict = t.strict :=
  (agreeBeside_of_erase h).strict_eq hc

theorem strict_of_insert (h : ∀ x, x ∈ u ↔ x ∈ t.insert Capability.sandbox.name) :
    u.strict = true :=
  strict_eq_true_iff.mpr ((h _).mpr (Distinct.mem_insert.mpr (.inl rfl)))

theorem permissive_of_insert (h : ∀ x, x ∈ u ↔ x ∈ t.insert Capability.noSandbox.name) :
    u.permissive = true :=
  permissive_eq_true_iff.mpr ((h _).mpr (Distinct.mem_insert.mpr (.inl rfl)))

theorem permissive_of_erase (h : ∀ x, x ∈ u ↔ x ∈ t.erase Capability.noSandbox.name) :
    u.permissive = false := by
  rw [permissive_eq_false_iff, h, Distinct.mem_erase]
  exact fun he => he.2 rfl

/-- A capability that is named takes no denial back. -/
theorem denial_mem_of_insert (h : ∀ x, x ∈ u ↔ x ∈ t.insert c.name) (hc : c ∈ Capability.single) :
    c.denial ∈ u ↔ c.denial ∈ t := by
  have hswitch := (Capability.ne_switch_of_mem_single hc).2
  exact (h _).trans (mem_insert_iff_of_ne (Capability.name_ne_denial hswitch c).symm)

theorem restricts_of_insert (h : ∀ x, x ∈ u ↔ x ∈ t.insert c.name) (hc : c ∈ Capability.single)
    (ht : t.restricts c = true) : u.restricts c = true := by
  rw [restricts, restrictsName_eq_true_iff] at ht ⊢
  exact ⟨fun hd => ht.1 ((denial_mem_of_insert h hc).mp hd), .inl ((h _).mpr (by simp))⟩

theorem allows_of_insert (h : ∀ x, x ∈ u ↔ x ∈ t.insert c.name) (hc : c ∈ Capability.single)
    (ht : t.allows c = true) : u.allows c = true := by
  have hstrict : u.strict = t.strict :=
    strict_eq_of_insert h (Capability.ne_switch_of_mem_single hc).1.symm
  rw [allows, allowsName_eq_true_iff] at ht ⊢
  rw [hstrict]
  exact ⟨ht.1, fun hd => ht.2.1 ((denial_mem_of_insert h hc).mp hd), (h _).mpr (by simp)⟩

/-! ## The switches in other tokens -/

/-- The tokens of `t`, and the denial of every restriction that they say nothing of. -/
def opened (t : TokenSet) : TokenSet :=
  t.insertAll ((Capability.restrictions.filter fun c => decide (c.name ∉ t ∧ c.denial ∉ t)).map
    Capability.denial)

/-- The tokens of `t` but for the names of grants. -/
def ungranted (t : TokenSet) : TokenSet where
  toList := t.toList.filter fun x => decide (∀ c ∈ Capability.grants, x ≠ c.name)
  nodup := t.nodup.filter _

theorem mem_opened :
    x ∈ t.opened ↔
      x ∈ t ∨ ∃ c ∈ Capability.restrictions, c.name ∉ t ∧ c.denial ∉ t ∧ c.denial = x := by
  rw [opened, Distinct.mem_insertAll, or_comm, List.mem_map]
  simp only [List.mem_filter, decide_eq_true_eq, and_assoc]

theorem mem_ungranted : x ∈ t.ungranted ↔ x ∈ t ∧ ∀ c ∈ Capability.grants, x ≠ c.name := by
  rw [Distinct.mem_def, ungranted, List.mem_filter, decide_eq_true_eq, Distinct.mem_def]

theorem name_mem_opened : c.name ∈ t.opened ↔ c.name ∈ t := by
  rw [mem_opened]
  refine or_iff_left ?_
  rintro ⟨d, hd, -, -, he⟩
  by_cases hc : c = .noSandbox
  · rw [hc, ← Capability.denial_sandbox] at he
    rw [Capability.denial_injective he] at hd
    exact absurd hd (by decide)
  · exact Capability.name_ne_denial hc d he.symm

theorem denial_mem_opened :
    c.denial ∈ t.opened ↔
      c.denial ∈ t ∨ c ∈ Capability.restrictions ∧ t.stated c.name = .silent := by
  rw [stated_eq_silent_iff, mem_opened]
  constructor
  · rintro (h | ⟨d, hd, hname, hdenial, he⟩)
    · exact .inl h
    · obtain rfl : d = c := Capability.denial_injective he
      exact .inr ⟨hd, hdenial, hname⟩
  · rintro (h | ⟨hc, hdenial, hname⟩)
    · exact .inl h
    · exact .inr ⟨c, hc, hname, hdenial, rfl⟩

/-- A restriction that nothing is said of is denied; all else that is said stays. -/
theorem stated_of_opened (h : ∀ x, x ∈ u ↔ x ∈ t.opened) (hc : c ∈ Capability.restrictions) :
    u.stated c.name =
      if t.stated c.name = .silent then .disabled else t.stated c.name := by
  have hdenial : c.denial ∈ u ↔ c.denial ∈ t ∨ _ := (h _).trans denial_mem_opened
  cases hs : t.stated c.name with
  | silent => exact stated_eq_disabled_iff.mpr (hdenial.mpr (.inr ⟨hc, hs⟩))
  | disabled =>
    have hdenied : c.denial ∈ t := stated_eq_disabled_iff.mp hs
    exact stated_eq_disabled_iff.mpr (hdenial.mpr (.inl hdenied))
  | enabled =>
    obtain ⟨hundenied, hnamed⟩ := stated_eq_enabled_iff.mp hs
    refine stated_eq_enabled_iff.mpr ⟨fun hd => ?_, (h _).mpr (name_mem_opened.mpr hnamed)⟩
    rcases hdenial.mp hd with hd | ⟨-, hsilent⟩
    · exact hundenied hd
    · rw [hs] at hsilent
      cases hsilent

theorem strict_eq_of_opened (h : ∀ x, x ∈ u ↔ x ∈ t.opened) : u.strict = t.strict :=
  strict_congr ((h _).trans name_mem_opened)

theorem permissive_eq_of_opened (h : ∀ x, x ∈ u ↔ x ∈ t.opened) : u.permissive = t.permissive :=
  permissive_congr ((h _).trans name_mem_opened)

theorem stated_of_opened_of_grant (h : ∀ x, x ∈ u ↔ x ∈ t.opened) (hc : c ∈ Capability.grants) :
    u.stated c.name = t.stated c.name := by
  have hdenial : c.denial ∈ u ↔ c.denial ∈ t := by
    rw [h, denial_mem_opened]
    exact or_iff_left fun hr => Capability.restriction_ne_grant hr.1 hc rfl
  exact stated_congr hdenial ((h _).trans name_mem_opened)

theorem permissive_eq_of_ungranted (h : ∀ x, x ∈ u ↔ x ∈ t.ungranted) :
    u.permissive = t.permissive := by
  refine permissive_congr ((h _).trans ?_)
  rw [mem_ungranted]
  exact and_iff_left (by decide)

theorem stated_of_ungranted (h : ∀ x, x ∈ u ↔ x ∈ t.ungranted)
    (hc : c ∈ Capability.restrictions) : u.stated c.name = t.stated c.name := by
  have hkept (x : String) (hx : ∀ g ∈ Capability.grants, x ≠ g.name) : x ∈ u ↔ x ∈ t := by
    rw [h, mem_ungranted]
    exact and_iff_left hx
  refine stated_congr (hkept _ fun g hg => ?_) (hkept _ fun g hg => ?_)
  · have hswitch : g ≠ .noSandbox := by
      rintro rfl
      exact absurd hg (by decide)
    exact (Capability.name_ne_denial hswitch c).symm
  · exact fun he => Capability.restriction_ne_grant hc hg (Capability.name_injective he)

theorem allows_of_ungranted (h : ∀ x, x ∈ u ↔ x ∈ t.ungranted) (hc : c ∈ Capability.grants) :
    u.allows c = false :=
  allows_of_unnamed fun hnamed => (mem_ungranted.mp ((h _).mp hnamed)).2 c hc rfl

end Cloister.TokenSet
