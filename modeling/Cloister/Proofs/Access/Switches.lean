import Cloister.Proofs.Access.Required
import Cloister.Proofs.Policy.Wording

/-! # The global switches

The permissive switch shows the root of the host and denies every restriction that nothing is said
of; the strict switch takes all grants back. Neither has any other effect. In strict mode the root
of the host should stay out of sight, but the permissive switch shows it there too.

* `Settings.Asks.alike`: settings that differ in tokens are alike.
* `Access.agreesOn_of_beside`: the tokens of a capability make no difference to other ones.
* `compile_switched`: both switches in terms of tokens about single capabilities.
* `compile_strict_permissive`: what the permissive switch does in strict mode.
-/

namespace Cloister
set_option autoImplicit false

variable {r s t : Settings} {p q : TokenSet}

theorem Settings.Asks.alike (hs : s.Asks r p) (ht : t.Asks r q) : s.Alike t := by
  obtain ⟨_, _, rfl⟩ := hs.rest
  obtain ⟨_, _, rfl⟩ := ht.rest
  exact ⟨rfl, rfl, rfl, rfl, rfl, rfl, rfl, rfl, rfl⟩

namespace Access

/-! ## One token more or less -/

/-- Settings that are alike, with tokens that differ at most in those of one capability. -/
theorem agreesOn_of_beside {c : Capability} (hc : c ∈ Capability.single) (hne : c ≠ .ephemeral)
    (hprotect : c ≠ .protectHome) (h : s.Alike t) (hbeside : TokenSet.AgreeBeside c p q) :
    AgreesOn (· ≠ c) (withTokens s p) (withTokens t q) := by
  have hstrict := hbeside.strict_eq (Capability.ne_switch_of_mem_single hc).1.symm
  have hpermissive := hbeside.permissive_eq hc
  refine .of_closed (.of_alike h (fun d hd hdc => ?_) (fun d hd hdc => ?_) hne.symm fun _ => ?_)
    hpermissive
  · exact TokenSet.restricts_congr (hbeside.stated_eq (List.mem_append_left _ hd) hdc) hstrict
      hpermissive
  · exact TokenSet.allows_congr (hbeside.stated_eq (List.mem_append_right _ hd) hdc) hstrict
  · rw [hbeside.stated_eq (d := .protectHome) (by decide) hprotect.symm]

/-- Without the token of a grant, the tokens say the same of all other capabilities. -/
theorem agreesOn_of_erase {c : Capability} (hc : c ∈ Capability.grants) (hne : c ≠ .ephemeral)
    (ht : t.Asks s (s.tokens.erase c.name)) :
    AgreesOn (· ≠ c) (ofSettings s) (ofSettings t) := by
  have hprotect := (Capability.restriction_ne_grant (c := .protectHome) (by decide) hc).symm
  exact agreesOn_of_beside (List.mem_append_right _ hc) hne hprotect
    ((Settings.Asks.refl s).alike ht) (TokenSet.agreeBeside_of_erase ht.mem_tokens).symm

/-- With the token of a capability, the tokens say the same of all others. -/
theorem agreesOn_of_insert {c : Capability} (hc : c ∈ Capability.single) (hne : c ≠ .ephemeral)
    (hprotect : c ≠ .protectHome) (ht : t.Asks s (s.tokens.insert c.name)) :
    AgreesOn (· ≠ c) (ofSettings s) (ofSettings t) :=
  agreesOn_of_beside hc hne hprotect ((Settings.Asks.refl s).alike ht)
    (TokenSet.agreeBeside_of_insert ht.mem_tokens).symm

/-! ## One switch at a time -/

theorem agreesOn_of_permissive (hstrict : r.tokens.strict = false)
    (hpermissive : r.tokens.permissive = false)
    (hs : s.Asks r (r.tokens.insert Capability.noSandbox.name)) (ht : t.Asks r r.tokens.opened) :
    AgreesOn (fun _ => True) (ofSettings s).closed (ofSettings t).closed := by
  have hsstrict : s.tokens.strict = false :=
    (TokenSet.strict_eq_of_insert hs.mem_tokens (by decide)).trans hstrict
  have hspermissive : s.tokens.permissive = true := TokenSet.permissive_of_insert hs.mem_tokens
  have htstrict : t.tokens.strict = false :=
    (TokenSet.strict_eq_of_opened ht.mem_tokens).trans hstrict
  have htpermissive : t.tokens.permissive = false :=
    (TokenSet.permissive_eq_of_opened ht.mem_tokens).trans hpermissive
  have hstated (c : Capability) (hc : c ∈ Capability.single) :
      s.tokens.stated c.name = r.tokens.stated c.name :=
    TokenSet.stated_eq_of_insert hs.mem_tokens hc (Capability.ne_switch_of_mem_single hc).2
  refine .of_alike (hs.alike ht) (fun c hc _ => ?_) (fun c hc _ => ?_) trivial fun _ => ?_
  -- what nothing is said of holds on neither side: by the switch, and by its denial
  · rw [Bool.eq_iff_iff, TokenSet.restricts_of_permissive hsstrict hspermissive,
      TokenSet.restricts_of_not_permissive htpermissive, hstated c (List.mem_append_left _ hc),
      TokenSet.stated_of_opened ht.mem_tokens hc]
    cases r.tokens.stated c.name <;> decide
  · rw [Bool.eq_iff_iff, TokenSet.allows_of_not_strict hsstrict,
      TokenSet.allows_of_not_strict htstrict, hstated c (List.mem_append_right _ hc),
      TokenSet.stated_of_opened_of_grant ht.mem_tokens hc]
  · rw [hstated .protectHome (by decide), TokenSet.stated_of_opened ht.mem_tokens (by decide)]
    cases r.tokens.stated Capability.protectHome.name <;> decide

theorem agreesOn_of_strict (hpermissive : r.tokens.permissive = false)
    (hs : s.Asks r (r.tokens.insert Capability.sandbox.name)) (ht : t.Asks r r.tokens.ungranted) :
    AgreesOn (fun _ => True) (ofSettings s).closed (ofSettings t).closed := by
  have hsstrict : s.tokens.strict = true := TokenSet.strict_of_insert hs.mem_tokens
  have htpermissive : t.tokens.permissive = false :=
    (TokenSet.permissive_eq_of_ungranted ht.mem_tokens).trans hpermissive
  refine .of_alike (hs.alike ht) (fun c hc _ => ?_) (fun c hc _ => ?_) trivial fun h => ?_
  · have hswitch := (Capability.ne_switch_of_mem_single (List.mem_append_left _ hc)).1
    rw [Bool.eq_iff_iff, TokenSet.restricts_of_strict hsstrict,
      TokenSet.restricts_of_not_permissive htpermissive,
      TokenSet.stated_eq_of_insert hs.mem_tokens (List.mem_append_left _ hc) hswitch,
      TokenSet.stated_of_ungranted ht.mem_tokens hc]
  · rw [TokenSet.allows_of_strict hsstrict, TokenSet.allows_of_ungranted ht.mem_tokens hc]
  · rw [TokenSet.allows_of_strict hsstrict] at h
    cases h

/-- In strict mode the permissive switch makes no difference to what single capabilities do. -/
theorem agreesOn_of_both (hstrict : r.tokens.strict = true)
    (hs : s.Asks r (r.tokens.insert Capability.noSandbox.name))
    (ht : t.Asks r (r.tokens.erase Capability.noSandbox.name)) :
    AgreesOn (fun _ => True) (ofSettings s).closed (ofSettings t).closed := by
  have hsstrict : s.tokens.strict = true :=
    (TokenSet.strict_eq_of_insert hs.mem_tokens (by decide)).trans hstrict
  have htstrict : t.tokens.strict = true :=
    (TokenSet.strict_eq_of_erase ht.mem_tokens (by decide)).trans hstrict
  refine .of_alike (hs.alike ht) (fun c hc _ => ?_) (fun c _ _ => ?_) trivial fun h => ?_
  · have hswitch := (Capability.ne_switch_of_mem_single (List.mem_append_left _ hc)).2
    rw [Bool.eq_iff_iff, TokenSet.restricts_of_strict hsstrict,
      TokenSet.restricts_of_strict htstrict,
      TokenSet.stated_eq_of_insert hs.mem_tokens (List.mem_append_left _ hc) hswitch,
      TokenSet.stated_eq_of_erase ht.mem_tokens (List.mem_append_left _ hc) hswitch]
  · rw [TokenSet.allows_of_strict hsstrict, TokenSet.allows_of_strict htstrict]
  · rw [TokenSet.allows_of_strict hsstrict] at h
    cases h

/-! ## Compiled lists -/

theorem directives_compile_ofSettings (s : Settings) (host : Host) (path : String) :
    (Cloister.compile s host path).directives =
      (if s.tokens.permissive then [hostRoot] else []) ++
        ((ofSettings s).closed.compile host path).directives := by
  rw [Cloister.compile, directives_compile_closed, permissive_ofSettings]

theorem AgreesOn.directives_eq_cons
    (h : AgreesOn (fun _ => True) (ofSettings s).closed (ofSettings t).closed)
    (hshown : s.tokens.permissive = true) (hhidden : t.tokens.permissive = false) (host : Host)
    (path : String) :
    (Cloister.compile s host path).directives =
      hostRoot :: (Cloister.compile t host path).directives := by
  rw [directives_compile_ofSettings s, directives_compile_ofSettings t, h.compile_eq, hshown,
    hhidden]
  rfl

end Access

/-- Where no switch is set, the permissive switch shows the root of the host and denies what nothing
is said of, and the strict switch takes back all grants. Neither switch changes what is said of a
single capability, nor a restriction that something is said of, and the permissive switch gives no
grant. -/
theorem compile_switched (s : Settings) (hstrict : Capability.sandbox.name ∉ s.tokens)
    (hpermissive : Capability.noSandbox.name ∉ s.tokens) (host : Host) (path : String) :
    (∀ p q : Settings, p.Asks s (s.tokens.insert Capability.noSandbox.name) →
      q.Asks s s.tokens.opened →
      (compile p host path).directives = Access.hostRoot :: (compile q host path).directives ∧
      ∀ c ∈ Capability.grants, p.tokens.allows c = s.tokens.allows c) ∧
    (∀ p q : Settings, p.Asks s (s.tokens.insert Capability.sandbox.name) →
      q.Asks s s.tokens.ungranted →
      (compile p host path).directives = (compile q host path).directives) ∧
    ∀ c ∈ Capability.switches, ∀ p : Settings, p.Asks s (s.tokens.insert c.name) →
      (∀ d ∈ Capability.single, p.tokens.stated d.name = s.tokens.stated d.name) ∧
      ∀ d ∈ Capability.restrictions, s.tokens.stated d.name ≠ .silent →
        p.tokens.restricts d = s.tokens.restricts d := by
  rw [← TokenSet.strict_eq_false_iff] at hstrict
  rw [← TokenSet.permissive_eq_false_iff] at hpermissive
  have hstated (c : Capability) (hc : c ∈ Capability.switches) (p : Settings)
      (hp : p.Asks s (s.tokens.insert c.name)) (d : Capability) (hd : d ∈ Capability.single) :
      p.tokens.stated d.name = s.tokens.stated d.name := by
    have hdc : ∀ c ∈ Capability.switches, ∀ d ∈ Capability.single, d ≠ c := by decide
    exact TokenSet.stated_eq_of_insert hp.mem_tokens hd (hdc c hc d hd)
  refine ⟨fun p q hp hq => ⟨?_, fun c hc => ?_⟩, fun p q hp hq => ?_, fun c hc p hp =>
    ⟨hstated c hc p hp, fun d hd hsaid => ?_⟩⟩
  · have hagree := Access.agreesOn_of_permissive hstrict hpermissive hp hq
    have hshown : p.tokens.permissive = true := TokenSet.permissive_of_insert hp.mem_tokens
    have hhidden : q.tokens.permissive = false :=
      (TokenSet.permissive_eq_of_opened hq.mem_tokens).trans hpermissive
    exact hagree.directives_eq_cons hshown hhidden host path
  · have hp' : p.tokens.strict = false :=
      (TokenSet.strict_eq_of_insert hp.mem_tokens (by decide)).trans hstrict
    rw [Bool.eq_iff_iff, TokenSet.allows_of_not_strict hp', TokenSet.allows_of_not_strict hstrict,
      hstated .noSandbox (by decide) p hp c (List.mem_append_right _ hc)]
  · have hagree := Access.agreesOn_of_strict hpermissive hp hq
    have hp' : p.tokens.permissive = false :=
      (TokenSet.permissive_eq_of_insert hp.mem_tokens (by decide)).trans hpermissive
    have hq' : q.tokens.permissive = false :=
      (TokenSet.permissive_eq_of_ungranted hq.mem_tokens).trans hpermissive
    rw [Access.directives_compile_ofSettings p, Access.directives_compile_ofSettings q,
      hagree.compile_eq, hp', hq']
  · exact TokenSet.restricts_eq_of_stated (hstated c hc p hp d (List.mem_append_left _ hd)) hsaid

/-- What is said of single capabilities stays in force beside either switch. -/
theorem compile_switched_said :
    let s : Settings :=
      { applicationParams := "ephemeral,nohidetmp,allowgpu,noallowusb,hidebin",
        home := "/home/user", runtimeDir := "/run/user/1000", homeAccess := ["work"],
        deviceAccess := ["snd"] }
    let opened : Settings :=
      { s with userParams := "nounshareuts,nounsharenetwork,nonewsession,nounshareprocesses" ++
          ",nopreventpreload,nohideusr,nohidesbin,nohidelibexec,nohideetc,nohidesys,nohiderun" ++
          ",nohidevar,nohidesockets,nohidedevices,noprotecthome" }
    (compile { s with userParams := "nosandbox" } (fun _ => true) "/usr/bin/true").directives =
        Access.hostRoot :: (compile opened (fun _ => true) "/usr/bin/true").directives ∧
      (compile { s with userParams := "sandbox" } (fun _ => true) "/usr/bin/true").directives =
        (compile { s with applicationParams := "nohidetmp,noallowusb,hidebin" } (fun _ => true)
          "/usr/bin/true").directives := by
  intro s opened
  have hnosandbox : ({ s with userParams := "nosandbox" } : Settings).Asks s
      (s.tokens.insert Capability.noSandbox.name) :=
    ⟨⟨_, _, rfl⟩, Distinct.sameMembers_iff.mp (by decide +kernel)⟩
  have hopened : opened.Asks s s.tokens.opened :=
    ⟨⟨_, _, rfl⟩, Distinct.sameMembers_iff.mp (by decide +kernel)⟩
  have hsandbox : ({ s with userParams := "sandbox" } : Settings).Asks s
      (s.tokens.insert Capability.sandbox.name) :=
    ⟨⟨_, _, rfl⟩, Distinct.sameMembers_iff.mp (by decide +kernel)⟩
  have hungranted : ({ s with applicationParams := "nohidetmp,noallowusb,hidebin" } : Settings).Asks
      s s.tokens.ungranted :=
    ⟨⟨_, _, rfl⟩, Distinct.sameMembers_iff.mp (by decide +kernel)⟩
  have hswitches := compile_switched s (by decide) (by decide) (fun _ => true) "/usr/bin/true"
  exact ⟨(hswitches.1 _ _ hnosandbox hopened).1, hswitches.2.1 _ _ hsandbox hungranted⟩

/-- In strict mode the permissive switch still shows the root of the host, and does nothing else. -/
theorem compile_strict_permissive (s : Settings) (hstrict : Capability.sandbox.name ∈ s.tokens)
    (p q : Settings) (hp : p.Asks s (s.tokens.insert Capability.noSandbox.name))
    (hq : q.Asks s (s.tokens.erase Capability.noSandbox.name)) (host : Host) (path : String) :
    (compile p host path).directives = Access.hostRoot :: (compile q host path).directives ∧
      Access.hostRoot ∉ (compile q host path).directives ∧
      (compile p host path).notices = (compile q host path).notices := by
  have hagree := Access.agreesOn_of_both (TokenSet.strict_eq_true_iff.mpr hstrict) hp hq
  have hshown : p.tokens.permissive = true := TokenSet.permissive_of_insert hp.mem_tokens
  have hhidden : q.tokens.permissive = false := TokenSet.permissive_of_erase hq.mem_tokens
  refine ⟨hagree.directives_eq_cons hshown hhidden host path, ?_, ?_⟩
  · rw [compile, Access.hostRoot_mem_compile, Access.permissive_ofSettings, hhidden]
    exact Bool.false_ne_true
  · rw [compile, compile, Access.notices_compile_closed, hagree.compile_eq,
      ← Access.notices_compile_closed]

theorem compile_strict_permissive_download :
    let s : Settings :=
      { applicationParams := "sandbox,nohidetmp,allowdownloads", home := "/home/user" }
    let p : Settings := { s with userParams := "nosandbox" }
    (compile p (fun _ => true) "/usr/bin/true").directives =
        Access.hostRoot :: (compile s (fun _ => true) "/usr/bin/true").directives ∧
      Access.hostRoot ∉ (compile s (fun _ => true) "/usr/bin/true").directives ∧
      (compile p (fun _ => true) "/usr/bin/true").notices =
        (compile s (fun _ => true) "/usr/bin/true").notices := by
  intro s p
  have hp : p.Asks s (s.tokens.insert Capability.noSandbox.name) :=
    ⟨⟨_, _, rfl⟩, Distinct.sameMembers_iff.mp (by decide +kernel)⟩
  have hs : s.Asks s (s.tokens.erase Capability.noSandbox.name) :=
    ⟨⟨_, _, rfl⟩, Distinct.sameMembers_iff.mp (by decide +kernel)⟩
  exact compile_strict_permissive s (by decide) p s hp hs (fun _ => true) "/usr/bin/true"

/-- The strict switch does not override the permissive one. -/
theorem compile_strict_permissive_root :
    let s : Settings := { applicationParams := "sandbox" }
    let p : Settings := { applicationParams := "sandbox,nosandbox" }
    Capability.sandbox.name ∈ s.tokens ∧
      p.tokens.sameMembers (s.tokens.insert Capability.noSandbox.name) = true ∧
      (compile p (fun _ => true) "/usr/bin/true").directives ≠
        (compile s (fun _ => true) "/usr/bin/true").directives ∧
      Access.hostRoot ∈ (compile p (fun _ => true) "/usr/bin/true").directives := by
  decide

end Cloister
