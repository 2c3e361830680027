import Cloister.Proofs.Access.Switches
import Cloister.Proofs.Access.Writable

/-! # Writing in strict mode

Strict mode takes all grants back, and with them the one that throws changes away. Apart from that
it only restricts, so what it lets be written could be written without it as long as changes are
kept.

* `Access.Writable.of_strict`: what is written in strict mode may be written under every policy that
  says the same of restrictions.
* `compile_strict_writable`: strict mode shows nothing more for writing than the same tokens do
  where changes are kept.
-/

namespace Cloister
set_option autoImplicit false

namespace Access

variable {p q s : Settings} {u : TokenSet} {place : String}

/-- What may be written in strict mode is opened by denials and entries, so it stays open wherever
the same is said of restrictions. -/
theorem Writable.of_strict (hstrict : p.tokens.strict = true)
    (hrest : ∃ application user,
      q = { p with applicationParams := application, userParams := user })
    (hsaid : ∀ c ∈ Capability.restrictions, p.tokens.stated c.name = q.tokens.stated c.name)
    (h : (ofSettings p).Writable place) : (ofSettings q).Writable place := by
  have hopen (c : Capability) (hc : c ∈ Capability.restrictions)
      (hp : (ofSettings p).tokens.restricts c = false) :
      (ofSettings q).tokens.restricts c = false := by
    rw [tokens_ofSettings, ← Bool.not_eq_true, TokenSet.restricts_of_strict hstrict, not_not] at hp
    rw [tokens_ofSettings, TokenSet.restricts, TokenSet.restrictsName, ← hsaid c hc, hp]
  have hrefused (c : Capability) : (ofSettings p).tokens.allows c ≠ true := by
    rw [tokens_ofSettings, TokenSet.allows_of_strict hstrict]
    exact Bool.false_ne_true
  obtain ⟨application, user, rfl⟩ := hrest
  cases h with
  | temporary ht => exact .temporary (hopen .hideTmp (by decide) ht)
  | home hh hp => exact .home hh (hopen .protectHome (by decide) hp)
  | dconf _ hd => exact absurd hd (hrefused _)
  | downloads _ hd => exact absurd hd (hrefused _)
  | entry hh hname hpath => exact .entry hh hname hpath

theorem mem_compile_of_strict (hp : p.Asks s (s.tokens.insert Capability.sandbox.name))
    (hq : q.Asks s u)
    (hsaid : ∀ c ∈ Capability.restrictions, q.tokens.stated c.name = s.tokens.stated c.name)
    (hkept : q.tokens.allows .ephemeral = false) {host : Host} {path : String} {d : Directive}
    (hd : d ∈ (Cloister.compile p host path).directives) (hk : d.kind = .bindWritable) :
    d ∈ (Cloister.compile q host path).directives := by
  obtain ⟨_, _, rfl⟩ := hp.rest
  obtain ⟨application, user, rfl⟩ := hq.rest
  have hstrict := TokenSet.strict_of_insert hp.mem_tokens
  have hsame (c : Capability) (hc : c ∈ Capability.restrictions) := by
    have hsandbox := (Capability.ne_switch_of_mem_single (List.mem_append_left _ hc)).1
    exact (TokenSet.stated_eq_of_insert hp.mem_tokens (List.mem_append_left _ hc) hsandbox).trans
      (hsaid c hc).symm
  obtain ⟨-, place, hw, hhost, rfl⟩ := writable_mem_compile.mp ⟨hd, hk⟩
  have hw' := hw.of_strict hstrict ⟨application, user, rfl⟩ hsame
  exact (writable_mem_compile.mpr ⟨(ephemeral_ofSettings _).trans hkept, place, hw', hhost, rfl⟩).1

end Access

/-- In strict mode nothing is shown for writing that is not shown so by the same tokens without the
one that throws changes away. Unless that one is granted, the tokens themselves show it. -/
theorem compile_strict_writable (s p q : Settings)
    (hp : p.Asks s (s.tokens.insert Capability.sandbox.name))
    (hq : q.Asks s (s.tokens.erase Capability.ephemeral.name)) (host : Host) (path : String)
    (d : Directive) (hd : d ∈ (compile p host path).directives) (hk : d.kind = .bindWritable) :
    d ∈ (compile q host path).directives ∧
      (s.tokens.allows .ephemeral = false → d ∈ (compile s host path).directives) := by
  have hkept : q.tokens.allows .ephemeral = false := by
    rw [← Bool.not_eq_true, TokenSet.allows, TokenSet.allowsName_eq_true_iff]
    rintro ⟨-, -, hnamed⟩
    exact (Distinct.mem_erase.mp ((hq.mem_tokens _).mp hnamed)).2 rfl
  have hsaid (c : Capability) (hc : c ∈ Capability.restrictions) :
      q.tokens.stated c.name = s.tokens.stated c.name :=
    TokenSet.stated_eq_of_erase hq.mem_tokens (List.mem_append_left _ hc)
      (Capability.restriction_ne_grant hc (by decide))
  exact ⟨Access.mem_compile_of_strict hp hq hsaid hkept hd hk,
    fun he => Access.mem_compile_of_strict hp (.refl s) (fun _ _ => rfl) he hd hk⟩

/-- Beside the permissive switch, strict mode leaves an unprotected home directory as it is. -/
theorem compile_strict_writable_home :
    let s : Settings :=
      { applicationParams := "nosandbox,noprotecthome,allowdconf", home := "/home/user",
        runtimeDir := "/run/user/1000", homeAccess := ["work"] }
    let p : Settings := { s with userParams := "sandbox" }
    (∀ place ∈ ["/home/user", "/home/user/work"],
        Directive.bindWritable place ∈ (compile p (fun _ => true) "/usr/bin/true").directives) ∧
      ∀ place ∈ ["/home/user", "/home/user/work"],
        Directive.bindWritable place ∈ (compile s (fun _ => true) "/usr/bin/true").directives := by
  intro s p
  have hp : p.Asks s (s.tokens.insert Capability.sandbox.name) :=
    ⟨⟨_, _, rfl⟩, Distinct.sameMembers_iff.mp (by decide +kernel)⟩
  have hs : s.Asks s (s.tokens.erase Capability.ephemeral.name) :=
    ⟨⟨_, _, rfl⟩, Distinct.sameMembers_iff.mp (by decide +kernel)⟩
  have hshown : ∀ place ∈ ["/home/user", "/home/user/work"],
      Directive.bindWritable place ∈ (compile p (fun _ => true) "/usr/bin/true").directives := by
    decide +kernel
  refine ⟨hshown, fun place hplace => ?_⟩
  exact (compile_strict_writable s p s hp hs (fun _ => true) "/usr/bin/true" _
    (hshown place hplace) rfl).1

/-- Where changes are thrown away, strict mode keeps them, and shows for writing what was empty. -/
theorem compile_strict_writable_kept :
    let s : Settings :=
      { applicationParams := "ephemeral,nohidetmp", home := "/home/user", homeAccess := ["work"] }
    let p : Settings := { s with userParams := "sandbox" }
    p.Asks s (s.tokens.insert Capability.sandbox.name) ∧
      ∀ place ∈ ["/tmp", "/home/user/work"],
        Directive.bindWritable place ∈ (compile p (fun _ => true) "/usr/bin/true").directives ∧
        Directive.bindWritable place ∉ (compile s (fun _ => true) "/usr/bin/true").directives := by
  intro s p
  exact ⟨⟨⟨_, _, rfl⟩, Distinct.sameMembers_iff.mp (by decide +kernel)⟩, by decide +kernel⟩

end Cloister
