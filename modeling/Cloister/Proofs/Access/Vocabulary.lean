import Cloister.Proofs.Access.Switches
import Cloister.Proofs.Policy.Answers

/-! # Tokens that do not matter

A compiled list depends on the two lists of capabilities only through the words that the rules know,
and on the name of a capability only as long as it is not denied.

* `Settings.Names`: a word is an entry of one of the two lists.
* `Access.compile_eq_of_answers`: token sets that answer alike lead to the same list.
* `compile_vocabulary`: settings that are alike and name the same words of the vocabulary lead to the
  same list.
* `compile_denial_final`: a capability that is denied cannot be asked for, and to deny a grant is to
  leave it out.
-/

namespace Cloister
set_option autoImplicit false

/-! ## Words in the lists of capabilities -/

/-- A word is an entry of one of the two lists of capabilities, blanks around it left out. -/
def Settings.Names (s : Settings) (w : String) : Prop :=
  ∃ text ∈ [s.applicationParams, s.userParams],
    ∃ piece ∈ Text.pieces Entries.comma text, Text.trim piece = w

instance (s : Settings) (w : String) : Decidable (s.Names w) :=
  inferInstanceAs (Decidable (∃ text ∈ _, _))

theorem Settings.names_iff {s : Settings} {w : String} (hw : w ≠ "") :
    s.Names w ↔ w ∈ s.tokens := by
  rw [Settings.mem_tokens, Entries.ofText, Entries.ofText, Entries.mem_filled, Entries.mem_filled,
    and_iff_left hw, and_iff_left hw]
  simp [Settings.Names]

theorem Capability.ne_empty_of_mem_vocabulary {w : String} (h : w ∈ vocabulary) : w ≠ "" := by
  rcases List.mem_append.mp h with h | h
  · obtain ⟨c, -, rfl⟩ := List.mem_map.mp h
    exact c.isWord_name.1
  · obtain ⟨c, -, h⟩ := List.mem_flatMap.mp h
    simp only [List.mem_cons, List.not_mem_nil, or_false] at h
    rcases h with rfl | rfl
    · exact c.isWord_name.1
    · exact c.isWord_denial.1

/-! ## Answers and lists -/

theorem Access.compile_eq_of_answers {s t : Settings} (h : s.Alike t)
    (ha : s.tokens.AnswersAlike t.tokens) (host : Host) (path : String) :
    Cloister.compile s host path = Cloister.compile t host path := by
  have hclosed : AgreesOn (fun _ => True) (ofSettings s).closed (ofSettings t).closed :=
    .of_alike h (fun c hc _ => ha.restricts c hc) (fun c hc _ => ha.allows c hc) trivial
      fun _ => ha.protectHome
  have hpermissive : (ofSettings s).context.permissive = (ofSettings t).context.permissive := by
    rw [permissive_ofSettings, permissive_ofSettings, ha.permissive]
  exact (hclosed.of_closed hpermissive).compile_eq host path

/-- Settings that are alike, and name the same words of the vocabulary, lead to the same list. -/
theorem compile_vocabulary (s t : Settings) (h : s.Alike t)
    (hnames : ∀ w ∈ Capability.vocabulary, s.Names w ↔ t.Names w) (host : Host) (path : String) :
    compile s host path = compile t host path := by
  refine Access.compile_eq_of_answers h (.of_vocabulary fun w hw => ?_) host path
  have hne := Capability.ne_empty_of_mem_vocabulary hw
  exact (Settings.names_iff hne).symm.trans ((hnames w hw).trans (Settings.names_iff hne))

/-- Unknown words, the order and the place of words, blanks and empty entries make no difference, nor
does where the display protocols come from. -/
theorem compile_vocabulary_reworded :
    let s : Settings :=
      { applicationParams := "hidebin,nosandbox,allowgpu", userParams := "noallowusb",
        displayChoice := "x11", home := "/home/user", deviceAccess := ["snd"] }
    let t : Settings :=
      { applicationParams := " allowgpu ,,noallowusb,allowgpu,verbose",
        userParams := "\tnosandbox,hidebin2,hidebin", displayChoice := "X11", sessionType := "x11",
        home := "/home/user", deviceAccess := ["snd"], logLevel := "DEBUG" }
    compile s (fun _ => true) "/usr/bin/true" = compile t (fun _ => true) "/usr/bin/true" := by
  intro s t
  have halike : s.Alike t := ⟨rfl, rfl, rfl, rfl, rfl, rfl, rfl, by decide, by decide⟩
  exact compile_vocabulary s t halike (by decide +kernel) (fun _ => true) "/usr/bin/true"

/-! ## Denials -/

/-- Where a capability is denied, it makes no difference whether it is asked for, too. To deny a grant
is to leave it out. -/
theorem compile_denial_final (s : Settings) (host : Host) (path : String) :
    (∀ c : Capability, c ∉ Capability.switches → c.denial ∈ s.tokens → ∀ p q : Settings,
      p.Asks s (s.tokens.insert c.name) → q.Asks s (s.tokens.erase c.name) →
      compile p host path = compile q host path) ∧
    ∀ g ∈ Capability.grants, ∀ p q : Settings, p.Asks s (s.tokens.insert g.denial) →
      q.Asks s ((s.tokens.erase g.name).erase g.denial) →
      compile p host path = compile q host path := by
  refine ⟨fun c hswitch hdenied p q hp hq => ?_, fun g hg p q hp hq => ?_⟩
  · have hc : c ∈ Capability.single := by
      have hall := c.mem_all
      rw [Capability.all, List.append_assoc] at hall
      exact (List.mem_append.mp hall).resolve_left hswitch
    have hbeside : TokenSet.AgreeBeside c p.tokens q.tokens :=
      (TokenSet.agreeBeside_of_insert hp.mem_tokens).trans
        (TokenSet.agreeBeside_of_erase hq.mem_tokens).symm
    have hpdenied : c.denial ∈ p.tokens := (TokenSet.denial_mem_of_insert hp.mem_tokens hc).mpr hdenied
    have hqdenied : c.denial ∈ q.tokens := by
      have hne := Capability.name_ne_denial (Capability.ne_switch_of_mem_single hc).2 c
      exact (hq.mem_tokens _).mpr (Distinct.mem_erase.mpr ⟨hdenied, hne.symm⟩)
    exact Access.compile_eq_of_answers (hp.alike hq)
      (hbeside.answersAlike_of_denied hc hpdenied hqdenied) host path
  · have hbeside : TokenSet.AgreeBeside g p.tokens q.tokens := by
      intro x hname hdenial
      rw [hp.mem_tokens, hq.mem_tokens, TokenSet.mem_insert_iff_of_ne hdenial,
        TokenSet.mem_erase_iff_of_ne hdenial, TokenSet.mem_erase_iff_of_ne hname]
    have hdenied : g.denial ∈ p.tokens :=
      (hp.mem_tokens _).mpr (Distinct.mem_insert.mpr (.inl rfl))
    have hunnamed : g.name ∉ q.tokens := by
      rw [hq.mem_tokens, Distinct.mem_erase, Distinct.mem_erase]
      exact fun h => h.1.2 rfl
    exact Access.compile_eq_of_answers (hp.alike hq) (hbeside.answersAlike_of_refused hg
      (TokenSet.allows_of_denied hdenied) (TokenSet.allows_of_unnamed hunnamed)) host path

/-- Beside the permissive switch, a denied protection of the home directory stays denied, and denying
that changes are thrown away leaves the home directory as it is. -/
theorem compile_denial_final_home :
    let s : Settings :=
      { applicationParams := "noprotecthome,ephemeral", userParams := "nosandbox",
        home := "/home/user" }
    compile { s with userParams := "nosandbox,protecthome" } (fun _ => true) "/usr/bin/true" =
        compile s (fun _ => true) "/usr/bin/true" ∧
      compile { s with userParams := "noephemeral,nosandbox" } (fun _ => true) "/usr/bin/true" =
        compile { s with applicationParams := "noprotecthome" } (fun _ => true) "/usr/bin/true" := by
  intro s
  have hprotect : ({ s with userParams := "nosandbox,protecthome" } : Settings).Asks s
      (s.tokens.insert Capability.protectHome.name) :=
    ⟨⟨_, _, rfl⟩, Distinct.sameMembers_iff.mp (by decide +kernel)⟩
  have hs : s.Asks s (s.tokens.erase Capability.protectHome.name) :=
    ⟨⟨_, _, rfl⟩, Distinct.sameMembers_iff.mp (by decide +kernel)⟩
  have hdenied : ({ s with userParams := "noephemeral,nosandbox" } : Settings).Asks s
      (s.tokens.insert Capability.ephemeral.denial) :=
    ⟨⟨_, _, rfl⟩, Distinct.sameMembers_iff.mp (by decide +kernel)⟩
  have hkept : ({ s with applicationParams := "noprotecthome" } : Settings).Asks s
      ((s.tokens.erase Capability.ephemeral.name).erase Capability.ephemeral.denial) :=
    ⟨⟨_, _, rfl⟩, Distinct.sameMembers_iff.mp (by decide +kernel)⟩
  have h := compile_denial_final s (fun _ => true) "/usr/bin/true"
  exact ⟨h.1 .protectHome (by decide) (by decide +kernel) _ _ hprotect hs,
    h.2 .ephemeral (by decide) _ _ hdenied hkept⟩

end Cloister
