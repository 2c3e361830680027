import Cloister.Directive.Form
import Mathlib.Data.List.Basic

/-! # Directives of the forms

Each form makes directives of one kind, with the texts that it is given in their places.

* `Directive.Formed`: the directives that forms make of texts.
* `Directive.Built`: a directive that was asked for by the name of a form.
* `Directive.Built.formed`: whatever a form makes of texts and truth values is one of the former.
-/

namespace Cloister
set_option autoImplicit false

/-- A value that a form is given: a text or a truth value. -/
def Datum.IsPlain : Datum → Prop
  | .text _ | .bool _ => True
  | _ => False

theorem Datum.IsPlain.cases {v : Datum} (h : v.IsPlain) :
    (∃ t, v = .text t) ∨ ∃ b, v = .bool b := by
  cases v with
  | text t => exact .inl ⟨t, rfl⟩
  | bool b => exact .inr ⟨b, rfl⟩
  | _ => exact h.elim

namespace Directive

/-- A directive that a form makes of texts. -/
inductive Formed : Directive → Prop
  | bindWritable (path : String) : Formed (.bindWritable path)
  | bindReadOnly (path : String) : Formed (.bindReadOnly path)
  | bindDevice (path : String) (required : Bool) : Formed (.bindDevice path required)
  | clear (path : String) : Formed (.clear (some path))
  | maskFile (path : String) : Formed (.maskFile path)
  | lock (path : String) : Formed (.lock (some path))
  | unsetVariable (name : String) : Formed (.unsetVariable name)
  | setHostname (name : String) : Formed (.setHostname name)
  | unshare (namespaceName : String) : Formed (.unshare namespaceName)
  | dropCapability (capability : String) : Formed (.dropCapability capability)
  | mountProc (path : String) : Formed (.mountProc path)
  | minimalDev (path : String) : Formed (.minimalDev path)
  | symlink (source target : String) : Formed (.symlink source target)
  | newSession : Formed .newSession
  | terminator : Formed .terminator

namespace Form

variable {f : Form} {given values : List Datum} {named : List (String × Datum)} {d : Directive}

/-! ## Arguments -/

/-- Each parameter has one value: an argument or its default. -/
theorem of_bind (h : f.bind given named = .ok values) :
    values.length = f.parameters.length ∧ ∀ v ∈ values,
      v ∈ given ∨ (∃ a ∈ named, a.2 = v) ∨ ∃ p ∈ f.parameters, p.default = some v := by
  unfold bind at h
  split at h
  · cases h
  split at h
  · cases h
  rename_i hmost
  dsimp only at h
  split at h
  · rename_i hnone
    cases h
    have hsome : ∀ p ∈ f.parameters.drop given.length,
        ((Datum.field? p.name named).or p.default).isSome = true := by
      intro p hp
      have hp := List.filter_eq_nil_iff.mp hnone p hp
      exact Option.isSome_iff_ne_none.mpr fun he => hp (Option.isNone_iff_eq_none.mpr he)
    constructor
    · rw [List.length_append, List.filterMap_length_eq_length.mpr hsome, List.length_drop]
      omega
    · intro v hv
      rcases List.mem_append.mp hv with hv | hv
      · exact .inl hv
      · obtain ⟨p, hp, hv⟩ := List.mem_filterMap.mp hv
        rcases Option.or_eq_some_iff.mp hv with hv | ⟨-, hv⟩
        · obtain ⟨front, back, hn, -⟩ := List.lookup_eq_some_iff.mp hv
          exact .inr (.inl ⟨(p.name, v), by simp [hn], rfl⟩)
        · exact .inr (.inr ⟨p, List.mem_of_mem_drop hp, hv⟩)
  · cases h

theorem isPlain_default {p : Parameter} (hf : f ∈ all) (hp : p ∈ f.parameters) {v : Datum}
    (hv : p.default = some v) : v.IsPlain := by
  have hall : ∀ f ∈ all, ∀ p ∈ f.parameters, ∀ v ∈ p.default, v.IsPlain := by
    simp [all, Datum.IsPlain]
  exact hall f hf p hp v hv

/-! ## Fields -/

/-- A form of a single parameter makes a directive of a text, and none of a truth value. -/
theorem formed_of_text {make : String → Directive} (hmake : ∀ t, (make t).Formed)
    (hone : f.parameters.length = 1)
    (htext : ∀ t, Directive.read (f.fields [.text t]) = .ok (make t))
    (htruth : ∀ b, (Directive.read (f.fields [.bool b])).isOk = false)
    (hlen : values.length = f.parameters.length) (hplain : ∀ v ∈ values, v.IsPlain)
    (h : Directive.read (f.fields values) = .ok d) : d.Formed := by
  obtain ⟨v, rfl⟩ := List.length_eq_one_iff.mp (hlen.trans hone)
  obtain ⟨t, rfl⟩ | ⟨b, rfl⟩ := (hplain v (List.mem_singleton_self v)).cases
  · rw [htext, Except.ok.injEq] at h
    exact h ▸ hmake t
  · have hb := htruth b
    rw [h] at hb
    cases hb

theorem formed_of_device {v w : Datum} (hv : v.IsPlain)
    (h : Directive.read
      [("type", .text Kind.bindDevice.name), ("source", v), ("target", v), ("required", w)] =
        .ok d) : d.Formed := by
  simp only [Directive.read, Directive.readWith, Checked.library] at h
  have hrequired : Checked.field
      [("type", .text Kind.bindDevice.name), ("source", v), ("target", v), ("required", w)]
      "required" (some false) Checked.truth =
        Checked.within (.field "required") (Checked.truth w) := rfl
  rw [hrequired] at h
  cases hw : Checked.truth w with
  | error flaws => obtain ⟨path, rfl⟩ | ⟨b, rfl⟩ := hv.cases <;> rw [hw] at h <;> cases h
  | ok required =>
    rw [hw] at h
    obtain ⟨path, rfl⟩ | ⟨b, rfl⟩ := hv.cases <;> cases h
    exact .bindDevice path required

theorem formed_of_read (hf : f ∈ all) (hlen : values.length = f.parameters.length)
    (hplain : ∀ v ∈ values, v.IsPlain) (h : Directive.read (f.fields values) = .ok d) :
    d.Formed := by
  simp only [all, List.mem_cons, List.not_mem_nil, or_false] at hf
  rcases hf with
    rfl | rfl | rfl | rfl | rfl | rfl | rfl | rfl | rfl | rfl | rfl | rfl | rfl | rfl | rfl
  · exact formed_of_text .bindWritable rfl (fun _ => rfl) (fun _ => rfl) hlen hplain h
  · exact formed_of_text .bindReadOnly rfl (fun _ => rfl) (fun _ => rfl) hlen hplain h
  · obtain ⟨v, w, rfl⟩ := List.length_eq_two.mp hlen
    exact formed_of_device (hplain v (by simp)) h
  · exact formed_of_text .clear rfl (fun _ => rfl) (fun _ => rfl) hlen hplain h
  · exact formed_of_text .maskFile rfl (fun _ => rfl) (fun _ => rfl) hlen hplain h
  · exact formed_of_text .lock rfl (fun _ => rfl) (fun _ => rfl) hlen hplain h
  · exact formed_of_text .unsetVariable rfl (fun _ => rfl) (fun _ => rfl) hlen hplain h
  · exact formed_of_text .setHostname rfl (fun _ => rfl) (fun _ => rfl) hlen hplain h
  · exact formed_of_text .unshare rfl (fun _ => rfl) (fun _ => rfl) hlen hplain h
  · exact formed_of_text .dropCapability rfl (fun _ => rfl) (fun _ => rfl) hlen hplain h
  · exact formed_of_text .mountProc rfl (fun _ => rfl) (fun _ => rfl) hlen hplain h
  · exact formed_of_text .minimalDev rfl (fun _ => rfl) (fun _ => rfl) hlen hplain h
  · obtain ⟨v, w, rfl⟩ := List.length_eq_two.mp hlen
    obtain ⟨source, rfl⟩ | ⟨b, rfl⟩ := (hplain v (by simp)).cases <;>
      obtain ⟨target, rfl⟩ | ⟨b, rfl⟩ := (hplain w (by simp)).cases <;> cases h
    exact .symlink source target
  · rw [List.length_eq_zero_iff.mp hlen] at h
    cases h
    exact .newSession
  · rw [List.length_eq_zero_iff.mp hlen] at h
    cases h
    exact .terminator

end Form

/-- A directive that was asked for by the name of a form, with texts and truth values by position or
by name. -/
def Built (d : Directive) : Prop :=
  ∃ (name : String) (f : Form) (given : List Datum) (named : List (String × Datum)),
    Form.ofName? name = some f ∧ (∀ v ∈ given, v.IsPlain) ∧ (∀ a ∈ named, a.2.IsPlain) ∧
      f.build given named = .ok d

theorem Built.formed {d : Directive} (h : d.Built) : d.Formed := by
  obtain ⟨name, f, given, named, hf, hgiven, hnamed, h⟩ := h
  replace hf : f ∈ Form.all := List.mem_of_find?_eq_some hf
  unfold Form.build at h
  split at h
  · cases h
  · rename_i values hvalues
    obtain ⟨hlen, hfrom⟩ := Form.of_bind hvalues
    have hplain : ∀ v ∈ values, v.IsPlain := by
      intro v hv
      rcases hfrom v hv with hv | ⟨a, ha, rfl⟩ | ⟨p, hp, hv⟩
      · exact hgiven v hv
      · exact hnamed a ha
      · exact Form.isPlain_default hf hp hv
    split at h
    · rename_i x hread
      cases h
      exact Form.formed_of_read hf hlen hplain hread
    · cases h

end Directive
end Cloister
