import Cloister.Plan
import Cloister.Proofs.Access.Formed
import Cloister.Proofs.Bubblewrap.Reading
import Cloister.Proofs.Invocation

/-! # What the confinement program is told

The words of a command line tell all of the plan that they were made of, and nothing else: neither a
path nor an argument can be taken for an option.

* `Plan.build_eq_ok`: every invocation has a plan.
* `Plan.exists_command_eq`: the command line of a plan is read back.
* `command_read_back`: so are lists of directives, and the plans of invocations.
-/

namespace Cloister
set_option autoImplicit false
open Bubblewrap

namespace Plan

theorem build_eq_ok {argv : List String} {i : Invocation} (h : Invocation.parse argv = .ok i)
    (s : Settings) (host : Host) : build argv s host = .ok (ofInvocation i s host) := by
  rw [build, h]
  rfl

/-- Behind the path of the program the directives of a plan are read back, if they end with the only
end among them, and the target and the arguments are left. -/
theorem exists_command_eq {p : Plan} {front : List Directive}
    (hp : p.directives = front ++ [.terminator])
    (hfront : ∀ d ∈ front, d.Formed ∧ d ≠ .terminator) :
    ∃ ws, p.command = some p.program :: ws.map some ∧
      Bubblewrap.read ws = some (p.directives.map Directive.unmasked, p.target :: p.arguments) := by
  obtain ⟨ws, hws, hread⟩ := read_wordsAll_append hfront (p.target :: p.arguments)
  refine ⟨ws ++ p.target :: p.arguments, ?_, hp ▸ hread⟩
  rw [command, hp, hws, List.map_append, List.map_cons, List.cons_append]

end Plan

/-- Lists of directives that forms were asked for are read back from their words, where the end may
stand behind them. From the command line of an invocation the directives of its plan are read back
up to the end, and what is left is the target and the arguments as they were given. -/
theorem command_read_back :
    (∀ ds : List Directive, (∀ d ∈ ds, d.Built) → (∀ d ∈ ds.dropLast, d ≠ .terminator) →
      ∃ ws, wordsAll ds = ws.map some ∧ read ws = some (ds.map Directive.unmasked, [])) ∧
    ∀ (argv : List String) (i : Invocation) (s : Settings) (host : Host),
      Invocation.parse argv = .ok i →
      ∃ plan notices front ws, Plan.build argv s host = .ok (plan, notices) ∧
        plan.directives = front ++ [.terminator] ∧ (∀ d ∈ front, d ≠ .terminator) ∧
        plan.command = some plan.program :: ws.map some ∧
        read ws = some (plan.directives.map Directive.unmasked, argv.tail) := by
  constructor
  · intro ds hds hend
    exact read_wordsAll (fun d hd => (hds d hd).formed) hend
  · intro argv i s host h
    obtain ⟨front, hp, hfront⟩ :=
      (Access.ofSettings s).exists_compile_eq_append host (i.program s.programDir)
    obtain ⟨selector, rfl, -, -⟩ := Invocation.parse_eq_ok_iff.mp h
    obtain ⟨ws, hws, hread⟩ := (Plan.ofInvocation i s host).1.exists_command_eq hp hfront
    exact ⟨_, _, front, ws, Plan.build_eq_ok h s host, hp, fun d hd => (hfront d hd).2, hws, hread⟩

/-- Paths, values, names and arguments that look like options are read as what they are. -/
theorem command_read_back_dashes :
    let ds : List Directive :=
      [.bindReadOnly "--", .symlink "--bind-try" "--tmpfs", .unshare "", .clear (some "--perms"),
        .maskFile "--ro-bind-try", .bindDevice "--unshare-net" true, .terminator]
    let argv : List String := ["-c", "--", "--bind-try", "--"]
    let s : Settings := { home := "--", readAccess := ["--", "--unshare-net"] }
    (∃ ws, wordsAll ds = ws.map some ∧ read ws = some (ds.map Directive.unmasked, [])) ∧
      ∃ plan notices front ws, Plan.build argv s (fun _ => true) = .ok (plan, notices) ∧
        plan.directives = front ++ [.terminator] ∧ (∀ d ∈ front, d ≠ .terminator) ∧
        plan.command = some plan.program :: ws.map some ∧
        read ws = some (plan.directives.map Directive.unmasked, ["--", "--bind-try", "--"]) := by
  intro ds argv s
  have hds : ∀ d ∈ ds, d.Built := by
    simp only [ds, List.forall_mem_cons, Directive.Built]
    refine ⟨⟨"bind_ro", _, [.text "--"], [], rfl, by simp [Datum.IsPlain], nofun, rfl⟩,
      ⟨"symlink", _, [.text "--bind-try", .text "--tmpfs"], [], rfl, by simp [Datum.IsPlain],
        nofun, rfl⟩,
      ⟨"unshare", _, [.text ""], [], rfl, by simp [Datum.IsPlain], nofun, rfl⟩,
      ⟨"tmpfs_clear", _, [.text "--perms"], [], rfl, by simp [Datum.IsPlain], nofun, rfl⟩,
      ⟨"null_bind_file", _, [.text "--ro-bind-try"], [], rfl, by simp [Datum.IsPlain], nofun, rfl⟩,
      ⟨"dev_bind", _, [.text "--unshare-net"], [("required", .bool true)], rfl,
        by simp [Datum.IsPlain], by simp [Datum.IsPlain], rfl⟩,
      ⟨"terminator", _, [], [], rfl, nofun, nofun, rfl⟩, nofun⟩
  exact ⟨command_read_back.1 ds hds (by decide),
    command_read_back.2 argv ⟨.command, "--", ["--bind-try", "--"]⟩ s (fun _ => true) rfl⟩

end Cloister
