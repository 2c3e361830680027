import Cloister.Proofs.Console.Plain
import Cloister.Proofs.Console.Wrapping

/-! # The manual of the console

* `Console.describes`: what the manual of the console promises is so, however wide it is.
-/

namespace Cloister.Console
set_option autoImplicit false

/-- What the manual of the console promises is so. -/
theorem describes (width : Environment → Nat) : (manual width).Describes (screen width) where
  shown e s hplain hlast := by
    obtain ⟨htab, hjoiner⟩ := notMem_of_isPlain hplain
    refine ⟨layOut (width e) s, ?_, fun hroom => wraps_layOut hroom htab hjoiner,
      layOut_of_short htab⟩
    rw [Screen.colored, screen, Markup.render_colored _ hplain hlast]
  unmatched e s t hs ht hslast htlast := by
    refine ⟨.unmatched ('/' :: Markup.red) (8 + s.length + t.length), ?_⟩
    rw [Screen.colored, screen, Markup.render_unmatched _ hs ht hslast htlast]

end Cloister.Console
