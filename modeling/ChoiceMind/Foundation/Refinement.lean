import ChoiceMind.Foundation.Transition

/-!
# Refinement with the same labels

When every step of a system is a step of a second one with the same label and the same reply,
its runs are runs of the second system, entry by entry.
-/

namespace Transition

set_option autoImplicit false

universe u v w x
variable {σ : Type u} {α : Type v} {ρ : Type w} {τ : Type x}

/-- An entry seen through a view of the states. -/
def Entry.view (abs : σ → τ) (e : Entry σ α ρ) : Entry τ α ρ :=
  ⟨abs e.before, e.label, e.reply, abs e.after⟩

theorem Run.refines {step : σ → α → Option (ρ × σ)} {spec : τ → α → Option (ρ × τ)} {abs : σ → τ}
    {Inv : σ → Prop}
    (simulated : ∀ {s t a r}, Inv s → step s a = some (r, t) →
      Inv t ∧ spec (abs s) a = some (r, abs t))
    {s t : σ} {es : List (Entry σ α ρ)} (h : Run step s es t) (hs : Inv s) :
    Inv t ∧ Run spec (abs s) (es.map (Entry.view abs)) (abs t) := by
  induction h with
  | nil s => exact ⟨hs, .nil _⟩
  | cons hstep _ ih =>
    obtain ⟨hnext, hmove⟩ := simulated hs hstep
    obtain ⟨hlast, hrest⟩ := ih hnext
    exact ⟨hlast, .cons hmove hrest⟩

end Transition
