import Mathlib.Data.List.Basic

/-!
# Rules of a trace

A rule says what may happen after the events before it; a trace keeps it if each of its events
does. Traces grow at their ends.
-/

namespace Trace

set_option autoImplicit false

universe u
variable {ε : Type u} {rule rule' : List ε → ε → Prop} {tr : List ε} {e : ε}

/-- Every event of the trace keeps the rule after the events before it. -/
def Keeps (rule : List ε → ε → Prop) (tr : List ε) : Prop :=
  ∀ pre e post, tr = pre ++ e :: post → rule pre e

theorem keeps_nil : Keeps rule [] := by
  intro pre e post h
  exact absurd h.symm (List.append_ne_nil_of_right_ne_nil _ (List.cons_ne_nil _ _))

theorem keeps_concat : Keeps rule (tr ++ [e]) ↔ Keeps rule tr ∧ rule tr e := by
  constructor
  · intro h
    refine ⟨fun pre f post hsplit => ?_, h tr e [] rfl⟩
    exact h pre f (post ++ [e]) (by rw [hsplit, List.append_assoc, List.cons_append])
  · rintro ⟨hkeeps, hlast⟩ pre f post hsplit
    -- the event is the last one, or one of those before
    rcases List.eq_nil_or_concat post with rfl | ⟨middle, last, rfl⟩
    · obtain ⟨rfl, hsame⟩ := List.append_inj' hsplit rfl
      cases hsame
      exact hlast
    · rw [List.concat_eq_append, ← List.cons_append, ← List.append_assoc] at hsplit
      exact hkeeps pre f middle (List.append_inj' hsplit rfl).1

theorem keeps_singleton (h : rule [] e) : Keeps rule [e] :=
  keeps_concat.mpr ⟨keeps_nil, h⟩

theorem Keeps.mono (h : Keeps rule tr) (himp : ∀ pre e, rule pre e → rule' pre e) :
    Keeps rule' tr :=
  fun pre e post hsplit => himp pre e (h pre e post hsplit)

end Trace
