import Mathlib.Data.List.Basic

/-!
# Runs of a labelled step function

`step s a` is the reply and the next state, or `none` when `a` is not enabled in
`s`. A run keeps every executed step with the states around it, so a property of
single steps and a property of reached states are both statements about its trace.
-/

namespace Transition

set_option autoImplicit false

universe u v w
variable {σ : Type u} {α : Type v} {ρ : Type w}

/-- One executed step. -/
structure Entry (σ : Type u) (α : Type v) (ρ : Type w) where
  before : σ
  label : α
  reply : ρ
  after : σ

/-- `Run step s es t`: executing the labels of `es` in order leads from `s` to `t`. -/
inductive Run (step : σ → α → Option (ρ × σ)) : σ → List (Entry σ α ρ) → σ → Prop where
  | nil (s : σ) : Run step s [] s
  | cons {s t u : σ} {a : α} {r : ρ} {es : List (Entry σ α ρ)} :
      step s a = some (r, t) → Run step t es u → Run step s (⟨s, a, r, t⟩ :: es) u

/-- Every step of the trace is taken where the guard holds. -/
def Guarded (G : σ → α → Prop) (es : List (Entry σ α ρ)) : Prop :=
  ∀ e ∈ es, G e.before e.label

instance (G : σ → α → Prop) [∀ s a, Decidable (G s a)] (es : List (Entry σ α ρ)) :
    Decidable (Guarded G es) :=
  inferInstanceAs (Decidable (∀ e ∈ es, G e.before e.label))

/-- Execute a schedule, recording the trace. -/
def exec (step : σ → α → Option (ρ × σ)) : σ → List α → Option (List (Entry σ α ρ) × σ)
  | s, [] => some ([], s)
  | s, a :: as =>
    match step s a with
    | none => none
    | some (r, t) =>
      match exec step t as with
      | none => none
      | some (es, u) => some (⟨s, a, r, t⟩ :: es, u)

theorem run_of_exec {step : σ → α → Option (ρ × σ)} {s u : σ} {as : List α}
    {es : List (Entry σ α ρ)} (h : exec step s as = some (es, u)) : Run step s es u := by
  induction as generalizing s es u with
  | nil =>
    simp only [exec, Option.some.injEq, Prod.mk.injEq] at h
    obtain ⟨rfl, rfl⟩ := h
    exact .nil s
  | cons a as ih =>
    simp only [exec] at h
    split at h
    · cases h
    · rename_i r t hstep
      split at h
      · cases h
      · rename_i fs v hrest
        simp only [Option.some.injEq, Prod.mk.injEq] at h
        obtain ⟨rfl, rfl⟩ := h
        exact .cons hstep (ih hrest)

/-- A schedule whose trace passes a check is a run with that trace. -/
theorem exists_run_of_exec {step : σ → α → Option (ρ × σ)} {s : σ} {as : List α}
    {check : List (Entry σ α ρ) × σ → Bool} (h : (exec step s as).any check = true) :
    ∃ es t, Run step s es t ∧ check (es, t) = true := by
  rw [Option.any_eq_true] at h
  obtain ⟨⟨es, t⟩, hexec, hcheck⟩ := h
  exact ⟨es, t, run_of_exec hexec, hcheck⟩

theorem labels_of_exec {step : σ → α → Option (ρ × σ)} {s u : σ} {as : List α}
    {es : List (Entry σ α ρ)} (h : exec step s as = some (es, u)) : es.map Entry.label = as := by
  induction as generalizing s es u with
  | nil =>
    cases h
    rfl
  | cons a as ih =>
    simp only [exec] at h
    split at h
    · cases h
    · split at h
      · cases h
      · rename_i fs v hrest
        cases h
        rw [List.map_cons, ih hrest]

/-- A schedule whose trace passes a check is a run of exactly its labels. -/
theorem exists_labelled_run_of_exec {step : σ → α → Option (ρ × σ)} {s : σ} {as : List α}
    {check : List (Entry σ α ρ) × σ → Bool} (h : (exec step s as).any check = true) :
    ∃ es t, Run step s es t ∧ es.map Entry.label = as ∧ check (es, t) = true := by
  rw [Option.any_eq_true] at h
  obtain ⟨⟨es, t⟩, hexec, hcheck⟩ := h
  exact ⟨es, t, run_of_exec hexec, labels_of_exec hexec, hcheck⟩

/-- A check of the trace cut at its entry number `n`. -/
def cutAt (n : Nat) (check : List (Entry σ α ρ) → Entry σ α ρ → List (Entry σ α ρ) → Bool)
    (result : List (Entry σ α ρ) × σ) : Bool :=
  match result.1.drop n with
  | [] => false
  | e :: post => check (result.1.take n) e post

theorem exists_cut_of_exec {step : σ → α → Option (ρ × σ)} {s : σ} {as : List α} {n : Nat}
    {check : List (Entry σ α ρ) → Entry σ α ρ → List (Entry σ α ρ) → Bool}
    (h : (exec step s as).any (cutAt n check) = true) :
    ∃ pre e post t, Run step s (pre ++ e :: post) t ∧ check pre e post = true := by
  obtain ⟨es, t, hrun, hcheck⟩ := exists_run_of_exec h
  unfold cutAt at hcheck
  split at hcheck
  · cases hcheck
  · rename_i e post hdrop
    rw [← List.take_append_drop n es, hdrop] at hrun
    exact ⟨es.take n, e, post, t, hrun, hcheck⟩

namespace Guarded
variable {G H : σ → α → Prop} {es fs : List (Entry σ α ρ)}

@[simp] theorem nil : Guarded G ([] : List (Entry σ α ρ)) := by
  intro e he
  cases he

@[simp] theorem cons_iff {e : Entry σ α ρ} :
    Guarded G (e :: es) ↔ G e.before e.label ∧ Guarded G es := by
  simp [Guarded]

@[simp] theorem append_iff : Guarded G (es ++ fs) ↔ Guarded G es ∧ Guarded G fs := by
  simp only [Guarded, List.mem_append, or_imp, forall_and]

theorem mono (h : Guarded G es) (hGH : ∀ s a, G s a → H s a) : Guarded H es :=
  fun e he => hGH _ _ (h e he)

end Guarded

namespace Run
variable {step : σ → α → Option (ρ × σ)} {s t u : σ} {es fs : List (Entry σ α ρ)}

theorem append (h : Run step s es t) (h' : Run step t fs u) : Run step s (es ++ fs) u := by
  induction h with
  | nil => exact h'
  | cons hstep _ ih => exact .cons hstep (ih h')

theorem split (h : Run step s (es ++ fs) u) : ∃ t, Run step s es t ∧ Run step t fs u := by
  induction es generalizing s with
  | nil => exact ⟨s, .nil s, h⟩
  | cons e es ih =>
    cases h with
    | cons hstep hrest =>
      obtain ⟨t, hleft, hright⟩ := ih hrest
      exact ⟨t, .cons hstep hleft, hright⟩

/-- The last entry of a run that ends with a given label. -/
theorem exists_last {a : α} {as : List α} (h : Run step s es t)
    (hlabels : es.map Entry.label = as ++ [a]) :
    ∃ fs u r, es = fs ++ [⟨u, a, r, t⟩] ∧ Run step s (fs ++ [⟨u, a, r, t⟩]) t := by
  obtain ⟨fs, last, rfl, -, hlast⟩ := List.map_eq_append_iff.mp hlabels
  obtain ⟨e, rfl, hlabel⟩ := List.map_eq_singleton_iff.mp hlast
  obtain ⟨u, hleft, hright⟩ := h.split
  cases hright with
  | cons hstep hnil =>
    cases hnil
    cases hlabel
    exact ⟨fs, _, _, rfl, h⟩

theorem single {a : α} {r : ρ} (h : step s a = some (r, t)) : Run step s [⟨s, a, r, t⟩] t :=
  .cons h (.nil t)

/-- A run ends in the state after its last step. -/
theorem after_of_getLast? (h : Run step s es t) {e : Entry σ α ρ} (he : es.getLast? = some e) :
    e.after = t := by
  induction h with
  | nil => cases he
  | @cons s t u a r fs hstep hrest ih =>
    cases fs with
    | nil =>
      cases hrest
      cases he
      rfl
    | cons f fs =>
      rw [List.getLast?_cons_cons] at he
      exact ih he

/-- Each recorded entry is a step of the system. -/
theorem entry_step (h : Run step s es t) {e : Entry σ α ρ} (he : e ∈ es) :
    step e.before e.label = some (e.reply, e.after) := by
  induction h with
  | nil => cases he
  | cons hstep _ ih =>
    rcases List.mem_cons.mp he with rfl | he
    · exact hstep
    · exact ih he

variable {G : σ → α → Prop} {Inv : σ → Prop}

/-- An invariant preserved by guarded steps holds at the end of every guarded run. -/
theorem invariant
    (preserved : ∀ {s t a r}, Inv s → G s a → step s a = some (r, t) → Inv t)
    (h : Run step s es t) (hG : Guarded G es) (hs : Inv s) : Inv t := by
  induction h with
  | nil => exact hs
  | cons hstep _ ih =>
    rw [Guarded.cons_iff] at hG
    exact ih hG.2 (preserved hs hG.1 hstep)

/-- An invariant of the trace so far and the state after it. -/
theorem history {Hist : List (Entry σ α ρ) → σ → Prop}
    (preserved : ∀ {pre s t a r}, Hist pre s → step s a = some (r, t) →
      Hist (pre ++ [⟨s, a, r, t⟩]) t)
    (h : Run step s es t) {pre : List (Entry σ α ρ)} (hs : Hist pre s) : Hist (pre ++ es) t := by
  induction h generalizing pre with
  | nil => rwa [List.append_nil]
  | cons hstep _ ih =>
    rw [List.append_cons]
    exact ih (preserved hs hstep)

/-- The same invariant holds around every step of the run. -/
theorem invariant_entry
    (preserved : ∀ {s t a r}, Inv s → G s a → step s a = some (r, t) → Inv t)
    (h : Run step s es t) (hG : Guarded G es) (hs : Inv s) {e : Entry σ α ρ} (he : e ∈ es) :
    Inv e.before ∧ Inv e.after := by
  induction h with
  | nil => cases he
  | cons hstep _ ih =>
    rw [Guarded.cons_iff] at hG
    have hnext := preserved hs hG.1 hstep
    rcases List.mem_cons.mp he with rfl | he
    · exact ⟨hs, hnext⟩
    · exact ih hG.2 hnext he

/-- An invariant together with the guard makes every step of the run satisfy `P`. -/
theorem forall_entry {P : σ → α → ρ → σ → Prop}
    (preserved : ∀ {s t a r}, Inv s → G s a → step s a = some (r, t) → Inv t)
    (safe : ∀ {s t a r}, Inv s → G s a → step s a = some (r, t) → P s a r t)
    (h : Run step s es t) (hG : Guarded G es) (hs : Inv s) :
    ∀ e ∈ es, P e.before e.label e.reply e.after := by
  intro e he
  exact safe (h.invariant_entry preserved hG hs he).1 (hG e he) (h.entry_step he)

section Simulation
variable {τ : Type*} {β : Type*} {ρ' : Type*} {step' : τ → β → Option (ρ' × τ)}
  {H : τ → β → Prop} {view : σ → τ}

/-- A run seen through a view is a run of the viewed system. Steps that the view does not
show keep the guard; the others keep it exactly when the viewed steps do. -/
theorem simulate
    (preserved : ∀ {s t a r}, Inv s → step s a = some (r, t) → Inv t)
    (simulated : ∀ {s t a r}, Inv s → step s a = some (r, t) →
      view t = view s ∧ G s a ∨
        ∃ b r', step' (view s) b = some (r', view t) ∧ (G s a ↔ H (view s) b))
    (h : Run step s es t) (hs : Inv s) :
    ∃ fs, Run step' (view s) fs (view t) ∧ (Guarded G es ↔ Guarded H fs) := by
  induction h with
  | nil s => exact ⟨[], .nil _, by simp⟩
  | cons hstep _ ih =>
    obtain ⟨fs, hrun, hguard⟩ := ih (preserved hs hstep)
    rcases simulated hs hstep with ⟨hview, hkept⟩ | ⟨b, r', hmove, hkept⟩
    · rw [hview] at hrun
      refine ⟨fs, hrun, ?_⟩
      rw [Guarded.cons_iff, hguard]
      exact and_iff_right hkept
    · refine ⟨_, .cons hmove hrun, ?_⟩
      rw [Guarded.cons_iff, Guarded.cons_iff, hguard, hkept]

end Simulation

end Run

end Transition
