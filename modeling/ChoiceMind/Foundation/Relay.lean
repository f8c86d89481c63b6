import ChoiceMind.Foundation.Feed

/-!
# Following a log over a line that breaks

What a follower has asked for is on its way for a while, and what is on its way when the line
breaks is lost. The follower then goes on from the greatest key of what has arrived.
-/

namespace Feed

set_option autoImplicit false

universe u v
variable {ε : Type u} {κ : Type v} [LinearOrder κ] {key : ε → κ} {s : State ε}
  {held rest : List ε} {e : ε}

/-- The follower after the loss of what was on its way. -/
def State.cut (s : State ε) (held : List ε) : State ε := { s with received := held }

theorem Follows.cut (h : Follows key s) (hreceived : s.received = held ++ rest) :
    Follows key (s.cut held) where
  distinct := h.distinct
  increasing := by
    have hincreasing := h.increasing
    rw [hreceived, List.pairwise_append] at hincreasing
    exact hincreasing.1
  received := fun e he => h.received e (hreceived ▸ List.mem_append_left rest he)

/-- Nothing before what has arrived is lost. -/
theorem UpToDate.cut (h : UpToDate key s) (hfollows : Follows key s)
    (hreceived : s.received = held ++ rest) : UpToDate key (s.cut held) := by
  intro e he hpassed
  obtain ⟨last, hlast, hle⟩ := hpassed
  have hlastReceived : last ∈ s.received := hreceived ▸ List.mem_append_left rest hlast
  have hmem : e ∈ s.received := h e he ⟨last, hlastReceived, hle⟩
  have hincreasing := hfollows.increasing
  rw [hreceived, List.pairwise_append] at hincreasing
  rw [hreceived] at hmem
  rcases List.mem_append.mp hmem with harrived | hlost
  · exact harrived
  · -- what was on its way comes after all that has arrived
    exact absurd hle (not_le_of_gt (hincreasing.2.2 last hlast e hlost))

/-- Entries that come ahead of the follower. -/
theorem Follows.append {entries : List ε} (h : Follows key s)
    (hdistinct : ((s.log ++ entries).map key).Nodup) : Follows key (s.append entries) :=
  ⟨hdistinct, h.increasing, fun e he => List.mem_append_left entries (h.received e he)⟩

theorem UpToDate.append {entries : List ε} (h : UpToDate key s)
    (hahead : ∀ e ∈ entries, ¬ Passed key s e) : UpToDate key (s.append entries) := by
  intro e he hpassed
  rcases List.mem_append.mp he with hold | hnew
  · exact h e hold hpassed
  · exact absurd hpassed (hahead e hnew)

theorem lastKey_concat (hgreater : ∀ x ∈ held, key x < key e) :
    lastKey key (held ++ [e]) = some (key e) := by
  have hchoice : Std.MaxEqOr κ := ⟨max_choice⟩
  unfold lastKey
  rw [List.max?_eq_some_iff]
  constructor
  · exact List.mem_map_of_mem (List.mem_append_right held List.mem_cons_self)
  · intro k hk
    obtain ⟨x, hx, rfl⟩ := List.mem_map.mp hk
    rcases List.mem_append.mp hx with hold | hlast
    · exact le_of_lt (hgreater x hold)
    · rw [List.mem_singleton.mp hlast]

theorem exists_of_lastKey {k : κ} (h : lastKey key held = some k) : ∃ x ∈ held, key x = k := by
  have hchoice : Std.MaxEqOr κ := ⟨max_choice⟩
  unfold lastKey at h
  exact List.mem_map.mp (List.max?_mem h)

/-- A follower that has everything up to its greatest key, and nothing beyond it, has the log. -/
theorem UpToDate.exact (h : UpToDate key s) (hfollows : Follows key s)
    (hall : ∀ e ∈ s.log, Passed key s e) : Exact key s :=
  ⟨hfollows.increasing, fun e => ⟨hfollows.received e, fun he => h e he (hall e he)⟩⟩

/-- A poll passes every entry of the log. -/
theorem passed_poll (he : e ∈ s.log) : Passed key (s.poll key) e := by
  by_cases hpassed : Passed key s e
  · exact hpassed.poll
  · exact ⟨e, mem_received_poll.mpr (.inr ⟨he, hpassed⟩), le_refl _⟩

end Feed
