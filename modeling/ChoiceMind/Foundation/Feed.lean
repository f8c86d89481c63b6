import Mathlib.Data.List.Sort
import Mathlib.Order.MinMax
import ChoiceMind.Foundation.Transition

/-!
# Following a log by its greatest key

A follower asks again and again for the entries above the greatest key it holds. The log
may also grow by entries below that key; the follower never sees those.
-/

namespace Feed

set_option autoImplicit false

open Transition

universe u v
variable {ε : Type u} {κ : Type v}

/-- The log, and what the follower holds of it. -/
structure State (ε : Type u) where
  log : List ε
  received : List ε

inductive Move (ε : Type u)
  | append (entries : List ε)
  | poll

def State.append (s : State ε) (entries : List ε) : State ε :=
  { s with log := s.log ++ entries }

variable [LinearOrder κ]

/-- The entries after a key, in the order of their keys. -/
def page (key : ε → κ) (last : Option κ) (log : List ε) : List ε :=
  (log.filter fun e => last.all fun k => k < key e).insertionSort fun a b => key a ≤ key b

/-- The greatest key of a list. -/
def lastKey (key : ε → κ) (received : List ε) : Option κ := (received.map key).max?

def State.poll (key : ε → κ) (s : State ε) : State ε :=
  { s with received := s.received ++ page key (lastKey key s.received) s.log }

/-- One move; the keys of a log stay different. -/
def move (key : ε → κ) (s : State ε) : Move ε → Option (Unit × State ε)
  | .append entries =>
    if ((s.log ++ entries).map key).Nodup then some ((), s.append entries) else none
  | .poll => some ((), s.poll key)

/-- The follower holds an entry with this key or a greater one. -/
def Passed (key : ε → κ) (s : State ε) (e : ε) : Prop := ∃ held ∈ s.received, key e ≤ key held

/-- New entries come above everything that the follower holds. -/
def Ahead (key : ε → κ) (s : State ε) : Move ε → Prop
  | .append entries => ∀ e ∈ entries, ¬ Passed key s e
  | .poll => True

/-- What the follower holds is part of the log, each entry once and in key order. -/
structure Follows (key : ε → κ) (s : State ε) : Prop where
  distinct : (s.log.map key).Nodup
  increasing : s.received.Pairwise fun a b => key a < key b
  received : ∀ e ∈ s.received, e ∈ s.log

/-- The follower has skipped no entry. -/
def UpToDate (key : ε → κ) (s : State ε) : Prop := ∀ e ∈ s.log, Passed key s e → e ∈ s.received

/-- The follower holds exactly the log, each entry once and in key order. -/
def Exact (key : ε → κ) (s : State ε) : Prop :=
  s.received.Pairwise (fun a b => key a < key b) ∧ ∀ e, e ∈ s.received ↔ e ∈ s.log

section Poll
variable {key : ε → κ} {s : State ε} {e : ε}

theorem all_lastKey_iff :
    ((lastKey key s.received).all fun k => k < key e) = true ↔ ¬ Passed key s e := by
  unfold lastKey Passed
  cases hmax : (s.received.map key).max? with
  | none =>
    rw [List.max?_eq_none_iff, List.map_eq_nil_iff] at hmax
    simp [hmax]
  | some k =>
    have hchoice : Std.MaxEqOr κ := ⟨max_choice⟩
    obtain ⟨held, hheld, rfl⟩ := List.mem_map.mp (List.max?_mem hmax)
    have hgreatest : ∀ other ∈ s.received, key other ≤ key held := fun other hother =>
      (List.max?_le_iff hmax).mp (le_refl _) _ (List.mem_map_of_mem hother)
    simp only [Option.all_some, decide_eq_true_eq]
    constructor
    · rintro hlt ⟨other, hother, hle⟩
      exact absurd (hgreatest other hother) (not_le_of_gt (lt_of_lt_of_le hlt hle))
    · intro hnot
      exact not_le.mp fun hle => hnot ⟨held, hheld, hle⟩

theorem mem_page : e ∈ page key (lastKey key s.received) s.log ↔ e ∈ s.log ∧ ¬ Passed key s e := by
  unfold page
  rw [List.mem_insertionSort, List.mem_filter, all_lastKey_iff]

theorem mem_received_poll :
    e ∈ (s.poll key).received ↔ e ∈ s.received ∨ e ∈ s.log ∧ ¬ Passed key s e := by
  unfold State.poll
  rw [List.mem_append, mem_page]

theorem Passed.poll (h : Passed key s e) : Passed key (s.poll key) e := by
  obtain ⟨held, hheld, hle⟩ := h
  exact ⟨held, mem_received_poll.mpr (.inl hheld), hle⟩

/-- A page has increasing keys when the log has different ones. -/
theorem page_increasing {last : Option κ} {log : List ε} (h : (log.map key).Nodup) :
    (page key last log).Pairwise fun a b => key a < key b := by
  have hsorted : (page key last log).Pairwise fun a b => key a ≤ key b :=
    List.pairwise_insertionSort _ _
  have hdistinct : ((page key last log).map key).Nodup := by
    have hperm : (page key last log).Perm (log.filter fun e => last.all fun k => k < key e) :=
      List.perm_insertionSort _ _
    exact (hperm.map key).nodup_iff.mpr (h.sublist (List.filter_sublist.map key))
  rw [List.nodup_iff_pairwise_ne, List.pairwise_map] at hdistinct
  exact (hsorted.and hdistinct).imp fun h => lt_of_le_of_ne h.1 h.2

theorem Follows.poll (h : Follows key s) : Follows key (s.poll key) := by
  refine ⟨h.distinct, ?_, ?_⟩
  · refine List.pairwise_append.mpr ⟨h.increasing, page_increasing h.distinct, ?_⟩
    intro held hheld e he
    exact not_le.mp fun hle => (mem_page.mp he).2 ⟨held, hheld, hle⟩
  · intro e he
    rcases mem_received_poll.mp he with hheld | hnew
    · exact h.received e hheld
    · exact hnew.1

theorem UpToDate.poll (h : UpToDate key s) : UpToDate key (s.poll key) := by
  intro e he _
  by_cases hpassed : Passed key s e
  · exact mem_received_poll.mpr (.inl (h e he hpassed))
  · exact mem_received_poll.mpr (.inr ⟨he, hpassed⟩)

/-- After a poll, being up to date is holding the whole log. -/
theorem Follows.upToDate_poll_iff (h : Follows key s) :
    UpToDate key (s.poll key) ↔ Exact key (s.poll key) := by
  constructor
  · intro hupToDate
    refine ⟨h.poll.increasing, fun e => ⟨h.poll.received e, fun he => ?_⟩⟩
    by_cases hpassed : Passed key s e
    · exact hupToDate e he hpassed.poll
    · exact mem_received_poll.mpr (.inr ⟨he, hpassed⟩)
  · intro hexact e he _
    exact (hexact.2 e).mpr he

end Poll

section Moves
variable {key : ε → κ} {s t : State ε} {m : Move ε} {r : Unit}

theorem move_append {entries : List ε} (h : ((s.log ++ entries).map key).Nodup) :
    move key s (.append entries) = some ((), s.append entries) := if_pos h

theorem move_cases (h : move key s m = some (r, t)) :
    (∃ entries, m = .append entries ∧ ((s.log ++ entries).map key).Nodup ∧
      t = s.append entries) ∨ m = .poll ∧ t = s.poll key := by
  cases m with
  | append entries =>
    simp only [move] at h
    split at h
    · rename_i hdistinct
      cases h
      exact .inl ⟨entries, rfl, hdistinct, rfl⟩
    · cases h
  | poll =>
    cases h
    exact .inr ⟨rfl, rfl⟩

theorem Follows.move (h : Follows key s) (hmove : Feed.move key s m = some (r, t)) :
    Follows key t := by
  rcases move_cases hmove with ⟨entries, rfl, hdistinct, rfl⟩ | ⟨rfl, rfl⟩
  · exact ⟨hdistinct, h.increasing, fun e he => List.mem_append_left _ (h.received e he)⟩
  · exact h.poll

/-- Moves ahead of the follower leave it up to date. -/
theorem UpToDate.move (h : UpToDate key s) (hmove : Feed.move key s m = some (r, t))
    (hahead : Ahead key s m) : UpToDate key t := by
  rcases move_cases hmove with ⟨entries, rfl, -, rfl⟩ | ⟨rfl, rfl⟩
  · intro e he hpassed
    rcases List.mem_append.mp he with hold | hnew
    · exact h e hold hpassed
    · exact absurd hpassed (hahead e hnew)
  · exact h.poll

/-- A skipped entry stays skipped. -/
theorem upToDate_of_move (hmove : Feed.move key s m = some (r, t)) (h : UpToDate key t) :
    UpToDate key s := by
  rcases move_cases hmove with ⟨entries, rfl, -, rfl⟩ | ⟨rfl, rfl⟩
  · intro e he hpassed
    exact h e (List.mem_append_left _ he) hpassed
  · intro e he hpassed
    rcases mem_received_poll.mp (h e he hpassed.poll) with hheld | ⟨-, hnot⟩
    · exact hheld
    · exact absurd hpassed hnot

/-- Entries behind the follower are skipped. -/
theorem Follows.ahead_of_move (hs : Follows key s) (hmove : Feed.move key s m = some (r, t))
    (h : UpToDate key t) : Ahead key s m := by
  rcases move_cases hmove with ⟨entries, rfl, hdistinct, rfl⟩ | ⟨rfl, rfl⟩
  · intro e he hpassed
    have hheld : e ∈ s.received := h e (List.mem_append_right _ he) hpassed
    rw [List.map_append] at hdistinct
    exact List.disjoint_of_nodup_append hdistinct
      (List.mem_map_of_mem (hs.received e hheld)) (List.mem_map_of_mem he)
  · trivial

/-- A follower that starts with nothing skipped has skipped nothing at the end of a run
exactly when all entries of the run came in ahead of it. -/
theorem Follows.upToDate_iff_of_run (hs : Follows key s) (hup : UpToDate key s)
    {ms : List (Entry (State ε) (Move ε) Unit)} (h : Run (Feed.move key) s ms t) :
    UpToDate key t ↔ Guarded (Ahead key) ms := by
  -- forwards the run shows skipped entries to its end, backwards each move skips none
  constructor
  · intro hend
    have hback : UpToDate key s ∧ Guarded (Ahead key) ms := by
      clear hup
      induction h with
      | nil s => exact ⟨hend, .nil⟩
      | cons hmove _ ih =>
        obtain ⟨hnext, hguard⟩ := ih (hs.move hmove) hend
        exact ⟨upToDate_of_move hmove hnext,
          Guarded.cons_iff.mpr ⟨hs.ahead_of_move hmove hnext, hguard⟩⟩
    exact hback.2
  · intro hguard
    exact h.invariant (fun hinv hahead hmove => hinv.move hmove hahead) hguard hup

theorem follows_nil (key : ε → κ) : Follows key (⟨[], []⟩ : State ε) :=
  ⟨.nil, .nil, nofun⟩

theorem upToDate_nil (key : ε → κ) : UpToDate key (⟨[], []⟩ : State ε) := nofun

theorem Follows.of_run (hs : Follows key s) {ms : List (Entry (State ε) (Move ε) Unit)}
    (h : Run (Feed.move key) s ms t) : Follows key t := by
  induction h with
  | nil => exact hs
  | cons hmove _ ih => exact ih (hs.move hmove)

/-- After a last poll the follower holds exactly the log when, and only when, all entries
came in ahead of it. -/
theorem exact_iff_of_run {ms : List (Entry (State ε) (Move ε) Unit)}
    (h : Run (Feed.move key) ⟨[], []⟩ ms t) :
    Exact key (t.poll key) ↔ Guarded (Ahead key) ms := by
  have hfollows : Follows key t := (follows_nil key).of_run h
  rw [← hfollows.upToDate_poll_iff, ← (follows_nil key).upToDate_iff_of_run (upToDate_nil key) h]
  have hpoll : Feed.move key t .poll = some ((), t.poll key) := rfl
  exact ⟨upToDate_of_move hpoll, UpToDate.poll⟩

end Moves

end Feed
