import Mathlib.Data.List.Basic

/-!
# Attempts under a lock

A counter of failed attempts that sets a lock from a limit on. The lock expires, the counter does
not: every failure after the limit sets the lock anew.
-/

namespace Throttle

set_option autoImplicit false

structure State where
  failures : Nat
  lockedUntil : Option Int
  deriving DecidableEq

/-- No attempt has failed. -/
def State.initial : State := ⟨0, none⟩

def State.locks (s : State) (now : Int) : Bool :=
  s.lockedUntil.any fun lockedUntil => now < lockedUntil

section Attempts
variable (limit : Nat) (lifetime : Int)

def State.fail (s : State) (now : Int) : State where
  failures := s.failures + 1
  lockedUntil := if limit ≤ s.failures + 1 then some (now + lifetime) else none

/-- A failing attempt: a lock leaves everything as it is. -/
def State.attempt (s : State) (now : Int) : State :=
  if s.locks now then s else s.fail limit lifetime now

/-- The times of the failing attempts that no lock stops. -/
def admitted : State → List Int → List Int
  | _, [] => []
  | s, now :: times =>
    if s.locks now then admitted s times else now :: admitted (s.fail limit lifetime now) times

/-- The number of times in the window of one lifetime from `start` on. -/
def inWindow (start : Int) (times : List Int) : Nat :=
  times.countP fun time => start ≤ time && time < start + lifetime

end Attempts

section Bound
variable {limit : Nat} {lifetime : Int} {s : State} {start now : Int} {times : List Int}

theorem mem_admitted {time : Int} (h : time ∈ admitted limit lifetime s times) : time ∈ times := by
  induction times generalizing s with
  | nil => exact h
  | cons now times ih =>
    unfold admitted at h
    split at h
    · exact List.mem_cons_of_mem now (ih h)
    · rcases List.mem_cons.mp h with rfl | h
      · exact List.mem_cons_self
      · exact List.mem_cons_of_mem now (ih h)

theorem inWindow_cons : inWindow lifetime start (now :: times) =
    inWindow lifetime start times + if start ≤ now ∧ now < start + lifetime then 1 else 0 := by
  unfold inWindow
  rw [List.countP_cons]
  simp only [Bool.and_eq_true, decide_eq_true_eq]

theorem inWindow_eq_zero (h : ∀ time ∈ times, start + lifetime ≤ time) :
    inWindow lifetime start times = 0 := by
  apply List.countP_eq_zero.mpr
  intro time htime
  have hlate := h time htime
  simp only [Bool.and_eq_true, decide_eq_true_eq]
  omega

/-- A lock that lasts to the end of a window leaves no attempt in it. -/
theorem inWindow_locked {deadline : Int} (hlock : s.lockedUntil = some deadline)
    (hdeadline : start + lifetime ≤ deadline) (hordered : times.Pairwise (· ≤ ·)) :
    inWindow lifetime start (admitted limit lifetime s times) = 0 := by
  induction times with
  | nil => rfl
  | cons now times ih =>
    rw [List.pairwise_cons] at hordered
    unfold admitted
    by_cases hnow : s.locks now = true
    · rw [if_pos hnow]
      exact ih hordered.2
    · rw [if_neg hnow]
      have hlate : deadline ≤ now := by
        unfold State.locks at hnow
        rw [hlock, Option.any_some, decide_eq_true_eq] at hnow
        omega
      apply inWindow_eq_zero
      intro time htime
      rcases List.mem_cons.mp htime with rfl | htime
      · omega
      · have hlater := hordered.1 time (mem_admitted htime)
        omega

/-- In a window there are as many attempts as are left up to the limit, and one after it. -/
theorem inWindow_admitted_le (hordered : times.Pairwise (· ≤ ·)) :
    inWindow lifetime start (admitted limit lifetime s times) ≤ max (limit - s.failures) 1 := by
  induction times generalizing s with
  | nil => exact Nat.zero_le _
  | cons now times ih =>
    rw [List.pairwise_cons] at hordered
    unfold admitted
    by_cases hnow : s.locks now = true
    · rw [if_pos hnow]
      exact ih hordered.2
    · rw [if_neg hnow, inWindow_cons]
      have hrest := @ih (s.fail limit lifetime now) hordered.2
      have hfailures : (s.fail limit lifetime now).failures = s.failures + 1 := rfl
      rw [hfailures] at hrest
      by_cases hin : start ≤ now ∧ now < start + lifetime
      · rw [if_pos hin]
        by_cases hlimit : limit ≤ s.failures + 1
        · -- the lock that this failure sets outlasts the window
          have hlock : (s.fail limit lifetime now).lockedUntil = some (now + lifetime) :=
            if_pos hlimit
          rw [inWindow_locked hlock (by omega) hordered.2]
          omega
        · omega
      · rw [if_neg hin]
        omega

/-- No window of one lifetime has more failing attempts than the limit. -/
theorem inWindow_le_limit (hlimit : 0 < limit) (hordered : times.Pairwise (· ≤ ·)) :
    inWindow lifetime start (admitted limit lifetime s times) ≤ limit := by
  have hbound := @inWindow_admitted_le limit lifetime s start times hordered
  omega

end Bound

end Throttle
