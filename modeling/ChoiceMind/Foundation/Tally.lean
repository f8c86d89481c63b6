import Mathlib.Data.List.Basic

/-!
# Totals over a list whose entries change one at a time

The amounts of the entries add up to a total. Replacing an entry changes the total by the
difference of its amounts.
-/

namespace Tally

set_option autoImplicit false

universe u
variable {α : Type u} {xs : List α} {index : Nat} {a b : α}

/-- The sum of the amounts of all entries. -/
def total (amount : α → Nat) : List α → Nat
  | [] => 0
  | x :: xs => amount x + total amount xs

attribute [grind =] total

@[simp] theorem total_cons (amount : α → Nat) (x : α) (xs : List α) :
    total amount (x :: xs) = amount x + total amount xs := rfl

@[simp] theorem total_concat (amount : α → Nat) (xs : List α) (x : α) :
    total amount (xs ++ [x]) = total amount xs + amount x := by
  induction xs with
  | nil => exact Nat.add_comm (amount x) 0
  | cons y xs ih =>
    rw [List.cons_append, total_cons, total_cons, ih]
    omega

/-- The old amount and the new total are the new amount and the old total. -/
theorem total_set (amount : α → Nat) (h : xs[index]? = some a) (b : α) :
    total amount (xs.set index b) + amount a = total amount xs + amount b := by
  induction xs generalizing index with
  | nil => cases h
  | cons x xs ih =>
    cases index with
    | zero =>
      cases h
      rw [List.set_cons_zero, total_cons, total_cons]
      omega
    | succ index =>
      rw [List.getElem?_cons_succ] at h
      rw [List.set_cons_succ, total_cons, total_cons]
      have hrest := ih h
      omega

theorem total_set_same {amount : α → Nat} (h : xs[index]? = some a) (hsame : amount b = amount a) :
    total amount (xs.set index b) = total amount xs := by
  have hset := total_set amount h b
  omega

theorem total_mono {amount amount' : α → Nat} (h : ∀ x ∈ xs, amount x ≤ amount' x) :
    total amount xs ≤ total amount' xs := by
  induction xs with
  | nil => exact Nat.le_refl 0
  | cons x xs ih =>
    rw [total_cons, total_cons]
    have hhead := h x List.mem_cons_self
    have hrest := ih fun y hy => h y (List.mem_cons_of_mem x hy)
    omega

theorem total_add (amount amount' : α → Nat) (xs : List α) :
    total (fun x => amount x + amount' x) xs = total amount xs + total amount' xs := by
  induction xs with
  | nil => rfl
  | cons x xs ih =>
    rw [total_cons, total_cons, total_cons, ih]
    omega

theorem total_eq_zero {amount : α → Nat} (h : ∀ x ∈ xs, amount x = 0) : total amount xs = 0 := by
  induction xs with
  | nil => rfl
  | cons x xs ih =>
    rw [total_cons, h x List.mem_cons_self, ih fun y hy => h y (List.mem_cons_of_mem x hy)]

/-- Entries of which at most one counts, and that at most once. -/
theorem total_le_one {amount : α → Nat} (hamount : ∀ x ∈ xs, amount x ≤ 1)
    (hone : ∀ (i j : Nat) (x y : α), xs[i]? = some x → xs[j]? = some y → 0 < amount x →
      0 < amount y → i = j) :
    total amount xs ≤ 1 := by
  induction xs with
  | nil => exact Nat.zero_le 1
  | cons x xs ih =>
    rw [total_cons]
    have hhead := hamount x List.mem_cons_self
    rcases Nat.eq_zero_or_pos (amount x) with hzero | hpos
    · have hrest := ih (fun y hy => hamount y (List.mem_cons_of_mem x hy))
        fun i j y z hy hz hypos hzpos =>
          Nat.succ.inj (hone (i + 1) (j + 1) y z hy hz hypos hzpos)
      omega
    · -- the first entry counts, so no other does
      have hrest : total amount xs = 0 := by
        apply total_eq_zero
        intro y hy
        obtain ⟨j, hj⟩ := List.mem_iff_getElem?.mp hy
        by_contra hne
        have hsame := hone 0 (j + 1) x y rfl hj hpos (Nat.pos_of_ne_zero hne)
        omega
      omega

end Tally
