import Mathlib.Data.List.Nodup

/-!
# Stable sorting by a preorder

A stable sort keeps tied elements in the order of its input, so that its result depends on this
order exactly when two distinct elements tie.
-/

namespace StableSort

set_option autoImplicit false

universe u
variable {α : Type u} {le : α → α → Bool} {l l' : List α} {a b : α}

/-- The comparison is transitive and total; distinct elements may tie. -/
structure IsPreorder (le : α → α → Bool) : Prop where
  trans : ∀ a b c, le a b = true → le b c = true → le a c = true
  total : ∀ a b, (le a b || le b a) = true

/-- No two elements of the list tie. -/
def TieFree (le : α → α → Bool) (l : List α) : Prop :=
  ∀ a ∈ l, ∀ b ∈ l, le a b = true → le b a = true → a = b

theorem pair_sublist_or (ha : a ∈ l) (hb : b ∈ l) (hne : a ≠ b) :
    [a, b].Sublist l ∨ [b, a].Sublist l := by
  induction l with
  | nil => cases ha
  | cons c l ih =>
    rw [List.mem_cons] at ha hb
    rcases ha with rfl | ha
    · rcases hb with rfl | hb
      · exact absurd rfl hne
      · exact Or.inl ((List.singleton_sublist.mpr hb).cons_cons a)
    · rcases hb with rfl | hb
      · exact Or.inr ((List.singleton_sublist.mpr ha).cons_cons b)
      · rcases ih ha hb with h | h
        · exact Or.inl (h.cons c)
        · exact Or.inr (h.cons c)

theorem not_pair_sublist (hnodup : l.Nodup) (h : [a, b].Sublist l) : ¬ [b, a].Sublist l := by
  intro h'
  induction l with
  | nil => cases h
  | cons c l ih =>
    rw [List.nodup_cons] at hnodup
    cases h with
    | cons _ h =>
      cases h' with
      | cons _ h' => exact ih hnodup.2 h h'
      | cons_cons _ h' => exact hnodup.1 (h.subset (List.mem_cons_of_mem a List.mem_cons_self))
    | cons_cons _ h =>
      cases h' with
      | cons _ h' => exact hnodup.1 (h'.subset (List.mem_cons_of_mem b List.mem_cons_self))
      | cons_cons _ h' => exact hnodup.1 (h.subset List.mem_cons_self)

section Sorting
variable (hle : IsPreorder le)
include hle

/-- Without ties the result does not depend on the order of the input. -/
theorem mergeSort_eq_of_perm (hfree : TieFree le l) (hperm : l'.Perm l) :
    l'.mergeSort le = l.mergeSort le := by
  have hsorted := List.pairwise_mergeSort hle.trans hle.total l
  have hsorted' := List.pairwise_mergeSort hle.trans hle.total l'
  refine List.Perm.eq_of_pairwise ?_ hsorted' hsorted ?_
  · intro a b ha hb hab hba
    rw [List.mem_mergeSort] at ha hb
    exact hfree a (hperm.mem_iff.mp ha) b hb hab hba
  · exact (List.mergeSort_perm l' le).trans (hperm.trans (List.mergeSort_perm l le).symm)

/-- Tied elements keep the order of the input, also when it is reversed. -/
theorem mergeSort_reverse_ne (hnodup : l.Nodup) (ha : a ∈ l) (hb : b ∈ l) (hab : le a b = true)
    (hba : le b a = true) (hne : a ≠ b) : l.reverse.mergeSort le ≠ l.mergeSort le := by
  have hkept : ∀ a b, le a b = true → le b a = true → [a, b].Sublist l →
      l.reverse.mergeSort le ≠ l.mergeSort le := by
    intro a b hab hba hpair hsame
    have hfirst := List.pair_sublist_mergeSort hle.trans hle.total hab hpair
    have hsecond := List.pair_sublist_mergeSort hle.trans hle.total hba hpair.reverse
    rw [hsame] at hsecond
    have hsorted := (List.mergeSort_perm l le).nodup_iff.mpr hnodup
    exact not_pair_sublist hsorted hfirst hsecond
  rcases pair_sublist_or ha hb hne with hpair | hpair
  · exact hkept a b hab hba hpair
  · exact hkept b a hba hab hpair

/-- The result is the same for every order of the input exactly when no two elements tie. -/
theorem tieFree_iff (hnodup : l.Nodup) :
    TieFree le l ↔ ∀ l' : List α, l'.Perm l → l'.mergeSort le = l.mergeSort le := by
  constructor
  · intro hfree l' hperm
    exact mergeSort_eq_of_perm hle hfree hperm
  · intro hsame a ha b hb hab hba
    by_contra hne
    exact mergeSort_reverse_ne hle hnodup ha hb hab hba hne (hsame _ l.reverse_perm)

end Sorting

end StableSort
