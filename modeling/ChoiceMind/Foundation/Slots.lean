import Mathlib.Data.List.Basic

/-!
# Numbered entries

Entries are appended to a list and replaced one at a time, and each keeps its number.
-/

namespace Slots

set_option autoImplicit false

universe u v
variable {α : Type u} {β : Type v} {xs : List α} {i j : Nat} {a b : α}

theorem get_set (h : (xs.set i b)[j]? = some a) : j = i ∧ a = b ∨ j ≠ i ∧ xs[j]? = some a := by
  rw [List.getElem?_set] at h
  split at h
  · rename_i hsame
    split at h
    · cases h
      exact .inl ⟨hsame.symm, rfl⟩
    · cases h
  · rename_i hne
    exact .inr ⟨fun hsame => hne hsame.symm, h⟩

theorem get_set_self (h : xs[i]? = some a) (b : α) : (xs.set i b)[i]? = some b := by
  rw [List.getElem?_set_self (List.getElem?_eq_some_iff.mp h).1]

theorem get_set_ne (hne : j ≠ i) (h : xs[j]? = some a) (b : α) : (xs.set i b)[j]? = some a := by
  rw [List.getElem?_set_ne (Ne.symm hne), h]

theorem get_concat (h : (xs ++ [b])[j]? = some a) : j = xs.length ∧ a = b ∨ xs[j]? = some a := by
  by_cases hlt : j < xs.length
  · rw [List.getElem?_append_left hlt] at h
    exact .inr h
  · have hle : xs.length ≤ j := Nat.le_of_not_lt hlt
    rw [List.getElem?_append_right hle] at h
    have hzero : j - xs.length = 0 := by
      by_contra hpos
      obtain ⟨n, hn⟩ := Nat.exists_eq_succ_of_ne_zero hpos
      rw [hn] at h
      cases h
    rw [hzero] at h
    cases h
    exact .inl ⟨by omega, rfl⟩

theorem get_concat_old (h : xs[j]? = some a) (b : α) : (xs ++ [b])[j]? = some a := by
  rw [List.getElem?_append_left (List.getElem?_eq_some_iff.mp h).1, h]

theorem get_concat_new (xs : List α) (b : α) : (xs ++ [b])[xs.length]? = some b :=
  List.getElem?_concat_length

/-- A field that replacing an entry keeps. -/
theorem get_set_kept {field : α → β} {x : α} (h : xs[i]? = some a) (hb : field b = field a)
    (hx : xs[j]? = some x) : ∃ y, (xs.set i b)[j]? = some y ∧ field y = field x := by
  by_cases hsame : j = i
  · rw [hsame, h] at hx
    cases hx
    rw [hsame]
    exact ⟨b, get_set_self h b, hb⟩
  · exact ⟨x, get_set_ne hsame hx b, rfl⟩

theorem get_concat_kept {field : α → β} {x : α} (b : α) (hx : xs[j]? = some x) :
    ∃ y, (xs ++ [b])[j]? = some y ∧ field y = field x :=
  ⟨x, get_concat_old hx b, rfl⟩

theorem mem_of_get (h : xs[j]? = some a) : a ∈ xs := List.mem_of_getElem? h

/-- What holds of all entries and of the new one. -/
theorem forall_set {P : α → Prop} (h : ∀ x ∈ xs, P x) (hb : P b) : ∀ x ∈ xs.set i b, P x := by
  intro x hx
  rcases List.mem_or_eq_of_mem_set hx with hold | rfl
  · exact h x hold
  · exact hb

theorem forall_concat {P : α → Prop} (h : ∀ x ∈ xs, P x) (hb : P b) : ∀ x ∈ xs ++ [b], P x := by
  intro x hx
  rcases List.mem_append.mp hx with hold | hnew
  · exact h x hold
  · rw [List.mem_singleton.mp hnew]
    exact hb

/-- A replaced entry stands in for the old one. -/
theorem exists_set {P : α → Prop} (h : ∃ x ∈ xs, P x) (hget : xs[i]? = some a)
    (hb : P a → P b) : ∃ x ∈ xs.set i b, P x := by
  obtain ⟨x, hx, hP⟩ := h
  obtain ⟨j, hj⟩ := List.mem_iff_getElem?.mp hx
  by_cases hsame : j = i
  · rw [hsame, hget] at hj
    cases hj
    exact ⟨b, mem_of_get (get_set_self hget b), hb hP⟩
  · exact ⟨x, mem_of_get (get_set_ne hsame hj b), hP⟩

theorem exists_concat {P : α → Prop} (h : ∃ x ∈ xs, P x) (b : α) : ∃ x ∈ xs ++ [b], P x := by
  obtain ⟨x, hx, hP⟩ := h
  exact ⟨x, List.mem_append_left _ hx, hP⟩

end Slots
