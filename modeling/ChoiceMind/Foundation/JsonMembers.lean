import Mathlib.Data.Option.Basic
import ChoiceMind.Foundation.Json

/-!
# Members of JSON values

What is read from the members of a value depends on its contents alone, not on the order of the
keys in its objects.
-/

namespace Json

set_option autoImplicit false

universe u v
variable {ν : Type u} {α : Type v}

def member (key : String) : Json ν → Option (Json ν)
  | .object fields => fields.lookup key
  | _ => none

def keys : Json ν → List String
  | .object fields => fields.map Prod.fst
  | _ => []

def text? : Json ν → Option String
  | .string value => some value
  | _ => none

def number? : Json ν → Option ν
  | .number value => some value
  | _ => none

def items? : Json ν → Option (List (Json ν))
  | .array items => some items
  | _ => none

def isObject : Json ν → Bool
  | .object _ => true
  | _ => false

attribute [grind =] member keys text? number? items? isObject

section Fields
variable {key : String} {j k : Json ν} {fields fields' : List (String × Json ν)}

theorem lookup_eq_some (h : (fields.map Prod.fst).Nodup) :
    fields.lookup key = some j ↔ (key, j) ∈ fields := by
  induction fields with
  | nil => simp
  | cons field fields ih =>
    obtain ⟨name, value⟩ := field
    rw [List.map_cons, List.nodup_cons] at h
    rw [List.lookup_cons, List.mem_cons]
    by_cases hname : key = name
    · subst hname
      have hnone : (key, j) ∉ fields :=
        fun hmem => h.1 (List.mem_map.mpr ⟨_, hmem, rfl⟩)
      simp [hnone, eq_comm]
    · rw [beq_false_of_ne hname, ih h.2]
      simp [hname]

theorem lookup_eq_none : fields.lookup key = none ↔ key ∉ fields.map Prod.fst := by
  induction fields with
  | nil => exact iff_of_true rfl List.not_mem_nil
  | cons field fields ih =>
    rw [List.lookup_cons, List.map_cons, List.mem_cons, not_or]
    by_cases hname : key = field.1
    · simp [hname]
    · rw [beq_false_of_ne hname, ih]
      simp [hname]

theorem sameFields_iff : SameFields fields fields' ↔
    ∀ field ∈ fields, ∃ k, (field.1, k) ∈ fields' ∧ Same field.2 k := by
  induction fields with
  | nil => simp
  | cons field fields ih =>
    rw [sameFields_cons, ih, List.forall_mem_cons]

theorem sameItems_iff {xs ys : List (Json ν)} : SameItems xs ys ↔ List.Forall₂ Same xs ys := by
  induction xs generalizing ys with
  | nil =>
    cases ys with
    | nil => simp [SameItems]
    | cons y ys => simp [SameItems]
  | cons x xs ih =>
    cases ys with
    | nil => simp [SameItems]
    | cons y ys => rw [SameItems, List.forall₂_cons, ih]

/-- Objects of the same contents have the same keys. -/
theorem keys_perm_of_same (h : Same (.object fields) (.object fields'))
    (hnodup : (fields.map Prod.fst).Nodup) :
    (fields.map Prod.fst).Perm (fields'.map Prod.fst) := by
  rw [same_object, sameFields_iff] at h
  obtain ⟨hlength, hfields⟩ := h
  have hsubset : fields.map Prod.fst ⊆ fields'.map Prod.fst := by
    intro name hname
    obtain ⟨field, hfield, rfl⟩ := List.mem_map.mp hname
    obtain ⟨k, hk, -⟩ := hfields field hfield
    exact List.mem_map.mpr ⟨_, hk, rfl⟩
  apply (List.subperm_of_subset hnodup hsubset).perm_of_length_le
  rw [List.length_map, List.length_map, hlength]

end Fields

section Distinct
variable {j : Json ν} {a : Json ν} {key : String} {xs : List (Json ν)}

theorem Distinct.member (h : Distinct j) (hmember : j.member key = some a) : Distinct a := by
  cases j with
  | object fields => exact h.2.of_mem ((lookup_eq_some h.1).mp hmember)
  | _ => cases hmember

theorem distinctItems_iff : DistinctItems xs ↔ ∀ x ∈ xs, Distinct x := by
  induction xs with
  | nil => simp [DistinctItems]
  | cons x xs ih => rw [DistinctItems, ih, List.forall_mem_cons]

theorem Distinct.items (h : Distinct j) (hitems : j.items? = some xs) : ∀ x ∈ xs, Distinct x := by
  cases j with
  | array items =>
    cases hitems
    exact distinctItems_iff.mp h
  | _ => cases hitems

end Distinct

section Same
variable {j k : Json ν} {key : String}

/-- A member is read alike from values of the same contents. -/
theorem Same.member (h : Same j k) (hj : Distinct j) (hk : Distinct k) (key : String) :
    Option.Rel Same (j.member key) (k.member key) := by
  cases j with
  | object fields =>
    cases k with
    | object fields' =>
      have hperm := keys_perm_of_same h hj.1
      rw [same_object, sameFields_iff] at h
      cases hlookup : fields.lookup key with
      | none =>
        have hnone : fields'.lookup key = none := by
          rw [lookup_eq_none, ← hperm.mem_iff, ← lookup_eq_none]
          exact hlookup
        rw [Json.member, Json.member, hlookup, hnone]
        exact .none
      | some a =>
        obtain ⟨b, hb, hsame⟩ := h.2 _ ((lookup_eq_some hj.1).mp hlookup)
        rw [Json.member, Json.member, hlookup, (lookup_eq_some hk.1).mpr hb]
        exact .some hsame
    | _ => simp [Same] at h
  | _ => cases k <;> first | exact .none | simp [Same] at h

theorem Same.bind_member {f : Json ν → Option α} (hf : ∀ {a b}, Same a b → f a = f b)
    (h : Same j k) (hj : Distinct j) (hk : Distinct k) (key : String) :
    (j.member key).bind f = (k.member key).bind f := by
  have hrel := h.member hj hk key
  generalize j.member key = a, k.member key = b at hrel
  cases hrel with
  | some hsame => exact hf hsame
  | none => rfl

theorem Same.any_member {f : Json ν → Bool} (hf : ∀ {a b}, Same a b → f a = f b)
    (h : Same j k) (hj : Distinct j) (hk : Distinct k) (key : String) :
    (j.member key).any f = (k.member key).any f := by
  have hrel := h.member hj hk key
  generalize j.member key = a, k.member key = b at hrel
  cases hrel with
  | some hsame => exact hf hsame
  | none => rfl

theorem Same.exists_member {b : Json ν} (h : Same j k) (hj : Distinct j) (hk : Distinct k)
    (hmember : k.member key = some b) : ∃ a, j.member key = some a ∧ Same a b ∧ Distinct a := by
  have hrel := h.member hj hk key
  rw [hmember] at hrel
  cases hfound : j.member key with
  | none =>
    rw [hfound] at hrel
    cases hrel
  | some a =>
    rw [hfound] at hrel
    cases hrel with
    | some hsame => exact ⟨a, rfl, hsame, hj.member hfound⟩

theorem Same.text? (h : Same j k) : j.text? = k.text? := by
  cases j <;> cases k <;> simp_all [Same, Json.text?]

theorem Same.number? (h : Same j k) : j.number? = k.number? := by
  cases j <;> cases k <;> simp_all [Same, Json.number?]

theorem Same.isSome_items? (h : Same j k) : j.items?.isSome = k.items?.isSome := by
  cases j <;> cases k <;> simp_all [Same, Json.items?]

theorem Same.isObject (h : Same j k) : j.isObject = k.isObject := by
  cases j <;> cases k <;> simp_all [Same, Json.isObject]

theorem Same.exists_items {ys : List (Json ν)} (h : Same j (.array ys)) :
    ∃ xs, j.items? = some xs ∧ List.Forall₂ Same xs ys := by
  cases j with
  | array xs => exact ⟨xs, rfl, sameItems_iff.mp (same_array.mp h)⟩
  | _ => simp [Same] at h

theorem Same.mem_keys (h : Same j k) (hj : Distinct j) : key ∈ j.keys ↔ key ∈ k.keys := by
  cases j with
  | object fields =>
    cases k with
    | object fields' => exact (keys_perm_of_same h hj.1).mem_iff
    | _ => simp [Same] at h
  | _ => cases k <;> first | exact Iff.rfl | simp [Same] at h

end Same

end Json
