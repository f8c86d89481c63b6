import Mathlib.Data.List.Sort
import Mathlib.Order.Lattice

/-!
# Maps in the order of insertion

A key keeps its place when it is set again. Sorting the values of a map by their keys merges
one more value into a sorted list, and what a fold of such merges gives does not depend on the
order or the number of the deliveries.
-/

namespace OrderedMap

set_option autoImplicit false

universe u v w
variable {κ : Type u} {ε : Type v}

section Maps
variable [DecidableEq κ]

/-- The value of a key is replaced in place, or added at the end. -/
def set (k : κ) (e : ε) : List (κ × ε) → List (κ × ε)
  | [] => [(k, e)]
  | entry :: entries => if entry.1 = k then (k, e) :: entries else entry :: set k e entries

/-- A map of the entries of a list, where a later one replaces an earlier one. -/
def ofList (entries : List (κ × ε)) : List (κ × ε) :=
  entries.foldl (fun map entry => set entry.1 entry.2 map) []

variable {k : κ} {e : ε} {map entries : List (κ × ε)}

theorem set_of_notMem (h : k ∉ map.map Prod.fst) : set k e map = map ++ [(k, e)] := by
  induction map with
  | nil => rfl
  | cons entry map ih =>
    rw [List.map_cons, List.mem_cons, not_or] at h
    rw [set, if_neg (Ne.symm h.1), ih h.2, List.cons_append]

/-- Setting a key to its own value. -/
theorem set_of_mem (hnodup : (map.map Prod.fst).Nodup) (h : (k, e) ∈ map) : set k e map = map := by
  induction map with
  | nil => cases h
  | cons entry map ih =>
    rw [List.map_cons, List.nodup_cons] at hnodup
    rw [set]
    rcases List.mem_cons.mp h with rfl | hrest
    · rw [if_pos rfl]
    · have hne : entry.1 ≠ k := by
        intro heq
        exact hnodup.1 (heq ▸ List.mem_map_of_mem (f := Prod.fst) hrest)
      rw [if_neg hne, ih hnodup.2 hrest]

/-- Only the value of the key changes. -/
theorem lookup_set (key : κ) :
    (set k e map).lookup key = if key = k then some e else map.lookup key := by
  induction map with
  | nil =>
    rw [set, List.lookup_cons, List.lookup_nil]
    by_cases hkey : key = k
    · simp [hkey]
    · rw [beq_false_of_ne hkey, if_neg hkey]
  | cons entry map ih =>
    rw [set]
    by_cases hentry : entry.1 = k
    · rw [if_pos hentry, List.lookup_cons, List.lookup_cons, hentry]
      by_cases hkey : key = k
      · simp [hkey]
      · rw [beq_false_of_ne hkey, if_neg hkey]
    · rw [if_neg hentry, List.lookup_cons, List.lookup_cons, ih]
      by_cases hkey : key = k
      · have hne : key ≠ entry.1 := by
          rw [hkey]
          exact Ne.symm hentry
        rw [if_pos hkey, if_pos hkey, beq_false_of_ne hne]
      · rw [if_neg hkey, if_neg hkey]

theorem foldl_set_of_nodup (h : ((map ++ entries).map Prod.fst).Nodup) :
    entries.foldl (fun map entry => set entry.1 entry.2 map) map = map ++ entries := by
  induction entries generalizing map with
  | nil => rw [List.foldl_nil, List.append_nil]
  | cons entry entries ih =>
    have hfresh : entry.1 ∉ map.map Prod.fst := by
      rw [List.map_append, List.map_cons] at h
      exact fun hin => (List.nodup_append.mp h).2.2 _ hin _ List.mem_cons_self rfl
    rw [List.foldl_cons, set_of_notMem hfresh, ih]
    · rw [List.append_assoc, List.singleton_append]
    · rwa [List.append_assoc, List.singleton_append]

theorem ofList_of_nodup (h : (entries.map Prod.fst).Nodup) : ofList entries = entries :=
  foldl_set_of_nodup h

end Maps

/-! ### Merging into a sorted list -/

section Merge
variable {ν : Type w} [LinearOrder ν]

/-- The values of the map of a list after one more value, sorted by rank. -/
def merge [DecidableEq κ] (key : ε → κ) (rank : ε → ν) (current : List ε) (incoming : ε) : List ε :=
  ((set (key incoming) incoming (ofList (current.map fun e => (key e, e)))).map
    Prod.snd).insertionSort fun a b => rank a ≤ rank b

/-- Values with one key are equal. -/
def Agree (key : ε → κ) (es : List ε) : Prop := ∀ a ∈ es, ∀ b ∈ es, key a = key b → a = b

/-- The distinct values of a list in strictly increasing order. -/
structure Sorts (rank : ε → ν) (seen result : List ε) : Prop where
  increasing : result.Pairwise fun a b => rank a < rank b
  mem : ∀ e, e ∈ result ↔ e ∈ seen

variable {key : ε → κ} {rank : ε → ν} {seen seen' current current' es : List ε} {e : ε}

theorem Sorts.nodup (h : Sorts rank seen current) : current.Nodup :=
  h.increasing.imp fun hlt heq => (lt_irrefl _ (heq ▸ hlt)).elim

/-- What was seen determines its sorted list. -/
theorem Sorts.unique (h : Sorts rank seen current) (h' : Sorts rank seen' current')
    (hsame : ∀ e, e ∈ seen' ↔ e ∈ seen) : current' = current := by
  have hperm : current'.Perm current := by
    apply (List.perm_ext_iff_of_nodup h'.nodup h.nodup).mpr
    intro e
    rw [h'.mem, h.mem, hsame]
  apply hperm.eq_of_pairwise _ h'.increasing h.increasing
  intro a b _ _ hab hba
  exact absurd hba (lt_asymm hab)

theorem sorts_nil : Sorts rank ([] : List ε) [] := ⟨.nil, fun _ => Iff.rfl⟩

theorem keys_entries (es : List ε) : (es.map fun e => (key e, e)).map Prod.fst = es.map key := by
  rw [List.map_map]
  rfl

theorem values_entries (es : List ε) : (es.map fun e => (key e, e)).map Prod.snd = es := by
  rw [List.map_map]
  exact List.map_id es

theorem Agree.keys_nodup (hagree : Agree key seen) (h : Sorts rank seen current) :
    (current.map key).Nodup := by
  apply h.nodup.map_on
  intro a ha b hb
  exact hagree a ((h.mem a).mp ha) b ((h.mem b).mp hb)

section Steps
variable [DecidableEq κ]

/-- A value that is there already is merged without a trace. -/
theorem Sorts.merge_mem (h : Sorts rank seen current) (hagree : Agree key seen)
    (he : e ∈ current) : merge key rank current e = current := by
  have hkeys := hagree.keys_nodup h
  unfold merge
  rw [ofList_of_nodup (by rwa [keys_entries]),
    set_of_mem (by rwa [keys_entries]) (List.mem_map_of_mem (f := fun e => (key e, e)) he),
    values_entries]
  exact List.Pairwise.insertionSort_eq (h.increasing.imp le_of_lt)

theorem merge_of_fresh (hkeys : (current.map key).Nodup) (hfresh : key e ∉ current.map key) :
    OrderedMap.merge key rank current e =
      (current ++ [e]).insertionSort fun a b => rank a ≤ rank b := by
  unfold OrderedMap.merge
  rw [ofList_of_nodup (by rwa [keys_entries]), set_of_notMem (by rwa [keys_entries]),
    List.map_append, values_entries]
  rfl

/-- Merging keeps the list sorted. -/
theorem Sorts.merge (hrank : ∀ a ∈ e :: seen, ∀ b ∈ e :: seen, rank a = rank b → key a = key b)
    (hagree : Agree key (e :: seen)) (h : Sorts rank seen current) :
    Sorts rank (e :: seen) (OrderedMap.merge key rank current e) := by
  have hold : Agree key seen := fun a ha b hb =>
    hagree a (List.mem_cons_of_mem e ha) b (List.mem_cons_of_mem e hb)
  by_cases he : e ∈ current
  · rw [h.merge_mem hold he]
    refine ⟨h.increasing, fun a => ?_⟩
    rw [h.mem, List.mem_cons]
    constructor
    · exact .inr
    · rintro (rfl | ha)
      · exact (h.mem a).mp he
      · exact ha
  · have hkeys := hold.keys_nodup h
    have hfresh : key e ∉ current.map key := by
      intro hin
      obtain ⟨a, ha, hkey⟩ := List.mem_map.mp hin
      have heq := hagree a (List.mem_cons_of_mem e ((h.mem a).mp ha)) e List.mem_cons_self hkey
      exact he (heq ▸ ha)
    have hmerge : OrderedMap.merge key rank current e =
        (current ++ [e]).insertionSort fun a b => rank a ≤ rank b := merge_of_fresh hkeys hfresh
    have hmem : ∀ a, a ∈ OrderedMap.merge key rank current e ↔ a ∈ e :: seen := by
      intro a
      rw [hmerge, List.mem_insertionSort, List.mem_append, List.mem_singleton, h.mem,
        List.mem_cons, or_comm]
    refine ⟨?_, hmem⟩
    have hsorted : (OrderedMap.merge key rank current e).Pairwise fun a b => rank a ≤ rank b := by
      rw [hmerge]
      exact List.pairwise_insertionSort _ _
    have hnodup : (OrderedMap.merge key rank current e).Nodup := by
      rw [hmerge]
      apply (List.perm_insertionSort _ _).nodup_iff.mpr
      exact List.nodup_append.mpr ⟨h.nodup, List.nodup_singleton e, fun a ha b hb hab =>
        he (List.mem_singleton.mp hb ▸ hab ▸ ha)⟩
    refine (hsorted.and hnodup).imp_of_mem fun {a b} ha hb hab => ?_
    refine lt_of_le_of_ne hab.1 fun heq => hab.2 ?_
    exact hagree a ((hmem a).mp ha) b ((hmem b).mp hb)
      (hrank a ((hmem a).mp ha) b ((hmem b).mp hb) heq)

/-- A fold of merges sorts what was delivered. -/
theorem Sorts.foldl_merge
    (hrank : ∀ a ∈ es ++ seen, ∀ b ∈ es ++ seen, rank a = rank b → key a = key b)
    (hagree : Agree key (es ++ seen)) (h : Sorts rank seen current) :
    Sorts rank (es ++ seen) (es.foldl (OrderedMap.merge key rank) current) := by
  induction es generalizing seen current with
  | nil => exact h
  | cons e es ih =>
    have hmoved : ∀ a, a ∈ es ++ e :: seen ↔ a ∈ e :: es ++ seen := by
      intro a
      exact List.perm_middle.mem_iff
    have hstep : Sorts rank (e :: seen) (OrderedMap.merge key rank current e) := by
      have hin : ∀ a ∈ e :: seen, a ∈ e :: es ++ seen := fun a ha =>
        (hmoved a).mp (List.mem_append_right es ha)
      exact h.merge (fun a ha b hb => hrank a (hin a ha) b (hin b hb))
        fun a ha b hb => hagree a (hin a ha) b (hin b hb)
    have hrest := ih
      (fun a ha b hb => hrank a ((hmoved a).mp ha) b ((hmoved b).mp hb))
      (fun a ha b hb => hagree a ((hmoved a).mp ha) b ((hmoved b).mp hb)) hstep
    exact ⟨hrest.increasing, fun a => (hrest.mem a).trans (hmoved a)⟩

end Steps

end Merge

end OrderedMap
