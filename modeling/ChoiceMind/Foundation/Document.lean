import Mathlib.Data.List.Perm.Subperm
import Mathlib.Data.List.Sort

/-!
# Documents and their texts

A document has leaves, lists and records with keys. A layout writes documents as texts over
an alphabet; an unambiguous one writes different documents differently, and with the fields
of all records sorted it writes two documents alike exactly when they differ in the order of
fields only.
-/

set_option autoImplicit false

universe u v w

inductive Document (κ : Type u) (α : Type v) where
  | leaf (value : α)
  | array (items : List (Document κ α))
  | object (fields : List (κ × Document κ α))

namespace Document

variable {κ : Type u} {α : Type v} {τ : Type w}

mutual

/-- No record has a key twice. -/
def Distinct : Document κ α → Prop
  | .leaf _ => True
  | .array items => DistinctItems items
  | .object fields => (fields.map Prod.fst).Nodup ∧ DistinctFields fields

def DistinctItems : List (Document κ α) → Prop
  | [] => True
  | j :: items => Distinct j ∧ DistinctItems items

def DistinctFields : List (κ × Document κ α) → Prop
  | [] => True
  | (_, j) :: fields => Distinct j ∧ DistinctFields fields

end

mutual

/-- Equality up to the order of fields. -/
def Same : Document κ α → Document κ α → Prop
  | .leaf a, .leaf b => a = b
  | .array xs, .array ys => SameItems xs ys
  | .object xs, .object ys => xs.length = ys.length ∧ SameFields xs ys
  | _, _ => False

def SameItems : List (Document κ α) → List (Document κ α) → Prop
  | [], [] => True
  | j :: xs, k :: ys => Same j k ∧ SameItems xs ys
  | _, _ => False

/-- Every field of the first list is in the second one. -/
def SameFields : List (κ × Document κ α) → List (κ × Document κ α) → Prop
  | [], _ => True
  | (key, j) :: xs, ys => (∃ k, (key, k) ∈ ys ∧ Same j k) ∧ SameFields xs ys

end

theorem DistinctFields.of_mem {fields : List (κ × Document κ α)} (h : DistinctFields fields)
    {key : κ} {j : Document κ α} (hj : (key, j) ∈ fields) : Distinct j := by
  induction fields with
  | nil => cases hj
  | cons field fields ih =>
    obtain ⟨other, k⟩ := field
    rcases List.mem_cons.mp hj with heq | hrest
    · cases heq
      exact h.1
    · exact ih h.2 hrest

/-! ### Sorted fields -/

section Sorting
variable [LinearOrder κ]

def sortByKey {β : Type*} (fields : List (κ × β)) : List (κ × β) :=
  fields.insertionSort fun a b => a.1 ≤ b.1

mutual

/-- The document with the fields of all records sorted by key. -/
def sortKeys : Document κ α → Document κ α
  | .leaf a => .leaf a
  | .array items => .array (sortItems items)
  | .object fields => .object (sortByKey (sortFields fields))

def sortItems : List (Document κ α) → List (Document κ α)
  | [] => []
  | j :: items => sortKeys j :: sortItems items

def sortFields : List (κ × Document κ α) → List (κ × Document κ α)
  | [] => []
  | (key, j) :: fields => (key, sortKeys j) :: sortFields fields

end

theorem sortItems_eq_map (items : List (Document κ α)) : sortItems items = items.map sortKeys := by
  induction items with
  | nil => rfl
  | cons j items ih => rw [sortItems, List.map_cons, ih]

theorem sortFields_eq_map (fields : List (κ × Document κ α)) :
    sortFields fields = fields.map fun field => (field.1, sortKeys field.2) := by
  induction fields with
  | nil => rfl
  | cons field fields ih => rw [sortFields, List.map_cons, ih]

theorem mem_sortFields {fields : List (κ × Document κ α)} {key : κ} {j : Document κ α} :
    (key, j) ∈ sortFields fields ↔ ∃ k, (key, k) ∈ fields ∧ sortKeys k = j := by
  rw [sortFields_eq_map, List.mem_map]
  constructor
  · rintro ⟨⟨key', k⟩, hk, heq⟩
    cases heq
    exact ⟨k, hk, rfl⟩
  · rintro ⟨k, hk, rfl⟩
    exact ⟨(key, k), hk, rfl⟩

theorem map_fst_sortFields (fields : List (κ × Document κ α)) :
    (sortFields fields).map Prod.fst = fields.map Prod.fst := by
  rw [sortFields_eq_map, List.map_map]
  rfl

theorem length_sortFields (fields : List (κ × Document κ α)) :
    (sortFields fields).length = fields.length := by
  rw [sortFields_eq_map, List.length_map]

theorem sortByKey_perm {β : Type*} (fields : List (κ × β)) : (sortByKey fields).Perm fields :=
  List.perm_insertionSort _ fields

theorem sortByKey_sorted {β : Type*} (fields : List (κ × β)) :
    (sortByKey fields).Pairwise fun a b => a.1 ≤ b.1 := by
  have htotal : Std.Total fun a b : κ × β => a.1 ≤ b.1 := ⟨fun a b => le_total a.1 b.1⟩
  have htrans : IsTrans (κ × β) fun a b => a.1 ≤ b.1 := ⟨fun _ _ _ => le_trans⟩
  exact List.pairwise_insertionSort _ fields

/-- Sorting keeps the map of the values. -/
theorem sortByKey_map {β γ : Type*} (f : β → γ) (fields : List (κ × β)) :
    sortByKey (fields.map fun field => (field.1, f field.2)) =
      (sortByKey fields).map fun field => (field.1, f field.2) := by
  exact (List.map_insertionSort (r := fun a b : κ × β => a.1 ≤ b.1)
    (s := fun a b : κ × γ => a.1 ≤ b.1) (f := fun field => (field.1, f field.2)) (l := fields)
    (fun _ _ _ _ => Iff.rfl)).symm

/-- Sorting by keys that no two fields share does not depend on the order of the list. -/
theorem sortByKey_eq_of_perm {β : Type*} {xs ys : List (κ × β)} (hkeys : (ys.map Prod.fst).Nodup)
    (hperm : xs.Perm ys) : sortByKey xs = sortByKey ys := by
  refine List.Perm.eq_of_pairwise ?_ (sortByKey_sorted xs) (sortByKey_sorted ys)
    ((sortByKey_perm xs).trans (hperm.trans (sortByKey_perm ys).symm))
  intro a b ha hb hab hba
  have ha' : a ∈ ys := hperm.mem_iff.mp ((sortByKey_perm xs).mem_iff.mp ha)
  have hb' : b ∈ ys := (sortByKey_perm ys).mem_iff.mp hb
  exact List.inj_on_of_nodup_map hkeys ha' hb' (le_antisymm hab hba)

/-- Sorted lists of the same fields are equal. -/
theorem sortByKey_eq_iff {β : Type*} {xs ys : List (κ × β)} (hxs : (xs.map Prod.fst).Nodup)
    (hys : (ys.map Prod.fst).Nodup) :
    sortByKey xs = sortByKey ys ↔ xs.length = ys.length ∧ ∀ field ∈ xs, field ∈ ys := by
  constructor
  · intro heq
    have hperm : xs.Perm ys := (sortByKey_perm xs).symm.trans (heq ▸ sortByKey_perm ys)
    exact ⟨hperm.length_eq, fun field hfield => hperm.mem_iff.mp hfield⟩
  · rintro ⟨hlength, hsubset⟩
    have hperm : xs.Perm ys :=
      (List.subperm_of_subset hxs.of_map hsubset).perm_of_length_le hlength.ge
    exact sortByKey_eq_of_perm hys hperm

mutual

/-- Documents are the same up to the order of fields exactly when they are equal sorted. -/
theorem sortKeys_eq_iff : ∀ j k : Document κ α, Distinct j → Distinct k →
    (sortKeys j = sortKeys k ↔ Same j k)
  | .leaf a, k, _, _ => by cases k <;> simp [sortKeys, Same]
  | .array xs, k, hj, hk => by
    cases k with
    | array ys =>
      simp only [sortKeys, array.injEq, Same]
      exact sortItems_eq_iff xs ys hj hk
    | _ => simp [sortKeys, Same]
  | .object xs, k, hj, hk => by
    cases k with
    | object ys =>
      simp only [sortKeys, object.injEq, Same]
      have hxs : ((sortFields xs).map Prod.fst).Nodup := by
        rw [map_fst_sortFields]
        exact hj.1
      have hys : ((sortFields ys).map Prod.fst).Nodup := by
        rw [map_fst_sortFields]
        exact hk.1
      rw [sortByKey_eq_iff hxs hys, length_sortFields, length_sortFields,
        sortFields_subset_iff xs ys hj.2 hk.2]
    | _ => simp [sortKeys, Same]

theorem sortItems_eq_iff : ∀ xs ys : List (Document κ α), DistinctItems xs → DistinctItems ys →
    (sortItems xs = sortItems ys ↔ SameItems xs ys)
  | [], [], _, _ => by simp [sortItems, SameItems]
  | [], _ :: _, _, _ => by simp [sortItems, SameItems]
  | _ :: _, [], _, _ => by simp [sortItems, SameItems]
  | j :: xs, k :: ys, hj, hk => by
    simp only [sortItems, List.cons.injEq, SameItems]
    rw [sortKeys_eq_iff j k hj.1 hk.1, sortItems_eq_iff xs ys hj.2 hk.2]

theorem sortFields_subset_iff : ∀ xs ys : List (κ × Document κ α),
    DistinctFields xs → DistinctFields ys →
    ((∀ field ∈ sortFields xs, field ∈ sortFields ys) ↔ SameFields xs ys)
  | [], ys, _, _ => by simp [sortFields, SameFields]
  | (key, j) :: xs, ys, hj, hk => by
    simp only [sortFields, List.forall_mem_cons, SameFields]
    rw [sortFields_subset_iff xs ys hj.2 hk, mem_sortFields]
    refine and_congr_left fun _ => exists_congr fun k => and_congr_right fun hmem => ?_
    rw [eq_comm, sortKeys_eq_iff j k hj.1 (hk.of_mem hmem)]

end

end Sorting

/-! ### Texts -/

end Document

/-- How documents are written over an alphabet. -/
structure Layout (κ : Type u) (α : Type v) (τ : Type w) where
  leaf : α → List τ
  key : κ → List τ
  openArray : τ
  closeArray : τ
  openObject : τ
  closeObject : τ
  comma : τ
  colon : τ

namespace Layout

variable {κ : Type u} {α : Type v} {τ : Type w}

section Print
variable (L : Layout κ α τ)

mutual

/-- The text of a document, the fields of a record in their order. -/
def print : Document κ α → List τ
  | .leaf a => L.leaf a
  | .array [] => [L.openArray, L.closeArray]
  | .array (j :: items) => L.openArray :: (print j ++ printItems items)
  | .object [] => [L.openObject, L.closeObject]
  | .object ((key, j) :: fields) =>
    L.openObject :: (L.key key ++ L.colon :: (print j ++ printFields fields))

/-- The items after the first one, and the closing bracket. -/
def printItems : List (Document κ α) → List τ
  | [] => [L.closeArray]
  | j :: items => L.comma :: (print j ++ printItems items)

def printFields : List (κ × Document κ α) → List τ
  | [] => [L.closeObject]
  | (key, j) :: fields => L.comma :: (L.key key ++ L.colon :: (print j ++ printFields fields))

end

attribute [grind =] print printItems printFields

/-- A document ends before this text. -/
def Ends (r : List τ) : Prop :=
  ∀ c ∈ r.head?, c = L.comma ∨ c = L.closeArray ∨ c = L.closeObject

/-- Texts of leaves and keys say where they end, and their first letters say what they are. -/
structure Unambiguous : Prop where
  leaf_inj : ∀ {a b : α} {r r' : List τ}, L.Ends r → L.Ends r' →
    L.leaf a ++ r = L.leaf b ++ r' → a = b ∧ r = r'
  leaf_head : ∀ a, ∃ c rest, L.leaf a = c :: rest ∧
    c ≠ L.openArray ∧ c ≠ L.openObject ∧ c ≠ L.closeArray
  key_inj : ∀ {k l : κ} {r r' : List τ}, L.key k ++ r = L.key l ++ r' → k = l ∧ r = r'
  key_head : ∀ k, ∃ c rest, L.key k = c :: rest ∧ c ≠ L.closeObject
  array_ne_object : L.openArray ≠ L.openObject
  array_ne_close : L.openArray ≠ L.closeArray
  object_ne_close : L.openObject ≠ L.closeArray
  comma_ne_array : L.comma ≠ L.closeArray
  comma_ne_object : L.comma ≠ L.closeObject

end Print

section Injective
variable {L : Layout κ α τ}

theorem ends_printItems (items : List (Document κ α)) (r : List τ) :
    L.Ends (L.printItems items ++ r) := by
  intro c hc
  cases items with
  | nil =>
    simp only [printItems, List.cons_append, List.head?_cons, Option.mem_some_iff] at hc
    exact .inr (.inl hc.symm)
  | cons j items =>
    simp only [printItems, List.cons_append, List.head?_cons, Option.mem_some_iff] at hc
    exact .inl hc.symm

theorem ends_printFields (fields : List (κ × Document κ α)) (r : List τ) :
    L.Ends (L.printFields fields ++ r) := by
  intro c hc
  cases fields with
  | nil =>
    simp only [printFields, List.cons_append, List.head?_cons, Option.mem_some_iff] at hc
    exact .inr (.inr hc.symm)
  | cons field fields =>
    simp only [printFields, List.cons_append, List.head?_cons, Option.mem_some_iff] at hc
    exact .inl hc.symm

theorem print_array (items : List (Document κ α)) :
    ∃ rest, L.print (.array items) = L.openArray :: rest := by
  cases items with
  | nil => exact ⟨_, by rw [print]⟩
  | cons j items => exact ⟨_, by rw [print]⟩

theorem print_object (fields : List (κ × Document κ α)) :
    ∃ rest, L.print (.object fields) = L.openObject :: rest := by
  cases fields with
  | nil => exact ⟨_, by rw [print]⟩
  | cons field fields => exact ⟨_, by rw [print]⟩

theorem intercalate_cons (c : τ) (text : List τ) (texts : List (List τ)) :
    [c].intercalate (text :: texts) = text ++ (texts.map (c :: ·)).flatten := by
  induction texts generalizing text with
  | nil => simp
  | cons other texts ih => rw [List.intercalate_cons_cons, ih]; simp

theorem printItems_eq (items : List (Document κ α)) :
    L.printItems items = ((items.map L.print).map (L.comma :: ·)).flatten ++ [L.closeArray] := by
  induction items with
  | nil => rfl
  | cons j items ih => simp [printItems, ih]

/-- The text of a field. -/
def printField (L : Layout κ α τ) (field : κ × Document κ α) : List τ :=
  L.key field.1 ++ L.colon :: L.print field.2

theorem printFields_eq (fields : List (κ × Document κ α)) :
    L.printFields fields =
      ((fields.map L.printField).map (L.comma :: ·)).flatten ++ [L.closeObject] := by
  induction fields with
  | nil => rfl
  | cons field fields ih => simp [printFields, printField, ih]

/-- The items stand between the brackets, joined by commas. -/
theorem print_array_eq (items : List (Document κ α)) :
    L.print (.array items) =
      L.openArray :: ([L.comma].intercalate (items.map L.print) ++ [L.closeArray]) := by
  cases items with
  | nil => rw [print]; rfl
  | cons j items =>
    rw [print, printItems_eq, List.map_cons, intercalate_cons, List.append_assoc]

theorem print_object_eq (fields : List (κ × Document κ α)) :
    L.print (.object fields) =
      L.openObject :: ([L.comma].intercalate (fields.map L.printField) ++ [L.closeObject]) := by
  cases fields with
  | nil => rw [print]; rfl
  | cons field fields =>
    rw [print, printFields_eq, List.map_cons, intercalate_cons, List.append_assoc, printField,
      List.append_assoc, List.cons_append]

variable (hL : L.Unambiguous)
include hL

/-- The text of an item does not close the list. -/
theorem Unambiguous.print_head (j : Document κ α) :
    ∃ c rest, L.print j = c :: rest ∧ c ≠ L.closeArray := by
  cases j with
  | leaf a =>
    obtain ⟨c, rest, htext, -, -, hclose⟩ := hL.leaf_head a
    exact ⟨c, rest, by rw [print, htext], hclose⟩
  | array items =>
    obtain ⟨rest, htext⟩ := print_array (L := L) items
    exact ⟨_, rest, htext, hL.array_ne_close⟩
  | object fields =>
    obtain ⟨rest, htext⟩ := print_object (L := L) fields
    exact ⟨_, rest, htext, hL.object_ne_close⟩

theorem Unambiguous.leaf_ne_array {a : α} {items : List (Document κ α)} {r r' : List τ} :
    L.leaf a ++ r ≠ L.print (.array items) ++ r' := by
  obtain ⟨c, rest, htext, harray, -, -⟩ := hL.leaf_head a
  obtain ⟨rest', htext'⟩ := print_array (L := L) items
  rw [htext, htext', List.cons_append, List.cons_append]
  intro h
  exact harray (List.cons.inj h).1

theorem Unambiguous.leaf_ne_object {a : α} {fields : List (κ × Document κ α)} {r r' : List τ} :
    L.leaf a ++ r ≠ L.print (.object fields) ++ r' := by
  obtain ⟨c, rest, htext, -, hobject, -⟩ := hL.leaf_head a
  obtain ⟨rest', htext'⟩ := print_object (L := L) fields
  rw [htext, htext', List.cons_append, List.cons_append]
  intro h
  exact hobject (List.cons.inj h).1

theorem Unambiguous.array_ne_object' {items : List (Document κ α)}
    {fields : List (κ × Document κ α)} {r r' : List τ} :
    L.print (.array items) ++ r ≠ L.print (.object fields) ++ r' := by
  obtain ⟨rest, htext⟩ := print_array (L := L) items
  obtain ⟨rest', htext'⟩ := print_object (L := L) fields
  rw [htext, htext', List.cons_append, List.cons_append]
  intro h
  exact hL.array_ne_object (List.cons.inj h).1

theorem Unambiguous.nil_ne_array {j : Document κ α} {items : List (Document κ α)}
    {r r' : List τ} :
    L.print (.array []) ++ r ≠ L.print (.array (j :: items)) ++ r' := by
  obtain ⟨c, rest, htext, hclose⟩ := hL.print_head j
  rw [print, print, htext]
  intro h
  simp only [List.cons_append, List.cons.injEq] at h
  exact hclose h.2.1.symm

theorem Unambiguous.nil_ne_object {field : κ × Document κ α} {fields : List (κ × Document κ α)}
    {r r' : List τ} :
    L.print (.object []) ++ r ≠ L.print (.object (field :: fields)) ++ r' := by
  obtain ⟨c, rest, htext, hclose⟩ := hL.key_head field.1
  rw [print, print, htext]
  intro h
  simp only [List.cons_append, List.cons.injEq] at h
  exact hclose h.2.1.symm

mutual

/-- The text of a document says which document it is and where it ends. -/
theorem Unambiguous.print_injective : ∀ (j k : Document κ α) (r r' : List τ), L.Ends r →
    L.Ends r' → L.print j ++ r = L.print k ++ r' → j = k ∧ r = r'
  | .leaf a, k, r, r', hr, hr', h => by
    rw [print] at h
    cases k with
    | leaf b =>
      rw [print] at h
      obtain ⟨rfl, hrest⟩ := hL.leaf_inj hr hr' h
      exact ⟨rfl, hrest⟩
    | array items => exact absurd h hL.leaf_ne_array
    | object fields => exact absurd h hL.leaf_ne_object
  | .array [], k, r, r', hr, hr', h => by
    cases k with
    | leaf b =>
      rw [print.eq_1] at h
      exact absurd h.symm hL.leaf_ne_array
    | array items =>
      cases items with
      | nil =>
        simp only [print, List.cons_append, List.nil_append, List.cons.injEq, true_and] at h
        exact ⟨rfl, h⟩
      | cons j items => exact absurd h hL.nil_ne_array
    | object fields => exact absurd h hL.array_ne_object'
  | .array (j :: items), k, r, r', hr, hr', h => by
    cases k with
    | leaf b =>
      rw [print.eq_1] at h
      exact absurd h.symm hL.leaf_ne_array
    | array items' =>
      cases items' with
      | nil => exact absurd h.symm hL.nil_ne_array
      | cons j' items' =>
        simp only [print, List.cons_append, List.append_assoc, List.cons.injEq, true_and] at h
        obtain ⟨rfl, htail⟩ := Unambiguous.print_injective j j' _ _ (ends_printItems items r)
          (ends_printItems items' r') h
        obtain ⟨rfl, hrest⟩ := Unambiguous.printItems_injective items items' r r' htail
        exact ⟨rfl, hrest⟩
    | object fields => exact absurd h hL.array_ne_object'
  | .object [], k, r, r', hr, hr', h => by
    cases k with
    | leaf b =>
      rw [print.eq_1] at h
      exact absurd h.symm hL.leaf_ne_object
    | array items => exact absurd h.symm hL.array_ne_object'
    | object fields =>
      cases fields with
      | nil =>
        simp only [print, List.cons_append, List.nil_append, List.cons.injEq, true_and] at h
        exact ⟨rfl, h⟩
      | cons field fields => exact absurd h hL.nil_ne_object
  | .object ((key, j) :: fields), k, r, r', hr, hr', h => by
    cases k with
    | leaf b =>
      rw [print.eq_1] at h
      exact absurd h.symm hL.leaf_ne_object
    | array items => exact absurd h.symm hL.array_ne_object'
    | object fields' =>
      cases fields' with
      | nil => exact absurd h.symm hL.nil_ne_object
      | cons field fields' =>
        obtain ⟨key', j'⟩ := field
        simp only [print, List.cons_append, List.append_assoc, List.cons.injEq, true_and] at h
        obtain ⟨rfl, hvalue⟩ := hL.key_inj h
        rw [List.cons.injEq] at hvalue
        obtain ⟨rfl, htail⟩ := Unambiguous.print_injective j j' _ _ (ends_printFields fields r)
          (ends_printFields fields' r') hvalue.2
        obtain ⟨rfl, hrest⟩ := Unambiguous.printFields_injective fields fields' r r' htail
        exact ⟨rfl, hrest⟩

theorem Unambiguous.printItems_injective : ∀ (xs ys : List (Document κ α)) (r r' : List τ),
    L.printItems xs ++ r = L.printItems ys ++ r' → xs = ys ∧ r = r'
  | [], [], r, r', h => by
    simp only [printItems, List.cons_append, List.nil_append, List.cons.injEq, true_and] at h
    exact ⟨rfl, h⟩
  | [], k :: ys, r, r', h => by
    simp only [printItems, List.cons_append, List.cons.injEq] at h
    exact absurd h.1.symm hL.comma_ne_array
  | j :: xs, [], r, r', h => by
    simp only [printItems, List.cons_append, List.cons.injEq] at h
    exact absurd h.1 hL.comma_ne_array
  | j :: xs, k :: ys, r, r', h => by
    simp only [printItems, List.cons_append, List.append_assoc, List.cons.injEq, true_and] at h
    obtain ⟨rfl, htail⟩ := Unambiguous.print_injective j k _ _ (ends_printItems xs r)
      (ends_printItems ys r') h
    obtain ⟨rfl, hrest⟩ := Unambiguous.printItems_injective xs ys r r' htail
    exact ⟨rfl, hrest⟩

theorem Unambiguous.printFields_injective : ∀ (xs ys : List (κ × Document κ α)) (r r' : List τ),
    L.printFields xs ++ r = L.printFields ys ++ r' → xs = ys ∧ r = r'
  | [], [], r, r', h => by
    simp only [printFields, List.cons_append, List.nil_append, List.cons.injEq, true_and] at h
    exact ⟨rfl, h⟩
  | [], (key, k) :: ys, r, r', h => by
    simp only [printFields, List.cons_append, List.cons.injEq] at h
    exact absurd h.1.symm hL.comma_ne_object
  | (key, j) :: xs, [], r, r', h => by
    simp only [printFields, List.cons_append, List.cons.injEq] at h
    exact absurd h.1 hL.comma_ne_object
  | (key, j) :: xs, (key', k) :: ys, r, r', h => by
    simp only [printFields, List.cons_append, List.append_assoc, List.cons.injEq, true_and] at h
    obtain ⟨rfl, hvalue⟩ := hL.key_inj h
    rw [List.cons.injEq] at hvalue
    obtain ⟨rfl, htail⟩ := Unambiguous.print_injective j k _ _ (ends_printFields xs r)
      (ends_printFields ys r') hvalue.2
    obtain ⟨rfl, hrest⟩ := Unambiguous.printFields_injective xs ys r r' htail
    exact ⟨rfl, hrest⟩

end

/-- Texts with sorted keys are equal exactly when the documents differ only in order. -/
theorem Unambiguous.canonical_eq_iff [LinearOrder κ] {j k : Document κ α} (hj : j.Distinct)
    (hk : k.Distinct) : L.print j.sortKeys = L.print k.sortKeys ↔ j.Same k := by
  rw [← Document.sortKeys_eq_iff j k hj hk]
  constructor
  · intro h
    have hends : L.Ends [] := fun _ hc => nomatch hc
    exact (hL.print_injective _ _ [] [] hends hends (by rw [h])).1
  · intro h
    rw [h]

end Injective

end Layout
