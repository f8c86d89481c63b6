import Mathlib.Data.List.Nodup

/-!
# Tables with a primary key

A table is its rows in insertion order together with the proof that no two of
them have the same key. Updates keep keys, so they cannot break it; an insertion
of a known key is refused.
-/

set_option autoImplicit false

universe u v
variable {ρ : Type u} {κ : Type v}

/-- Rows with pairwise different keys. -/
@[ext] structure Table (key : ρ → κ) where
  rows : List ρ
  keys_nodup : (rows.map key).Nodup

namespace Table
variable {key : ρ → κ}

instance : Membership ρ (Table key) := ⟨fun t r => r ∈ t.rows⟩

theorem mem_rows {t : Table key} {r : ρ} : r ∈ t.rows ↔ r ∈ t := Iff.rfl

instance (t : Table key) (p : ρ → Prop) [DecidablePred p] : Decidable (∀ r ∈ t, p r) :=
  inferInstanceAs (Decidable (∀ r ∈ t.rows, p r))

instance (t : Table key) (p : ρ → Prop) [DecidablePred p] : Decidable (∃ r ∈ t, p r) :=
  inferInstanceAs (Decidable (∃ r ∈ t.rows, p r))

def empty : Table key := ⟨[], List.nodup_nil⟩

@[simp] theorem not_mem_empty (r : ρ) : r ∉ (empty : Table key) := by
  intro h
  cases h

theorem eq_of_key_eq {t : Table key} {r s : ρ} (hr : r ∈ t) (hs : s ∈ t)
    (h : key r = key s) : r = s :=
  List.inj_on_of_nodup_map t.keys_nodup hr hs h

/-- The rows that satisfy a condition. -/
def select (t : Table key) (p : ρ → Bool) : List ρ := t.rows.filter p

@[simp] theorem mem_select {t : Table key} {p : ρ → Bool} {r : ρ} :
    r ∈ t.select p ↔ r ∈ t ∧ p r = true := List.mem_filter

/-- Change the rows that satisfy a condition, keeping their keys. -/
def updateWhere (t : Table key) (p : ρ → Bool) (f : ρ → ρ)
    (hf : ∀ r, key (f r) = key r := by as_aux_lemma => intro _; rfl) : Table key where
  rows := t.rows.map fun r => if p r then f r else r
  keys_nodup := by
    rw [List.map_map]
    have hkeys : (key ∘ fun r => if p r then f r else r) = key := by
      funext r
      simp only [Function.comp_apply]
      split
      · exact hf r
      · rfl
    rw [hkeys]
    exact t.keys_nodup

@[simp] theorem mem_updateWhere {t : Table key} {p : ρ → Bool} {f : ρ → ρ}
    {hf : ∀ r, key (f r) = key r} {s : ρ} :
    s ∈ t.updateWhere p f hf ↔ ∃ r ∈ t, (if p r then f r else r) = s := List.mem_map

/-- Delete the rows that satisfy a condition. -/
def deleteWhere (t : Table key) (p : ρ → Bool) : Table key where
  rows := t.rows.filter fun r => !p r
  keys_nodup := t.keys_nodup.sublist (List.filter_sublist.map key)

@[simp] theorem mem_deleteWhere {t : Table key} {p : ρ → Bool} {r : ρ} :
    r ∈ t.deleteWhere p ↔ r ∈ t ∧ p r = false := by
  change r ∈ List.filter (fun r => !p r) t.rows ↔ _
  rw [List.mem_filter, Bool.not_eq_true']
  exact Iff.rfl

/-- A unique column that an update keeps stays unique. -/
theorem nodup_map_updateWhere {β : Type*} {t : Table key} {p : ρ → Bool} {f : ρ → ρ}
    {hf : ∀ r, key (f r) = key r} {field : ρ → β} (h : (t.rows.map field).Nodup)
    (hfield : ∀ r, field (f r) = field r) : ((t.updateWhere p f hf).rows.map field).Nodup := by
  have hrows : (t.updateWhere p f hf).rows.map field = t.rows.map field := by
    unfold updateWhere
    rw [List.map_map]
    apply List.map_congr_left
    intro r _
    rw [Function.comp_apply]
    split
    · exact hfield r
    · rfl
  rw [hrows]
  exact h

theorem updateWhere_congr {t : Table key} {p q : ρ → Bool} {f : ρ → ρ}
    {hf : ∀ r, key (f r) = key r} (h : ∀ r ∈ t, p r = q r) :
    t.updateWhere p f hf = t.updateWhere q f hf := by
  ext1
  unfold updateWhere
  apply List.map_congr_left
  intro r hr
  rw [h r hr]

theorem updateWhere_eq_self_iff {t : Table key} {p : ρ → Bool} {f : ρ → ρ}
    {hf : ∀ r, key (f r) = key r} :
    t.updateWhere p f hf = t ↔ ∀ r ∈ t, p r = true → f r = r := by
  have hrows : t.updateWhere p f hf = t ↔ t.rows.map (fun r => if p r then f r else r) =
      t.rows.map id := by
    rw [List.map_id, Table.ext_iff]
    exact Iff.rfl
  rw [hrows, List.map_inj_left]
  refine forall₂_congr fun r hr => ?_
  by_cases hp : p r = true
  · rw [if_pos hp]
    exact ⟨fun h _ => h, fun h => h hp⟩
  · rw [if_neg hp]
    exact ⟨fun _ h => (hp h).elim, fun _ => rfl⟩

theorem deleteWhere_congr {t : Table key} {p q : ρ → Bool} (h : ∀ r ∈ t, p r = q r) :
    t.deleteWhere p = t.deleteWhere q := by
  ext1
  unfold deleteWhere
  apply List.filter_congr
  intro r hr
  rw [h r hr]

/-- `DELETE` under a foreign key: refused when a row to delete is still referenced. -/
def deleteRestricted (t : Table key) (p referenced : ρ → Bool) : Option (Table key) :=
  if t.rows.any fun r => p r && referenced r then none else some (t.deleteWhere p)

theorem deleteRestricted_eq_some {t t' : Table key} {p referenced : ρ → Bool} :
    t.deleteRestricted p referenced = some t' ↔
      (∀ r ∈ t, p r = true → referenced r = false) ∧ t' = t.deleteWhere p := by
  unfold deleteRestricted
  by_cases h : (t.rows.any fun r => p r && referenced r) = true
  · rw [if_pos h]
    obtain ⟨r, hr, hpr⟩ := List.any_eq_true.mp h
    rw [Bool.and_eq_true] at hpr
    constructor
    · intro hnone
      cases hnone
    · rintro ⟨hall, -⟩
      rw [hall r hr hpr.1] at hpr
      cases hpr.2
  · rw [if_neg h, Option.some.injEq, eq_comm]
    simp only [Bool.not_eq_true, List.any_eq_false, Bool.and_eq_false_imp] at h
    exact ⟨fun heq => ⟨h, heq⟩, fun heq => heq.2⟩

/-- Every key of the second table is one of the first or an added one. -/
def KeysWithin (t t' : Table key) (added : List κ) : Prop :=
  ∀ r ∈ t', key r ∈ added ∨ ∃ old ∈ t, key old = key r

theorem KeysWithin.refl (t : Table key) (added : List κ) : KeysWithin t t added :=
  fun r hr => .inr ⟨r, hr, rfl⟩

variable [DecidableEq κ]

/-- The row of a key. -/
def find? (t : Table key) (k : κ) : Option ρ := t.rows.find? fun r => key r = k

theorem find?_eq_some {t : Table key} {k : κ} {r : ρ} :
    t.find? k = some r ↔ r ∈ t ∧ key r = k := by
  constructor
  · intro h
    exact ⟨List.mem_of_find?_eq_some h, by simpa using List.find?_some h⟩
  · rintro ⟨hr, rfl⟩
    cases hfound : t.find? (key r) with
    | none =>
      have hnone := List.find?_eq_none.mp hfound r hr
      simp at hnone
    | some s =>
      have hs : s ∈ t := List.mem_of_find?_eq_some hfound
      have hkey : key s = key r := by simpa using List.find?_some hfound
      rw [eq_of_key_eq hs hr hkey]

theorem find?_of_mem {t : Table key} {r : ρ} (hr : r ∈ t) : t.find? (key r) = some r :=
  find?_eq_some.mpr ⟨hr, rfl⟩

theorem find?_eq_none {t : Table key} {k : κ} :
    t.find? k = none ↔ ∀ r ∈ t, key r ≠ k := by
  unfold find?
  rw [List.find?_eq_none]
  simp only [decide_eq_true_eq]
  exact Iff.rfl

/-- The keys of the rows that satisfy a condition. -/
def keysWhere (t : Table key) (p : ρ → Bool) : List κ := (t.select p).map key

omit [DecidableEq κ] in
theorem mem_keysWhere {t : Table key} {p : ρ → Bool} {r : ρ} (hr : r ∈ t) :
    key r ∈ t.keysWhere p ↔ p r = true := by
  unfold keysWhere
  rw [List.mem_map]
  constructor
  · rintro ⟨s, hs, hkey⟩
    obtain ⟨hs, hp⟩ := mem_select.mp hs
    rw [← eq_of_key_eq hs hr hkey]
    exact hp
  · intro hp
    exact ⟨r, mem_select.mpr ⟨hr, hp⟩, rfl⟩

/-- Naming the rows by their keys first does not change what an update changes. -/
@[simp] theorem updateWhere_keysWhere {t : Table key} {p : ρ → Bool} {f : ρ → ρ}
    {hf : ∀ r, key (f r) = key r} :
    t.updateWhere (fun r => key r ∈ t.keysWhere p) f hf = t.updateWhere p f hf := by
  apply updateWhere_congr
  intro r hr
  simp only [mem_keysWhere hr, Bool.decide_eq_true]

@[simp] theorem deleteWhere_keysWhere {t : Table key} {p : ρ → Bool} :
    t.deleteWhere (fun r => key r ∈ t.keysWhere p) = t.deleteWhere p := by
  apply deleteWhere_congr
  intro r hr
  simp only [mem_keysWhere hr, Bool.decide_eq_true]

/-- Change the row of a key. -/
def update (t : Table key) (k : κ) (f : ρ → ρ)
    (hf : ∀ r, key (f r) = key r := by as_aux_lemma => intro _; rfl) : Table key :=
  t.updateWhere (fun r => key r = k) f hf

theorem mem_update {t : Table key} {k : κ} {f : ρ → ρ} {hf : ∀ r, key (f r) = key r} {s : ρ} :
    s ∈ t.update k f hf ↔ ∃ r ∈ t, (if key r = k then f r else r) = s := by
  unfold update
  simp only [mem_updateWhere, decide_eq_true_eq]

/-- A row after an update is the changed row, or an old row of another key. -/
theorem mem_update_of_find? {t : Table key} {k : κ} {f : ρ → ρ} {hf : ∀ r, key (f r) = key r}
    {r s : ρ} (hfind : t.find? k = some r) (hs : s ∈ t.update k f hf) :
    s = f r ∨ s ∈ t ∧ key s ≠ k := by
  obtain ⟨hr, hkey⟩ := find?_eq_some.mp hfind
  obtain ⟨old, hold, rfl⟩ := mem_update.mp hs
  split
  · rename_i hsame
    rw [eq_of_key_eq hold hr (hsame.trans hkey.symm)]
    exact .inl rfl
  · rename_i hother
    exact .inr ⟨hold, hother⟩

theorem mem_update_of_ne {t : Table key} {k : κ} {f : ρ → ρ} {hf : ∀ r, key (f r) = key r}
    {s : ρ} (h : key s ≠ k) : s ∈ t.update k f hf ↔ s ∈ t := by
  rw [mem_update]
  constructor
  · rintro ⟨r, hr, rfl⟩
    split at h
    · exact absurd (hf r ▸ ‹key r = k›) h
    · rw [if_neg ‹_›]
      exact hr
  · intro hs
    exact ⟨s, hs, if_neg h⟩

theorem update_update {t : Table key} {k : κ} {f g : ρ → ρ} {hf : ∀ r, key (f r) = key r}
    {hg : ∀ r, key (g r) = key r} :
    (t.update k f hf).update k g hg =
      t.update k (fun r => g (f r)) fun r => (hg (f r)).trans (hf r) := by
  ext1
  simp only [update, updateWhere, List.map_map]
  apply List.map_congr_left
  intro r _
  simp only [Function.comp_apply, decide_eq_true_eq]
  split
  · rw [if_pos ((hf r).trans ‹_›)]
  · rfl

theorem update_id {t : Table key} {k : κ} {hf : ∀ r, key (id r) = key r} :
    t.update k id hf = t := by
  ext1
  simp [update, updateWhere]

theorem update_eq_self_iff {t : Table key} {k : κ} {f : ρ → ρ} {hf : ∀ r, key (f r) = key r}
    {r : ρ} (h : t.find? k = some r) : t.update k f hf = t ↔ f r = r := by
  obtain ⟨hr, hkey⟩ := find?_eq_some.mp h
  unfold update
  rw [updateWhere_eq_self_iff]
  constructor
  · intro hall
    exact hall r hr (decide_eq_true hkey)
  · intro hrow s hs hs'
    rw [eq_of_key_eq hs hr ((of_decide_eq_true hs').trans hkey.symm), hrow]

theorem find?_updateWhere {t : Table key} {p : ρ → Bool} {f : ρ → ρ}
    {hf : ∀ r, key (f r) = key r} {k : κ} :
    (t.updateWhere p f hf).find? k = (t.find? k).map fun r => if p r then f r else r := by
  cases hfound : t.find? k with
  | none =>
    rw [find?_eq_none] at hfound
    simp only [Option.map_none, find?_eq_none, mem_updateWhere]
    rintro _ ⟨r, hr, rfl⟩
    split
    · rw [hf]
      exact hfound r hr
    · exact hfound r hr
  | some r =>
    obtain ⟨hr, rfl⟩ := find?_eq_some.mp hfound
    simp only [Option.map_some, find?_eq_some, mem_updateWhere]
    refine ⟨⟨r, hr, rfl⟩, ?_⟩
    split
    · exact hf r
    · rfl

theorem find?_update {t : Table key} {k l : κ} {f : ρ → ρ} {hf : ∀ r, key (f r) = key r} :
    (t.update k f hf).find? l = if l = k then (t.find? l).map f else t.find? l := by
  unfold update
  rw [find?_updateWhere]
  cases hfound : t.find? l with
  | none => simp
  | some r =>
    obtain ⟨-, rfl⟩ := find?_eq_some.mp hfound
    by_cases h : key r = k <;> simp [h]

@[simp] theorem find?_update_self {t : Table key} {k : κ} {f : ρ → ρ}
    {hf : ∀ r, key (f r) = key r} : (t.update k f hf).find? k = (t.find? k).map f := by
  simp [find?_update]

theorem find?_deleteWhere {t : Table key} {p : ρ → Bool} {k : κ} :
    (t.deleteWhere p).find? k = (t.find? k).filter fun r => !p r := by
  cases hfound : t.find? k with
  | none =>
    rw [find?_eq_none] at hfound
    simp only [Option.filter_none, find?_eq_none, mem_deleteWhere]
    intro r hr
    exact hfound r hr.1
  | some r =>
    obtain ⟨hr, rfl⟩ := find?_eq_some.mp hfound
    cases hp : p r with
    | false => simp [Option.filter, hp, find?_eq_some, hr]
    | true =>
      simp only [Option.filter, hp, Bool.not_true, Bool.false_eq_true, if_false, find?_eq_none,
        mem_deleteWhere]
      rintro s ⟨hs, hps⟩ hkey
      rw [eq_of_key_eq hs hr hkey, hp] at hps
      cases hps

/-- Delete the row of a key. -/
def erase (t : Table key) (k : κ) : Table key := t.deleteWhere fun r => key r = k

theorem find?_erase {t : Table key} {k l : κ} :
    (t.erase k).find? l = if l = k then none else t.find? l := by
  unfold erase
  rw [find?_deleteWhere]
  cases hfound : t.find? l with
  | none => simp
  | some r =>
    obtain ⟨-, rfl⟩ := find?_eq_some.mp hfound
    by_cases h : key r = k <;> simp [h]

/-- Insert a row whose key is new. -/
def insert? (t : Table key) (r : ρ) : Option (Table key) :=
  if h : key r ∈ t.rows.map key then none
  else some
    { rows := t.rows ++ [r]
      keys_nodup := by
        rw [List.map_append, List.map_singleton, List.nodup_append_comm, List.singleton_append,
          List.nodup_cons]
        exact ⟨h, t.keys_nodup⟩ }

section Insert
variable {t t' : Table key} {r : ρ}

theorem key_fresh_of_insert? (h : t.insert? r = some t') : ∀ s ∈ t, key s ≠ key r := by
  unfold insert? at h
  split at h
  · cases h
  · rename_i hfresh
    intro s hs hkey
    exact hfresh (List.mem_map.mpr ⟨s, hs, hkey⟩)

theorem rows_insert? (h : t.insert? r = some t') : t'.rows = t.rows ++ [r] := by
  unfold insert? at h
  split at h
  · cases h
  · simp only [Option.some.injEq] at h
    rw [← h]

theorem mem_insert? (h : t.insert? r = some t') {s : ρ} : s ∈ t' ↔ s ∈ t ∨ s = r := by
  rw [← mem_rows, rows_insert? h, List.mem_append, List.mem_singleton]
  exact Iff.rfl

theorem nodup_map_insert? {β : Type*} {field : ρ → β} (h : t.insert? r = some t')
    (hfield : (t.rows.map field).Nodup) (hnew : field r ∉ t.rows.map field) :
    (t'.rows.map field).Nodup := by
  rw [rows_insert? h, List.map_append, List.map_singleton, List.nodup_append_comm,
    List.singleton_append, List.nodup_cons]
  exact ⟨hnew, hfield⟩

theorem find?_insert? (h : t.insert? r = some t') {k : κ} :
    t'.find? k = if k = key r then some r else t.find? k := by
  by_cases hk : k = key r
  · rw [if_pos hk, find?_eq_some, mem_insert? h]
    exact ⟨.inr rfl, hk.symm⟩
  · rw [if_neg hk]
    cases hfound : t.find? k with
    | none =>
      rw [find?_eq_none] at hfound ⊢
      intro s hs
      rcases (mem_insert? h).mp hs with hs | rfl
      · exact hfound s hs
      · exact fun hkey => hk hkey.symm
    | some s =>
      obtain ⟨hs, hkey⟩ := find?_eq_some.mp hfound
      exact find?_eq_some.mpr ⟨(mem_insert? h).mpr (.inl hs), hkey⟩

theorem insert?_isSome_iff : (t.insert? r).isSome ↔ ∀ s ∈ t, key s ≠ key r := by
  unfold insert?
  split
  · rename_i hmem
    obtain ⟨s, hs, hkey⟩ := List.mem_map.mp hmem
    constructor
    · intro h
      cases h
    · intro h
      exact absurd hkey (h s hs)
  · rename_i hfresh
    constructor
    · intro _ s hs hkey
      exact hfresh (List.mem_map.mpr ⟨s, hs, hkey⟩)
    · intro _
      rfl

theorem exists_insert? (h : ∀ s ∈ t, key s ≠ key r) : ∃ t', t.insert? r = some t' :=
  Option.isSome_iff_exists.mp (insert?_isSome_iff.mpr h)

end Insert

/-- Insert a row, or put it in the place of the row of its key. -/
def set (t : Table key) (r : ρ) : Table key :=
  match t.insert? r with
  | some t' => t'
  | none => t.update (key r) (fun s => if key s = key r then r else s) fun s => by
    split
    · exact Eq.symm ‹_›
    · rfl

theorem find?_set {t : Table key} {r : ρ} {k : κ} :
    (t.set r).find? k = if k = key r then some r else t.find? k := by
  unfold set
  split
  · exact find?_insert? ‹_›
  · rename_i hnone
    rw [find?_update]
    by_cases hk : k = key r
    · rw [if_pos hk, if_pos hk]
      cases hfound : t.find? k with
      | none =>
        have hfresh : (t.insert? r).isSome := by
          rw [insert?_isSome_iff]
          exact fun s hs => hk ▸ find?_eq_none.mp hfound s hs
        rw [hnone] at hfresh
        cases hfresh
      | some s =>
        obtain ⟨-, hkey⟩ := find?_eq_some.mp hfound
        rw [Option.map_some, if_pos (hkey.trans hk)]
    · rw [if_neg hk, if_neg hk]

@[simp] theorem find?_set_self {t : Table key} {r : ρ} : (t.set r).find? (key r) = some r := by
  rw [find?_set, if_pos rfl]

namespace KeysWithin

theorem update (t : Table key) (added : List κ) (k : κ) {f : ρ → ρ}
    {hf : ∀ r, key (f r) = key r} : KeysWithin t (t.update k f hf) added := by
  intro r hr
  obtain ⟨old, hold, rfl⟩ := mem_update.mp hr
  refine .inr ⟨old, hold, ?_⟩
  split
  · exact (hf old).symm
  · rfl

theorem insert {t t' : Table key} {r : ρ} (h : t.insert? r = some t') :
    KeysWithin t t' [key r] := by
  intro s hs
  rcases (mem_insert? h).mp hs with hold | rfl
  · exact .inr ⟨s, hold, rfl⟩
  · exact .inl (List.mem_singleton_self _)

end KeysWithin

section Select
variable {t t' : Table key} {p q : ρ → Bool}

omit [DecidableEq κ] in
theorem select_congr (h : ∀ r ∈ t, p r = q r) : t.select p = t.select q :=
  List.filter_congr h

omit [DecidableEq κ] in
/-- Deleting other rows does not change a selection. -/
theorem select_deleteWhere (h : ∀ r ∈ t, p r = true → q r = false) :
    (t.deleteWhere q).select p = t.select p := by
  unfold select deleteWhere
  rw [List.filter_filter]
  apply List.filter_congr
  intro r hr
  cases hp : p r with
  | false => rfl
  | true => rw [h r hr hp, Bool.true_and, Bool.not_false]

omit [DecidableEq κ] in
/-- Changing other rows to other rows does not change a selection. -/
theorem select_updateWhere {f : ρ → ρ}
    (h : ∀ r ∈ t, q r = true → p r = false ∧ p (f r) = false)
    (hf : ∀ r, key (f r) = key r := by as_aux_lemma => intro _; rfl) :
    (t.updateWhere q f hf).select p = t.select p := by
  have hrows : ∀ rows : List ρ, (∀ r ∈ rows, q r = true → p r = false ∧ p (f r) = false) →
      (rows.map fun r => if q r then f r else r).filter p = rows.filter p := by
    intro rows hrows
    induction rows with
    | nil => rfl
    | cons r rows ih =>
      rw [List.map_cons, List.filter_cons, List.filter_cons,
        ih fun s hs => hrows s (List.mem_cons_of_mem r hs)]
      cases hq : q r with
      | false => rfl
      | true =>
        obtain ⟨hold, hnew⟩ := hrows r List.mem_cons_self hq
        rw [if_pos rfl, if_neg (by simp [hnew]), if_neg (by simp [hold])]
  exact hrows t.rows h

omit [DecidableEq κ] in
/-- Changes within a selection. -/
theorem select_updateWhere_map {f : ρ → ρ} (h : ∀ r ∈ t, q r = true → p (f r) = p r)
    (hf : ∀ r, key (f r) = key r := by as_aux_lemma => intro _; rfl) :
    (t.updateWhere q f hf).select p = (t.select p).map fun r => if q r then f r else r := by
  have hrows : ∀ rows : List ρ, (∀ r ∈ rows, q r = true → p (f r) = p r) →
      (rows.map fun r => if q r then f r else r).filter p =
        (rows.filter p).map fun r => if q r then f r else r := by
    intro rows hrows
    induction rows with
    | nil => rfl
    | cons r rows ih =>
      rw [List.map_cons, List.filter_cons, List.filter_cons,
        ih fun s hs => hrows s (List.mem_cons_of_mem r hs)]
      have hkept : p (if q r then f r else r) = p r := by
        split
        · exact hrows r List.mem_cons_self ‹_›
        · rfl
      rw [hkept]
      split
      · rw [List.map_cons]
      · rfl
  exact hrows t.rows h

/-- Fields that an update keeps are the same over a selection that it keeps. -/
theorem map_select_update {β : Type*} {k : κ} {f : ρ → ρ} {hf : ∀ r, key (f r) = key r}
    {field : ρ → β} (hp : ∀ r, p (f r) = p r) (hfield : ∀ r, field (f r) = field r) :
    ((t.update k f hf).select p).map field = (t.select p).map field := by
  unfold select Table.update updateWhere
  simp only [decide_eq_true_eq]
  induction t.rows with
  | nil => rfl
  | cons r rows ih =>
    have hchanged : p (if key r = k then f r else r) = p r := by
      split
      · exact hp r
      · rfl
    rw [List.map_cons, List.filter_cons, List.filter_cons, hchanged]
    split
    · rw [List.map_cons, List.map_cons, ih]
      split
      · rw [hfield]
      · rfl
    · exact ih

/-- A selection by key has one row. -/
theorem length_select_key {r : ρ} (hr : r ∈ t) :
    (t.select fun s => key s = key r).length = 1 := by
  have hcount := List.count_eq_one_of_mem t.keys_nodup (List.mem_map_of_mem (f := key) hr)
  rw [List.count, List.countP_map, List.countP_eq_length_filter] at hcount
  exact hcount

omit [DecidableEq κ] in
/-- A condition that only one row can meet selects at most one. -/
theorem length_select_le_one {p : ρ → Bool}
    (h : ∀ r ∈ t, p r = true → ∀ s ∈ t, p s = true → r = s) : (t.select p).length ≤ 1 := by
  have hnodup : (t.select p).Nodup := t.keys_nodup.of_map.filter p
  match hselect : t.select p with
  | [] => exact Nat.zero_le 1
  | [_] => exact Nat.le_refl 1
  | r :: s :: rest =>
    obtain ⟨hr, hpr⟩ := mem_select.mp (hselect ▸ List.mem_cons_self : r ∈ t.select p)
    obtain ⟨hs, hps⟩ := mem_select.mp
      (hselect ▸ List.mem_cons_of_mem r List.mem_cons_self : s ∈ t.select p)
    rw [hselect, h r hr hpr s hs hps] at hnodup
    exact absurd List.mem_cons_self (List.nodup_cons.mp hnodup).1

/-- Only the row of a key may differ. -/
def SameElsewhere (t t' : Table key) (k : κ) : Prop :=
  t'.select (fun r => key r ≠ k) = t.select fun r => key r ≠ k

namespace SameElsewhere
variable {k : κ}

theorem refl (t : Table key) (k : κ) : SameElsewhere t t k := rfl

theorem insert {r : ρ} (h : t.insert? r = some t') : SameElsewhere t t' (key r) := by
  unfold SameElsewhere select
  rw [rows_insert? h, List.filter_append]
  simp

theorem update {f : ρ → ρ} {hf : ∀ r, key (f r) = key r} :
    SameElsewhere t (t.update k f hf) k := by
  unfold SameElsewhere select Table.update updateWhere
  simp only [decide_eq_true_eq]
  induction t.rows with
  | nil => rfl
  | cons r rows ih =>
    rw [List.map_cons, List.filter_cons, List.filter_cons, ih]
    by_cases hr : key r = k
    · simp [hr, hf]
    · simp [hr]

/-- A selection that leaves the key out does not change. -/
theorem select_eq (h : SameElsewhere t t' k) (hold : ∀ r ∈ t, key r = k → p r = false)
    (hnew : ∀ r ∈ t', key r = k → p r = false) : t'.select p = t.select p := by
  have hsplit : ∀ s : Table key, (∀ r ∈ s, key r = k → p r = false) →
      s.select p = (s.select fun r => key r ≠ k).filter p := by
    intro s hs
    unfold select
    rw [List.filter_filter]
    apply List.filter_congr
    intro r hr
    by_cases hk : key r = k
    · simp [hs r hr hk]
    · simp [hk]
  rw [hsplit t hold, hsplit t' hnew, h]

theorem keysWithin (h : SameElsewhere t t' k) : KeysWithin t t' [k] := by
  intro r hr
  by_cases hk : key r = k
  · exact .inl (List.mem_singleton.mpr hk)
  · have hselected : r ∈ t.select fun r => key r ≠ k := by
      rw [← h, mem_select]
      exact ⟨hr, decide_eq_true hk⟩
    exact .inr ⟨r, (mem_select.mp hselected).1, rfl⟩

end SameElsewhere

/-- An update that takes its row out of a selection. -/
theorem select_update_out {f : ρ → ρ} {k : κ} (hout : ∀ r ∈ t, key r = k → p (f r) = false)
    (hf : ∀ r, key (f r) = key r := by as_aux_lemma => intro _; rfl) :
    (t.update k f hf).select p = (t.select p).filter fun s => key s ≠ k := by
  have hrest : (t.update k f hf).select p =
      ((t.update k f hf).select fun s => key s ≠ k).filter p := by
    unfold select
    rw [List.filter_filter]
    apply List.filter_congr
    intro s hs
    obtain ⟨r, hr, rfl⟩ := mem_update.mp hs
    split
    · rename_i hkey
      rw [hout r hr hkey, Bool.false_and]
    · rename_i hkey
      rw [decide_eq_true hkey, Bool.and_true]
  rw [hrest, SameElsewhere.update]
  unfold select
  rw [List.filter_comm]

/-- An update that takes its row out of a selection makes the selection shorter. -/
theorem length_select_update_lt {f : ρ → ρ} {hf : ∀ r, key (f r) = key r} {r : ρ} (hr : r ∈ t)
    (hp : p r = true) (hout : p (f r) = false) :
    ((t.update (key r) f hf).select p).length < (t.select p).length := by
  have hsplit : (t.update (key r) f hf).select p =
      (t.select p).filter fun s => key s ≠ key r := by
    refine select_update_out (fun s hs hkey => ?_) hf
    rw [eq_of_key_eq hs hr hkey]
    exact hout
  rw [hsplit, List.length_filter_lt_length_iff_exists]
  exact ⟨r, mem_select.mpr ⟨hr, hp⟩, by simp⟩

omit [DecidableEq κ] in
/-- Appended rows outside a selection do not change it. -/
theorem select_append {added : List ρ} (h : t'.rows = t.rows ++ added)
    (hadded : ∀ r ∈ added, p r = false) : t'.select p = t.select p := by
  unfold select
  rw [h, List.filter_append, List.append_right_eq_self, List.filter_eq_nil_iff]
  intro r hr
  rw [hadded r hr]
  exact Bool.false_ne_true

theorem select_insert?_append {r : ρ} (h : t.insert? r = some t') (hp : p r = true) :
    t'.select p = t.select p ++ [r] := by
  unfold select
  rw [rows_insert? h, List.filter_append, List.filter_cons_of_pos hp, List.filter_nil]

theorem select_insert? {r : ρ} (h : t.insert? r = some t') (hp : p r = false) :
    t'.select p = t.select p := by
  refine select_append (rows_insert? h) fun s hs => ?_
  rw [List.mem_singleton.mp hs]
  exact hp

end Select

end Table
