import Mathlib.Data.List.Perm.Subperm
import Mathlib.Data.List.Sort

/-!
# JSON values and their canonical text

Two values are the same up to the order of object keys exactly when their texts with
sorted keys are equal.
-/

set_option autoImplicit false

universe u
variable {ν : Type u}

/-- A JSON value over a type of numbers. -/
inductive Json (ν : Type u) where
  | null
  | bool (value : Bool)
  | number (value : ν)
  | string (value : String)
  | array (items : List (Json ν))
  | object (fields : List (String × Json ν))

namespace Json

mutual

/-- No object has a key twice. -/
def Distinct : Json ν → Prop
  | .array items => DistinctItems items
  | .object fields => (fields.map Prod.fst).Nodup ∧ DistinctFields fields
  | _ => True

def DistinctItems : List (Json ν) → Prop
  | [] => True
  | j :: items => Distinct j ∧ DistinctItems items

def DistinctFields : List (String × Json ν) → Prop
  | [] => True
  | (_, j) :: fields => Distinct j ∧ DistinctFields fields

end

attribute [grind =] Distinct DistinctItems DistinctFields

mutual

/-- Equality up to the order of object keys. -/
def Same : Json ν → Json ν → Prop
  | .null, .null => True
  | .bool a, .bool b => a = b
  | .number a, .number b => a = b
  | .string a, .string b => a = b
  | .array xs, .array ys => SameItems xs ys
  | .object xs, .object ys => xs.length = ys.length ∧ SameFields xs ys
  | _, _ => False

def SameItems : List (Json ν) → List (Json ν) → Prop
  | [], [] => True
  | j :: xs, k :: ys => Same j k ∧ SameItems xs ys
  | _, _ => False

/-- Every field of the first list is in the second one. -/
def SameFields : List (String × Json ν) → List (String × Json ν) → Prop
  | [], _ => True
  | (key, j) :: xs, ys => (∃ k, (key, k) ∈ ys ∧ Same j k) ∧ SameFields xs ys

end

attribute [grind =] Same SameItems SameFields

section Same
variable {a b : String} {n m : ν} {p q : Bool} {j k : Json ν} {key : String}
  {xs ys : List (Json ν)} {fields fields' : List (String × Json ν)}

@[simp] theorem same_string : Same (.string a : Json ν) (.string b) ↔ a = b := by
  rw [Same]

@[simp] theorem same_number : Same (.number n) (.number m) ↔ n = m := by
  rw [Same]

@[simp] theorem same_bool : Same (.bool p : Json ν) (.bool q) ↔ p = q := by
  rw [Same]

@[simp] theorem same_array : Same (.array xs) (.array ys) ↔ SameItems xs ys := by
  rw [Same]

@[simp] theorem same_object : Same (.object fields) (.object fields') ↔
    fields.length = fields'.length ∧ SameFields fields fields' := by
  rw [Same]

@[simp] theorem sameFields_nil : SameFields [] fields := by
  rw [SameFields]
  trivial

@[simp] theorem sameFields_cons : SameFields ((key, j) :: fields) fields' ↔
    (∃ k, (key, k) ∈ fields' ∧ Same j k) ∧ SameFields fields fields' := by
  rw [SameFields]

@[simp] theorem distinct_string : Distinct (.string a : Json ν) := by
  rw [Distinct] <;> simp

@[simp] theorem distinct_number : Distinct (.number n) := by
  rw [Distinct] <;> simp

@[simp] theorem distinct_bool : Distinct (.bool p : Json ν) := by
  rw [Distinct] <;> simp

end Same

section Sorting
variable (le : String → String → Bool)

mutual

/-- The value with the fields of all objects sorted by key. -/
def sortKeys : Json ν → Json ν
  | .array items => .array (sortItems items)
  | .object fields => .object ((sortFields fields).insertionSort fun a b => le a.1 b.1)
  | .null => .null
  | .bool b => .bool b
  | .number n => .number n
  | .string s => .string s

def sortItems : List (Json ν) → List (Json ν)
  | [] => []
  | j :: items => sortKeys j :: sortItems items

def sortFields : List (String × Json ν) → List (String × Json ν)
  | [] => []
  | (key, j) :: fields => (key, sortKeys j) :: sortFields fields

end

attribute [grind =] sortKeys sortItems sortFields

variable {le}

theorem mem_sortFields {fields : List (String × Json ν)} {key : String} {j : Json ν} :
    (key, j) ∈ sortFields le fields ↔ ∃ k, (key, k) ∈ fields ∧ sortKeys le k = j := by
  induction fields with
  | nil => simp [sortFields]
  | cons field fields ih =>
    obtain ⟨other, k⟩ := field
    simp only [sortFields, List.mem_cons, Prod.mk.injEq, ih]
    constructor
    · rintro (⟨rfl, rfl⟩ | ⟨k', hk', rfl⟩)
      · exact ⟨k, .inl ⟨rfl, rfl⟩, rfl⟩
      · exact ⟨k', .inr hk', rfl⟩
    · rintro ⟨k', ⟨rfl, rfl⟩ | hk', rfl⟩
      · exact .inl ⟨rfl, rfl⟩
      · exact .inr ⟨k', hk', rfl⟩

theorem map_fst_sortFields (fields : List (String × Json ν)) :
    (sortFields le fields).map Prod.fst = fields.map Prod.fst := by
  induction fields with
  | nil => rfl
  | cons field fields ih =>
    simp only [sortFields, List.map_cons, ih]

theorem length_sortFields (fields : List (String × Json ν)) :
    (sortFields le fields).length = fields.length := by
  have h : ((sortFields le fields).map Prod.fst).length = (fields.map Prod.fst).length :=
    congrArg List.length (map_fst_sortFields fields)
  simpa using h

theorem DistinctFields.of_mem {fields : List (String × Json ν)} (h : DistinctFields fields)
    {key : String} {j : Json ν} (hj : (key, j) ∈ fields) : Distinct j := by
  induction fields with
  | nil => cases hj
  | cons field fields ih =>
    obtain ⟨other, k⟩ := field
    rcases List.mem_cons.mp hj with heq | hrest
    · cases heq
      exact h.1
    · exact ih h.2 hrest

end Sorting

/-- A total order of the keys. -/
structure KeyOrder (le : String → String → Bool) : Prop where
  total : ∀ a b, le a b = true ∨ le b a = true
  trans : ∀ a b c, le a b = true → le b c = true → le a c = true
  antisymm : ∀ a b, le a b = true → le b a = true → a = b

section Canonical
variable {le : String → String → Bool}

/-- Sorting by a key that no two elements share does not depend on the order of the list. -/
theorem insertionSort_eq_of_perm {α : Type*} (hle : KeyOrder le) {key : α → String}
    {xs ys : List α} (hkeys : (ys.map key).Nodup) (hperm : xs.Perm ys) :
    xs.insertionSort (fun a b => le (key a) (key b)) =
      ys.insertionSort (fun a b => le (key a) (key b)) := by
  have hsorted : ∀ zs : List α,
      (zs.insertionSort fun a b => le (key a) (key b)).Pairwise fun a b => le (key a) (key b) := by
    intro zs
    have htotal : Std.Total fun a b : α => le (key a) (key b) = true :=
      ⟨fun a b => hle.total (key a) (key b)⟩
    have htrans : IsTrans α fun a b => le (key a) (key b) = true :=
      ⟨fun a b c => hle.trans (key a) (key b) (key c)⟩
    exact List.pairwise_insertionSort _ zs
  refine List.Perm.eq_of_pairwise ?_ (hsorted xs) (hsorted ys)
    ((List.perm_insertionSort _ xs).trans (hperm.trans (List.perm_insertionSort _ ys).symm))
  intro a b ha hb hab hba
  have ha' : a ∈ ys := hperm.mem_iff.mp ((List.mem_insertionSort _).mp ha)
  exact List.inj_on_of_nodup_map hkeys ha' ((List.mem_insertionSort _).mp hb)
    (hle.antisymm (key a) (key b) hab hba)

/-- Sorted lists of the same fields are equal. -/
theorem insertionSort_fields_eq_iff (hle : KeyOrder le) {xs ys : List (String × Json ν)}
    (hxs : (xs.map Prod.fst).Nodup) (hys : (ys.map Prod.fst).Nodup) :
    xs.insertionSort (fun a b => le a.1 b.1) = ys.insertionSort (fun a b => le a.1 b.1) ↔
      xs.length = ys.length ∧ ∀ field ∈ xs, field ∈ ys := by
  constructor
  · intro heq
    have hperm : xs.Perm ys := (List.perm_insertionSort _ xs).symm.trans
      (heq ▸ List.perm_insertionSort _ ys)
    exact ⟨hperm.length_eq, fun field hfield => hperm.mem_iff.mp hfield⟩
  · rintro ⟨hlength, hsubset⟩
    have hperm : xs.Perm ys :=
      (List.subperm_of_subset hxs.of_map hsubset).perm_of_length_le hlength.ge
    exact insertionSort_eq_of_perm hle hys hperm

mutual

/-- Values are the same up to key order exactly when they are equal with sorted keys. -/
theorem sortKeys_eq_iff (hle : KeyOrder le) : ∀ j k : Json ν, Distinct j → Distinct k →
    (sortKeys le j = sortKeys le k ↔ Same j k)
  | .array xs, k, hj, hk => by
    cases k with
    | array ys =>
      simp only [sortKeys, array.injEq, Same]
      exact sortItems_eq_iff hle xs ys hj hk
    | _ => simp [sortKeys, Same]
  | .object xs, k, hj, hk => by
    cases k with
    | object ys =>
      simp only [sortKeys, object.injEq, Same]
      have hxs : ((sortFields le xs).map Prod.fst).Nodup := by
        rw [map_fst_sortFields]
        exact hj.1
      have hys : ((sortFields le ys).map Prod.fst).Nodup := by
        rw [map_fst_sortFields]
        exact hk.1
      rw [insertionSort_fields_eq_iff hle hxs hys, length_sortFields, length_sortFields,
        sortFields_subset_iff hle xs ys hj.2 hk.2]
    | _ => simp [sortKeys, Same]
  | .null, k, _, _ => by cases k <;> simp [sortKeys, Same]
  | .bool b, k, _, _ => by cases k <;> simp [sortKeys, Same]
  | .number n, k, _, _ => by cases k <;> simp [sortKeys, Same]
  | .string s, k, _, _ => by cases k <;> simp [sortKeys, Same]

theorem sortItems_eq_iff (hle : KeyOrder le) : ∀ xs ys : List (Json ν), DistinctItems xs →
    DistinctItems ys → (sortItems le xs = sortItems le ys ↔ SameItems xs ys)
  | [], [], _, _ => by simp [sortItems, SameItems]
  | [], _ :: _, _, _ => by simp [sortItems, SameItems]
  | _ :: _, [], _, _ => by simp [sortItems, SameItems]
  | j :: xs, k :: ys, hj, hk => by
    simp only [sortItems, List.cons.injEq, SameItems]
    rw [sortKeys_eq_iff hle j k hj.1 hk.1, sortItems_eq_iff hle xs ys hj.2 hk.2]

theorem sortFields_subset_iff (hle : KeyOrder le) : ∀ xs ys : List (String × Json ν),
    DistinctFields xs → DistinctFields ys →
    ((∀ field ∈ sortFields le xs, field ∈ sortFields le ys) ↔ SameFields xs ys)
  | [], ys, _, _ => by simp [sortFields, SameFields]
  | (key, j) :: xs, ys, hj, hk => by
    simp only [sortFields, List.forall_mem_cons, SameFields]
    rw [sortFields_subset_iff hle xs ys hj.2 hk, mem_sortFields]
    refine and_congr_left fun _ => exists_congr fun k => and_congr_right fun hmem => ?_
    rw [eq_comm, sortKeys_eq_iff hle j k hj.1 (hk.of_mem hmem)]

end

end Canonical

/-! ### Texts -/

section Text

def hexDigit (d : Nat) : Char := if d < 10 then Char.ofNat (48 + d) else Char.ofNat (87 + d)

/-- A character inside a quoted string. -/
def escape (c : Char) : List Char :=
  if c = '\x08' then ['\\', 'b']
  else if c = '\t' then ['\\', 't']
  else if c = '\n' then ['\\', 'n']
  else if c = '\x0c' then ['\\', 'f']
  else if c = '\r' then ['\\', 'r']
  else if c = '\"' ∨ c = '\\' then ['\\', c]
  else if c.toNat < 0x20 then
    ['\\', 'u', '0', '0', hexDigit (c.toNat / 16), hexDigit (c.toNat % 16)]
  else [c]

def quote (s : String) : List Char := '\"' :: (s.toList.flatMap escape ++ ['\"'])

/-- The value of the digit that `hexDigit` writes. -/
def hexValue (c : Char) : Nat := if c.toNat < 58 then c.toNat - 48 else c.toNat - 87

/-- The first character of an escaped text. -/
def unescape : List Char → Option (Char × List Char)
  | [] => none
  | '\\' :: 'b' :: rest => some ('\x08', rest)
  | '\\' :: 't' :: rest => some ('\t', rest)
  | '\\' :: 'n' :: rest => some ('\n', rest)
  | '\\' :: 'f' :: rest => some ('\x0c', rest)
  | '\\' :: 'r' :: rest => some ('\r', rest)
  | '\\' :: 'u' :: _ :: _ :: a :: b :: rest =>
    some (Char.ofNat (16 * hexValue a + hexValue b), rest)
  | '\\' :: c :: rest => some (c, rest)
  | c :: rest => if c = '\"' then none else some (c, rest)

theorem hexValue_hexDigit : ∀ d < 16, hexValue (hexDigit d) = d := by decide

theorem unescape_escape (c : Char) (rest : List Char) :
    unescape (escape c ++ rest) = some (c, rest) := by
  unfold escape
  split
  · simp_all [unescape]
  split
  · simp_all [unescape]
  split
  · simp_all [unescape]
  split
  · simp_all [unescape]
  split
  · simp_all [unescape]
  split
  · rename_i hquoted
    rcases hquoted with rfl | rfl <;> simp [unescape]
  split
  · rename_i hcontrol
    have hvalue : 16 * hexValue (hexDigit (c.toNat / 16)) + hexValue (hexDigit (c.toNat % 16)) =
        c.toNat := by
      rw [hexValue_hexDigit _ (by omega), hexValue_hexDigit _ (by omega)]
      omega
    simp only [List.cons_append, List.nil_append, unescape, hvalue, Char.ofNat_toNat]
  · rename_i hplain hcontrol
    rw [not_or] at hplain
    simp only [List.cons_append, List.nil_append]
    rw [unescape.eq_def]
    split <;> simp_all

/-- A quoted text says where it ends. -/
theorem quote_injective {s t : String} {r r' : List Char} (h : quote s ++ r = quote t ++ r') :
    s = t ∧ r = r' := by
  have hchars : ∀ cs ds : List Char,
      cs.flatMap escape ++ '\"' :: r = ds.flatMap escape ++ '\"' :: r' → cs = ds ∧ r = r' := by
    intro cs
    induction cs with
    | nil =>
      intro ds h
      cases ds with
      | nil => simpa using h
      | cons d ds =>
        have hread := congrArg unescape h
        rw [List.flatMap_cons, List.append_assoc, unescape_escape] at hread
        simp [unescape] at hread
    | cons c cs ih =>
      intro ds h
      have hread := congrArg unescape h
      rw [List.flatMap_cons, List.append_assoc, unescape_escape] at hread
      cases ds with
      | nil => simp [unescape] at hread
      | cons d ds =>
        rw [List.flatMap_cons, List.append_assoc, unescape_escape] at hread
        simp only [Option.some.injEq, Prod.mk.injEq] at hread
        obtain ⟨rfl, hrest⟩ := hread
        obtain ⟨rfl, htail⟩ := ih ds hrest
        exact ⟨rfl, htail⟩
  simp only [quote, List.cons_append, List.append_assoc, List.nil_append, List.cons.injEq,
    true_and] at h
  obtain ⟨hlists, htail⟩ := hchars s.toList t.toList h
  exact ⟨String.toList_inj.mp hlists, htail⟩

def numberChars : List Char :=
  ['0', '1', '2', '3', '4', '5', '6', '7', '8', '9', '+', '-', '.', 'e']

/-- The texts of the numbers. -/
structure NumberText (ν : Type u) where
  text : ν → List Char
  injective : Function.Injective text
  nonempty : ∀ n, text n ≠ []
  chars : ∀ n, ∀ c ∈ text n, c ∈ numberChars

variable (num : NumberText ν)

mutual

/-- The text of a value, the fields of an object in their order. -/
def print : Json ν → List Char
  | .null => ['n', 'u', 'l', 'l']
  | .bool true => ['t', 'r', 'u', 'e']
  | .bool false => ['f', 'a', 'l', 's', 'e']
  | .number n => num.text n
  | .string s => quote s
  | .array [] => ['[', ']']
  | .array (j :: items) => '[' :: (print j ++ printItems items)
  | .object [] => ['{', '}']
  | .object ((key, j) :: fields) => '{' :: (quote key ++ ':' :: (print j ++ printFields fields))

/-- The items after the first one, and the closing bracket. -/
def printItems : List (Json ν) → List Char
  | [] => [']']
  | j :: items => ',' :: (print j ++ printItems items)

def printFields : List (String × Json ν) → List Char
  | [] => ['}']
  | (key, j) :: fields => ',' :: (quote key ++ ':' :: (print j ++ printFields fields))

end

attribute [grind =] print printItems printFields

/-- A number cannot go on here. -/
def Ends (r : List Char) : Prop := ∀ c ∈ r.head?, c ∉ numberChars

theorem append_inj_of_ends {xs ys r r' : List Char} (hxs : ∀ c ∈ xs, c ∈ numberChars)
    (hys : ∀ c ∈ ys, c ∈ numberChars) (hr : Ends r) (hr' : Ends r') (h : xs ++ r = ys ++ r') :
    xs = ys ∧ r = r' := by
  induction xs generalizing ys with
  | nil =>
    cases ys with
    | nil => exact ⟨rfl, h⟩
    | cons y ys =>
      rw [List.nil_append] at h
      exact absurd (hys y List.mem_cons_self) (hr y (by simp [h]))
  | cons x xs ih =>
    cases ys with
    | nil =>
      rw [List.nil_append] at h
      exact absurd (hxs x List.mem_cons_self) (hr' x (by simp [← h]))
    | cons y ys =>
      simp only [List.cons_append, List.cons.injEq] at h
      obtain ⟨hxy, hrest⟩ := h
      obtain ⟨rfl, htail⟩ := ih (fun c hc => hxs c (List.mem_cons_of_mem _ hc))
        (fun c hc => hys c (List.mem_cons_of_mem _ hc)) hrest
      exact ⟨by rw [hxy], htail⟩

/-- The forms of values, told apart by their first characters. -/
def form : Json ν → Nat
  | .null => 0
  | .bool true => 1
  | .bool false => 2
  | .number _ => 3
  | .string _ => 4
  | .array _ => 5
  | .object _ => 6

def formOf (c : Char) : Nat :=
  if c ∈ numberChars then 3
  else if c = 'n' then 0
  else if c = 't' then 1
  else if c = 'f' then 2
  else if c = '\"' then 4
  else if c = '[' then 5
  else if c = '{' then 6
  else 7

variable {num}

theorem formOf_print (j : Json ν) (r : List Char) :
    (print num j ++ r).head?.map formOf = some (form j) := by
  cases j with
  | null => rfl
  | bool b => cases b <;> rfl
  | number n =>
    obtain ⟨c, rest, htext⟩ := List.exists_cons_of_ne_nil (num.nonempty n)
    have hc : c ∈ numberChars := num.chars n c (htext ▸ List.mem_cons_self)
    rw [print, htext]
    exact congrArg some (if_pos hc)
  | string s => rfl
  | array items => cases items <;> rfl
  | object fields => cases fields <;> rfl

theorem form_eq_of_print {j k : Json ν} {r r' : List Char}
    (h : print num j ++ r = print num k ++ r') : form j = form k := by
  have hj : (print num j ++ r).head?.map formOf = some j.form := formOf_print j r
  rw [h, formOf_print] at hj
  exact (Option.some.inj hj).symm

theorem print_ne_bracket (j : Json ν) (r r' : List Char) : print num j ++ r ≠ ']' :: r' := by
  intro h
  have hform : (print num j ++ r).head?.map formOf = some j.form := formOf_print j r
  rw [h] at hform
  cases j with
  | bool b => cases b <;> cases hform
  | _ => cases hform

theorem ends_printItems (items : List (Json ν)) (r : List Char) :
    Ends (printItems num items ++ r) := by
  cases items <;> simp [Ends, printItems, numberChars]

theorem ends_printFields (fields : List (String × Json ν)) (r : List Char) :
    Ends (printFields num fields ++ r) := by
  cases fields with
  | nil => simp [Ends, printFields, numberChars]
  | cons field fields => simp [Ends, printFields, numberChars]

mutual

/-- A text determines its value and where it ends. -/
theorem print_injective : ∀ (j k : Json ν) {r r' : List Char}, Ends r → Ends r' →
    print num j ++ r = print num k ++ r' → j = k ∧ r = r'
  | .null, k, r, r', _, _, h => by
    have hform := form_eq_of_print h
    cases k with
    | null => simpa [print] using h
    | bool b => cases b <;> cases hform
    | _ => cases hform
  | .bool true, k, r, r', _, _, h => by
    have hform := form_eq_of_print h
    cases k with
    | bool b => cases b with
      | true => simpa [print] using h
      | false => cases hform
    | _ => cases hform
  | .bool false, k, r, r', _, _, h => by
    have hform := form_eq_of_print h
    cases k with
    | bool b => cases b with
      | true => cases hform
      | false => simpa [print] using h
    | _ => cases hform
  | .number n, k, r, r', hr, hr', h => by
    have hform := form_eq_of_print h
    cases k with
    | number m =>
      obtain ⟨htext, hrest⟩ := append_inj_of_ends (num.chars n) (num.chars m) hr hr' h
      exact ⟨by rw [num.injective htext], hrest⟩
    | bool b => cases b <;> cases hform
    | _ => cases hform
  | .string s, k, r, r', _, _, h => by
    have hform := form_eq_of_print h
    cases k with
    | string t =>
      obtain ⟨rfl, hrest⟩ := quote_injective h
      exact ⟨rfl, hrest⟩
    | bool b => cases b <;> cases hform
    | _ => cases hform
  | .array [], k, r, r', _, _, h => by
    have hform := form_eq_of_print h
    cases k with
    | array ys =>
      cases ys with
      | nil => simpa [print] using h
      | cons y ys =>
        simp only [print, List.cons_append, List.append_assoc, List.cons.injEq, true_and] at h
        exact absurd h.symm (print_ne_bracket y _ _)
    | bool b => cases b <;> cases hform
    | _ => cases hform
  | .array (x :: xs), k, r, r', _, _, h => by
    have hform := form_eq_of_print h
    cases k with
    | array ys =>
      cases ys with
      | nil =>
        simp only [print, List.cons_append, List.append_assoc, List.cons.injEq, true_and] at h
        exact absurd h (print_ne_bracket x _ _)
      | cons y ys =>
        simp only [print, List.cons_append, List.append_assoc, List.cons.injEq, true_and] at h
        obtain ⟨rfl, hrest⟩ := print_injective x y (ends_printItems xs r) (ends_printItems ys r') h
        obtain ⟨rfl, htail⟩ := printItems_injective xs ys hrest
        exact ⟨rfl, htail⟩
    | bool b => cases b <;> cases hform
    | _ => cases hform
  | .object [], k, r, r', _, _, h => by
    have hform := form_eq_of_print h
    cases k with
    | object ys =>
      cases ys with
      | nil => simpa [print] using h
      | cons field ys => simp [print, quote] at h
    | bool b => cases b <;> cases hform
    | _ => cases hform
  | .object ((key, j) :: xs), k, r, r', _, _, h => by
    have hform := form_eq_of_print h
    cases k with
    | object ys =>
      cases ys with
      | nil => simp [print, quote] at h
      | cons field ys =>
        obtain ⟨key', k⟩ := field
        simp only [print, List.cons_append, List.append_assoc, List.cons.injEq, true_and] at h
        obtain ⟨rfl, hvalue⟩ := quote_injective h
        simp only [List.cons.injEq, true_and] at hvalue
        obtain ⟨rfl, hrest⟩ :=
          print_injective j k (ends_printFields xs r) (ends_printFields ys r') hvalue
        obtain ⟨rfl, htail⟩ := printFields_injective xs ys hrest
        exact ⟨rfl, htail⟩
    | bool b => cases b <;> cases hform
    | _ => cases hform

theorem printItems_injective : ∀ (xs ys : List (Json ν)) {r r' : List Char},
    printItems num xs ++ r = printItems num ys ++ r' → xs = ys ∧ r = r'
  | [], [], r, r', h => by simpa [printItems] using h
  | [], _ :: _, r, r', h => by simp [printItems] at h
  | _ :: _, [], r, r', h => by simp [printItems] at h
  | j :: xs, k :: ys, r, r', h => by
    simp only [printItems, List.cons_append, List.append_assoc, List.cons.injEq, true_and] at h
    obtain ⟨rfl, hrest⟩ := print_injective j k (ends_printItems xs r) (ends_printItems ys r') h
    obtain ⟨rfl, htail⟩ := printItems_injective xs ys hrest
    exact ⟨rfl, htail⟩

theorem printFields_injective : ∀ (xs ys : List (String × Json ν)) {r r' : List Char},
    printFields num xs ++ r = printFields num ys ++ r' → xs = ys ∧ r = r'
  | [], [], r, r', h => by simpa [printFields] using h
  | [], (_, _) :: _, r, r', h => by simp [printFields] at h
  | (_, _) :: _, [], r, r', h => by simp [printFields] at h
  | (key, j) :: xs, (key', k) :: ys, r, r', h => by
    simp only [printFields, List.cons_append, List.append_assoc, List.cons.injEq, true_and] at h
    obtain ⟨rfl, hvalue⟩ := quote_injective h
    simp only [List.cons.injEq, true_and] at hvalue
    obtain ⟨rfl, hrest⟩ :=
      print_injective j k (ends_printFields xs r) (ends_printFields ys r') hvalue
    obtain ⟨rfl, htail⟩ := printFields_injective xs ys hrest
    exact ⟨rfl, htail⟩

end

/-- The text with the fields of all objects sorted. -/
def canonicalText (num : NumberText ν) (le : String → String → Bool) (j : Json ν) : List Char :=
  print num (sortKeys le j)

/-- The canonical text tells values apart, up to the order of keys and no further. -/
theorem canonicalText_eq_iff {le : String → String → Bool} (hle : KeyOrder le) {j k : Json ν}
    (hj : Distinct j) (hk : Distinct k) :
    canonicalText num le j = canonicalText num le k ↔ Same j k := by
  rw [← sortKeys_eq_iff hle j k hj hk]
  constructor
  · intro h
    have hends : Ends [] := by simp [Ends]
    unfold canonicalText at h
    exact (print_injective _ _ hends hends (congrArg (· ++ []) h)).1
  · intro h
    unfold canonicalText
    rw [h]

end Text

end Json
