import ChoiceMind.Foundation.CodeUnits
import ChoiceMind.Foundation.Document

/-!
# Canonical JSON

`canonicalizeJsonV1` and the copies of it in the persistence module and in the executor,
over the values of the language: objects can have members that are undefined.
-/

set_option autoImplicit false

universe u

namespace ChoiceMind.Contracts

open CodeUnits

variable {ν : Type u}

def numberUnits : CodeUnits :=
  [unit '0', unit '1', unit '2', unit '3', unit '4', unit '5', unit '6', unit '7', unit '8',
    unit '9', unit '+', unit '-', unit '.', unit 'e']

/-- The text of a finite number. -/
structure Numeral where
  text : CodeUnits
  nonempty : text ≠ []
  units : ∀ u ∈ text, u ∈ numberUnits

@[ext] theorem Numeral.ext {a b : Numeral} (h : a.text = b.text) : a = b := by
  cases a
  cases b
  cases h
  rfl

inductive Scalar (ν : Type u) where
  | null
  | bool (value : Bool)
  | number (value : ν)
  | string (value : CodeUnits)

/-- A value of the language that is made of JSON and `undefined`; an object is its list of
entries. -/
inductive JsValue (ν : Type u) where
  | undefined
  | scalar (value : Scalar ν)
  | array (items : List (JsValue ν))
  | object (entries : List (CodeUnits × JsValue ν))

def JsValue.isUndefined : JsValue ν → Bool
  | .undefined => true
  | _ => false

def Scalar.map {μ : Type*} (f : ν → μ) : Scalar ν → Scalar μ
  | .null => .null
  | .bool value => .bool value
  | .number value => .number (f value)
  | .string value => .string value

/-- The text of a scalar whose numbers are printed. -/
def Scalar.text : Scalar Numeral → CodeUnits
  | .null => ofString "null"
  | .bool true => ofString "true"
  | .bool false => ofString "false"
  | .number value => value.text
  | .string value => stringify value

/-- `JSON.stringify` of a scalar, given how numbers are printed -/
def Scalar.stringify (print : ν → Numeral) (scalar : Scalar ν) : CodeUnits :=
  (scalar.map print).text

def comma : CodeUnits := [unit ',']

def arrayText (texts : List CodeUnits) : CodeUnits :=
  unit '[' :: (comma.intercalate texts ++ [unit ']'])

/-- The members after `sort`, each as its key and its text. -/
def objectText (compare : CodeUnits → CodeUnits → Int) (members : List (CodeUnits × CodeUnits)) :
    CodeUnits :=
  unit '{' :: (comma.intercalate
    ((members.insertionSort fun a b => compare a.1 b.1 ≤ 0).map fun member =>
      CodeUnits.stringify member.1 ++ unit ':' :: member.2) ++ [unit '}'])

section Source
variable (print : ν → Numeral)

structure TypeError where
  message : String
  deriving DecidableEq

mutual

def canonicalizeJsonV1 : JsValue ν → Except TypeError CodeUnits
  | .array items => (canonicalizeItems items).map arrayText
  | .object entries =>
    (canonicalizeEntries entries).map
      (objectText fun left right => if left < right then -1 else if left > right then 1 else 0)
  | .scalar value => .ok (value.stringify print)
  | .undefined => .error ⟨"值不能表示为 JSON"⟩

def canonicalizeItems : List (JsValue ν) → Except TypeError (List CodeUnits)
  | [] => .ok []
  | item :: items => do
    let text ← canonicalizeJsonV1 item
    let texts ← canonicalizeItems items
    return text :: texts

/-- Members that are undefined are filtered out. -/
def canonicalizeEntries : List (CodeUnits × JsValue ν) →
    Except TypeError (List (CodeUnits × CodeUnits))
  | [] => .ok []
  | (key, item) :: entries =>
    if item.isUndefined then canonicalizeEntries entries
    else do
      let text ← canonicalizeJsonV1 item
      let members ← canonicalizeEntries entries
      return (key, text) :: members

end

section Copies
variable (compare : CodeUnits → CodeUnits → Int)

mutual

/-- A `canonicalize` that returns what `JSON.stringify` does of `undefined`; `join` writes
it as nothing and a template as its name. -/
def canonicalizeBy : JsValue ν → Option CodeUnits
  | .array items => some (arrayText (itemTexts items))
  | .object entries => some (objectText compare (memberTexts entries))
  | .scalar value => some (value.stringify print)
  | .undefined => none

def itemTexts : List (JsValue ν) → List CodeUnits
  | [] => []
  | item :: items => (canonicalizeBy item).getD [] :: itemTexts items

def memberTexts : List (CodeUnits × JsValue ν) → List (CodeUnits × CodeUnits)
  | [] => []
  | (key, item) :: entries =>
    (key, (canonicalizeBy item).getD (ofString "undefined")) :: memberTexts entries

end

end Copies

/-- `canonicalize` of the persistence module -/
def persistenceCanonicalize : JsValue ν → Option CodeUnits :=
  canonicalizeBy print fun left right => if left < right then -1 else if left > right then 1 else 0

def compareCanonicalKeys (left right : CodeUnits) : Int :=
  if left < right then -1 else if left > right then 1 else 0

/-- `canonicalize` of the executor -/
def executorCanonicalize : JsValue ν → Option CodeUnits := canonicalizeBy print compareCanonicalKeys

end Source

/-! ### JSON values -/

section Values
variable (print : ν → Numeral)

mutual

/-- The JSON value that a value stands for, its numbers as they are printed. -/
def JsValue.json : JsValue ν → Option (Document CodeUnits (Scalar Numeral))
  | .undefined => none
  | .scalar value => some (.leaf (value.map print))
  | .array items => (jsonItems items).map .array
  | .object entries => (jsonFields entries).map .object

def jsonItems : List (JsValue ν) → Option (List (Document CodeUnits (Scalar Numeral)))
  | [] => some []
  | item :: items => do
    let j ← item.json
    let js ← jsonItems items
    return j :: js

/-- A member that is undefined is absent. -/
def jsonFields : List (CodeUnits × JsValue ν) →
    Option (List (CodeUnits × Document CodeUnits (Scalar Numeral)))
  | [] => some []
  | (key, item) :: entries =>
    if item.isUndefined then jsonFields entries
    else do
      let j ← item.json
      let fields ← jsonFields entries
      return (key, j) :: fields

end

end Values

mutual

/-- Nothing in the value is undefined. -/
def JsValue.Defined : JsValue ν → Prop
  | .undefined => False
  | .scalar _ => True
  | .array items => DefinedItems items
  | .object entries => DefinedEntries entries

def DefinedItems : List (JsValue ν) → Prop
  | [] => True
  | item :: items => item.Defined ∧ DefinedItems items

def DefinedEntries : List (CodeUnits × JsValue ν) → Prop
  | [] => True
  | (_, item) :: entries => item.Defined ∧ DefinedEntries entries

end

/-! ### The layout of JSON -/

section Layout

def jsonLayout : Layout CodeUnits (Scalar Numeral) CodeUnit where
  leaf := Scalar.text
  key := CodeUnits.stringify
  openArray := unit '['
  closeArray := unit ']'
  openObject := unit '{'
  closeObject := unit '}'
  comma := unit ','
  colon := unit ':'

/-- What kind of scalar begins with this code unit. -/
def scalarKind (u : CodeUnit) : Option (Fin 4) :=
  if u = unit 'n' then some 0
  else if u = unit 't' ∨ u = unit 'f' then some 1
  else if u ∈ numberUnits then some 2
  else if u = unit '\"' then some 3
  else none

def Scalar.kind {μ : Type*} : Scalar μ → Fin 4
  | .null => 0
  | .bool _ => 1
  | .number _ => 2
  | .string _ => 3

theorem scalarKind_number {u : CodeUnit} (h : u ∈ numberUnits) : scalarKind u = some 2 := by
  have hall : numberUnits.all (fun u => scalarKind u = some 2) = true := by decide
  exact of_decide_eq_true (List.all_eq_true.mp hall u h)

theorem Scalar.text_head (a : Scalar Numeral) :
    ∃ u rest, a.text = u :: rest ∧ scalarKind u = some a.kind := by
  cases a with
  | null => exact ⟨_, _, rfl, rfl⟩
  | bool value => cases value <;> exact ⟨_, _, rfl, by decide⟩
  | number value =>
    obtain ⟨u, rest, htext⟩ := List.exists_cons_of_ne_nil value.nonempty
    exact ⟨u, rest, htext, scalarKind_number (value.units u (by simp [htext]))⟩
  | string value => exact ⟨_, _, rfl, rfl⟩

theorem not_number_of_ends {r : CodeUnits} (h : jsonLayout.Ends r) :
    ∀ u ∈ r.head?, u ∉ numberUnits := by
  intro u hu
  rcases h u hu with rfl | rfl | rfl <;> decide

/-- A number is read up to the first unit that no number has. -/
theorem takeWhile_number {xs r : CodeUnits} (hxs : ∀ u ∈ xs, u ∈ numberUnits)
    (hr : ∀ u ∈ r.head?, u ∉ numberUnits) :
    (xs ++ r).takeWhile (· ∈ numberUnits) = xs ∧ (xs ++ r).dropWhile (· ∈ numberUnits) = r := by
  induction xs with
  | nil =>
    cases r with
    | nil => exact ⟨rfl, rfl⟩
    | cons u r =>
      have hu : u ∉ numberUnits := hr u rfl
      simp [hu]
  | cons u xs ih =>
    have hu : u ∈ numberUnits := hxs u List.mem_cons_self
    obtain ⟨htake, hdrop⟩ := ih fun v hv => hxs v (List.mem_cons_of_mem _ hv)
    simp only [List.cons_append, List.takeWhile_cons, List.dropWhile_cons, hu, decide_true, if_true,
      htake, hdrop, and_self]

theorem text_injective {a b : Scalar Numeral} {r r' : CodeUnits} (hr : jsonLayout.Ends r)
    (hr' : jsonLayout.Ends r') (h : a.text ++ r = b.text ++ r') : a = b ∧ r = r' := by
  have hkind : a.kind = b.kind := by
    obtain ⟨u, rest, htext, hu⟩ := a.text_head
    obtain ⟨u', rest', htext', hu'⟩ := b.text_head
    rw [htext, htext', List.cons_append, List.cons_append, List.cons.injEq] at h
    rw [h.1, hu'] at hu
    exact (Option.some.inj hu).symm
  cases a with
  | null =>
    cases b with
    | null => exact ⟨rfl, List.append_cancel_left h⟩
    | _ => cases hkind
  | bool value =>
    cases b with
    | bool value' =>
      cases value <;> cases value'
      · exact ⟨rfl, List.append_cancel_left h⟩
      · exact absurd (List.cons.inj h).1 (by decide)
      · exact absurd (List.cons.inj h).1 (by decide)
      · exact ⟨rfl, List.append_cancel_left h⟩
    | _ => cases hkind
  | number value =>
    cases b with
    | number value' =>
      obtain ⟨htake, hdrop⟩ := takeWhile_number value.units (not_number_of_ends hr)
      obtain ⟨htake', hdrop'⟩ := takeWhile_number value'.units (not_number_of_ends hr')
      simp only [Scalar.text] at h
      rw [h] at htake hdrop
      rw [htake'] at htake
      rw [hdrop'] at hdrop
      exact ⟨congrArg Scalar.number (Numeral.ext htake.symm), hdrop.symm⟩
    | _ => cases hkind
  | string value =>
    cases b with
    | string value' =>
      obtain ⟨rfl, hrest⟩ := stringify_injective h
      exact ⟨rfl, hrest⟩
    | _ => cases hkind

theorem jsonLayout_unambiguous : jsonLayout.Unambiguous where
  leaf_inj := text_injective
  leaf_head a := by
    obtain ⟨u, rest, htext, hu⟩ := a.text_head
    refine ⟨u, rest, htext, ?_, ?_, ?_⟩
    · rintro rfl
      cases hu
    · rintro rfl
      cases hu
    · rintro rfl
      cases hu
  key_inj := stringify_injective
  key_head key := ⟨_, _, rfl, by decide⟩
  array_ne_object := by decide
  array_ne_close := by decide
  object_ne_close := by decide
  comma_ne_array := by decide
  comma_ne_object := by decide

end Layout

/-! ### Canonical texts are printed documents -/

section Canonical
variable {print : ν → Numeral}

/-- The comparison of keys is the order of their code units. -/
theorem objectText_eq {compare : CodeUnits → CodeUnits → Int}
    (hcompare : ∀ a b, compare a b ≤ 0 ↔ a ≤ b)
    (fields : List (CodeUnits × Document CodeUnits (Scalar Numeral))) :
    objectText compare (fields.map fun field => (field.1, jsonLayout.print field.2)) =
      jsonLayout.print (.object (Document.sortByKey fields)) := by
  have hsort : ∀ members : List (CodeUnits × CodeUnits),
      members.insertionSort (fun a b => compare a.1 b.1 ≤ 0) = Document.sortByKey members := by
    intro members
    have hrelation : (fun a b : CodeUnits × CodeUnits => compare a.1 b.1 ≤ 0) =
        fun a b => a.1 ≤ b.1 := by
      funext a b
      exact propext (hcompare a.1 b.1)
    unfold Document.sortByKey
    congr
  unfold objectText
  rw [hsort, Document.sortByKey_map, Layout.print_object_eq, List.map_map]
  rfl

theorem compareCanonicalKeys_nonpos (a b : CodeUnits) : compareCanonicalKeys a b ≤ 0 ↔ a ≤ b := by
  unfold compareCanonicalKeys
  split
  · rename_i hlt
    exact iff_of_true (by decide) hlt.le
  · rename_i hge
    split
    · rename_i hgt
      exact iff_of_false (by decide) (not_le.mpr hgt)
    · rename_i hle
      exact iff_of_true (le_refl _) (not_lt.mp hle)

mutual

/-- The canonical text of a value is the text of its JSON value with sorted keys. -/
theorem canonicalizeJsonV1_eq : ∀ (v : JsValue ν) {j}, v.json print = some j →
    canonicalizeJsonV1 print v = .ok (jsonLayout.print j.sortKeys)
  | .undefined, j, h => by cases h
  | .scalar value, j, h => by
    cases h
    rfl
  | .array items, j, h => by
    rw [JsValue.json, Option.map_eq_some_iff] at h
    obtain ⟨js, hjs, rfl⟩ := h
    rw [canonicalizeJsonV1, canonicalizeItems_eq items hjs, Document.sortKeys,
      Layout.print_array_eq]
    rfl
  | .object entries, j, h => by
    rw [JsValue.json, Option.map_eq_some_iff] at h
    obtain ⟨fields, hfields, rfl⟩ := h
    rw [canonicalizeJsonV1, canonicalizeEntries_eq entries hfields, Document.sortKeys,
      ← objectText_eq compareCanonicalKeys_nonpos]
    rfl

theorem canonicalizeItems_eq : ∀ (items : List (JsValue ν)) {js},
    jsonItems print items = some js →
    canonicalizeItems print items = .ok ((Document.sortItems js).map jsonLayout.print)
  | [], js, h => by
    cases h
    rfl
  | item :: items, js, h => by
    rw [jsonItems, Option.bind_eq_bind, Option.bind_eq_some_iff] at h
    obtain ⟨j, hj, hrest⟩ := h
    rw [Option.bind_eq_bind, Option.bind_eq_some_iff] at hrest
    obtain ⟨js', hjs', heq⟩ := hrest
    cases heq
    rw [canonicalizeItems, canonicalizeJsonV1_eq item hj, canonicalizeItems_eq items hjs']
    rfl

theorem canonicalizeEntries_eq : ∀ (entries : List (CodeUnits × JsValue ν)) {fields},
    jsonFields print entries = some fields →
    canonicalizeEntries print entries = .ok ((Document.sortFields fields).map fun field =>
      (field.1, jsonLayout.print field.2))
  | [], fields, h => by
    cases h
    rfl
  | (key, item) :: entries, fields, h => by
    rw [jsonFields] at h
    rw [canonicalizeEntries]
    split at h
    · rename_i hundefined
      rw [if_pos hundefined]
      exact canonicalizeEntries_eq entries h
    · rename_i hdefined
      rw [if_neg hdefined]
      rw [Option.bind_eq_bind, Option.bind_eq_some_iff] at h
      obtain ⟨j, hj, hrest⟩ := h
      rw [Option.bind_eq_bind, Option.bind_eq_some_iff] at hrest
      obtain ⟨fields', hfields', heq⟩ := hrest
      cases heq
      rw [canonicalizeJsonV1_eq item hj, canonicalizeEntries_eq entries hfields']
      rfl

end

theorem isUndefined_of_defined {v : JsValue ν} (h : v.Defined) : v.isUndefined = false := by
  cases v with
  | undefined => cases h
  | _ => rfl

mutual

/-- Without members that are undefined the copies write what `canonicalizeJsonV1` writes. -/
theorem canonicalizeBy_eq {compare : CodeUnits → CodeUnits → Int}
    (hcompare : compare = compareCanonicalKeys) : ∀ (v : JsValue ν), v.Defined →
    ∃ text, canonicalizeJsonV1 print v = .ok text ∧ canonicalizeBy print compare v = some text
  | .undefined, h => by cases h
  | .scalar value, _ => ⟨_, rfl, rfl⟩
  | .array items, h => by
    refine ⟨_, ?_, rfl⟩
    rw [canonicalizeJsonV1, itemTexts_eq hcompare items h]
    rfl
  | .object entries, h => by
    refine ⟨_, ?_, rfl⟩
    rw [canonicalizeJsonV1, memberTexts_eq hcompare entries h, hcompare]
    rfl

theorem itemTexts_eq {compare : CodeUnits → CodeUnits → Int}
    (hcompare : compare = compareCanonicalKeys) : ∀ items : List (JsValue ν), DefinedItems items →
    canonicalizeItems print items = .ok (itemTexts print compare items)
  | [], _ => rfl
  | item :: items, h => by
    obtain ⟨text, hsource, hcopy⟩ := canonicalizeBy_eq hcompare item h.1
    rw [canonicalizeItems, hsource, itemTexts_eq hcompare items h.2, itemTexts, hcopy]
    rfl

theorem memberTexts_eq {compare : CodeUnits → CodeUnits → Int}
    (hcompare : compare = compareCanonicalKeys) : ∀ entries : List (CodeUnits × JsValue ν),
    DefinedEntries entries →
    canonicalizeEntries print entries = .ok (memberTexts print compare entries)
  | [], _ => rfl
  | (key, item) :: entries, h => by
    obtain ⟨text, hsource, hcopy⟩ := canonicalizeBy_eq hcompare item h.1
    rw [canonicalizeEntries, isUndefined_of_defined h.1, if_neg Bool.false_ne_true, hsource,
      memberTexts_eq hcompare entries h.2, memberTexts, hcopy]
    rfl

end

/-- Two JSON values have one canonical text exactly when they are equal up to the order of
keys; without members that are undefined the three functions write one text. -/
theorem canonical_json_injective {a b : JsValue ν} {j k : Document CodeUnits (Scalar Numeral)}
    (ha : a.json print = some j) (hb : b.json print = some k) (hj : j.Distinct)
    (hk : k.Distinct) :
    (∃ s t, canonicalizeJsonV1 print a = .ok s ∧ canonicalizeJsonV1 print b = .ok t ∧
      (s = t ↔ j.Same k)) ∧
    (a.Defined → ∃ text, canonicalizeJsonV1 print a = .ok text ∧
      persistenceCanonicalize print a = some text ∧ executorCanonicalize print a = some text) := by
  constructor
  · exact ⟨_, _, canonicalizeJsonV1_eq a ha, canonicalizeJsonV1_eq b hb,
      jsonLayout_unambiguous.canonical_eq_iff hj hk⟩
  · intro hdefined
    obtain ⟨text, hsource, hcopy⟩ : ∃ text, canonicalizeJsonV1 print a = .ok text ∧
        canonicalizeBy print compareCanonicalKeys a = some text :=
      canonicalizeBy_eq rfl a hdefined
    exact ⟨text, hsource, hcopy, hcopy⟩

end Canonical

theorem surrogate_isLt : 0xd800 < 0x10000 := by decide

def loneSurrogate : CodeUnit := ⟨0xd800, surrogate_isLt⟩

def sampleValue (member : JsValue Numeral) : JsValue Numeral :=
  .object [([unit 'b'], .array [.scalar (.string [loneSurrogate]), .scalar (.bool true)]),
    ([unit 'a'], member)]

def sampleItems : Document CodeUnits (Scalar Numeral) :=
  .array [.leaf (.string [loneSurrogate]), .leaf (.bool true)]

theorem canonical_json_injective_sample :
    (∃ s t, canonicalizeJsonV1 id (sampleValue (.scalar .null)) = .ok s ∧
      canonicalizeJsonV1 id (sampleValue .undefined) = .ok t ∧
      (s = t ↔ Document.Same
        (.object [([unit 'b'], sampleItems), ([unit 'a'], .leaf .null)])
        (.object [([unit 'b'], sampleItems)]))) ∧
    ((sampleValue (.scalar .null)).Defined → ∃ text,
      canonicalizeJsonV1 id (sampleValue (.scalar .null)) = .ok text ∧
      persistenceCanonicalize id (sampleValue (.scalar .null)) = some text ∧
      executorCanonicalize id (sampleValue (.scalar .null)) = some text) :=
  canonical_json_injective rfl rfl
    ⟨by decide, ⟨trivial, trivial, trivial⟩, trivial, trivial⟩
    ⟨by decide, ⟨trivial, trivial, trivial⟩, trivial⟩

end ChoiceMind.Contracts
