import ChoiceMind.Contracts.Canonical
import ChoiceMind.Contracts.VersionGate

/-!
# Schemas

A schema reads a value of the language and returns what it read, and it writes what it can
read. A stable schema reads back what it writes of anything that it has read.
-/

set_option autoImplicit false

universe u v w

namespace ChoiceMind.Contracts

open CodeUnits

variable {ν : Type u} {α : Type v} {β : Type w}

/-- `undefined` where there is no such member -/
def lookup (entries : List (CodeUnits × JsValue ν)) (key : CodeUnits) : JsValue ν :=
  (getMember entries key).getD .undefined

theorem map_val_encodeChar (c : Char) : (encodeChar c).map Fin.val = charCodeUnits c := by
  have hc : c.toNat < 0xd800 ∨ 0xdfff < c.toNat ∧ c.toNat < 0x110000 := c.valid
  unfold encodeChar charCodeUnits
  split
  · simp only [List.map_cons, List.map_nil, unit, Fin.ofNat]
    rw [Nat.mod_eq_of_lt (by omega)]
  · simp only [List.map_cons, List.map_nil, Fin.ofNat]
    rw [Nat.mod_eq_of_lt (by omega), Nat.mod_eq_of_lt (by omega)]

theorem ofString_injective {a b : String} (h : ofString a = ofString b) : a = b := by
  have hunits : ∀ s : String, (ofString s).map Fin.val = codeUnits s := by
    intro s
    rw [ofString, codeUnits, List.map_flatMap]
    exact List.flatMap_congr fun c _ => map_val_encodeChar c
  apply codeUnits_injective
  rw [← hunits, ← hunits, h]

@[simp] theorem lookup_nil (key : CodeUnits) :
    lookup ([] : List (CodeUnits × JsValue ν)) key = .undefined := rfl

@[simp] theorem lookup_cons_self (key : CodeUnits) (value : JsValue ν)
    (entries : List (CodeUnits × JsValue ν)) : lookup ((key, value) :: entries) key = value := by
  simp [lookup, getMember]

theorem lookup_cons_of_ne {key other : CodeUnits} (h : other ≠ key) (value : JsValue ν)
    (entries : List (CodeUnits × JsValue ν)) :
    lookup ((other, value) :: entries) key = lookup entries key := by
  simp [lookup, getMember, h]

/-- A record of named members. -/
def record (fields : List (String × JsValue ν)) : JsValue ν :=
  .object (fields.map fun field => (ofString field.1, field.2))

/-- A member of a value that can be a record. -/
def memberOf (value : JsValue ν) (key : String) : JsValue ν :=
  match value with
  | .object fields => lookup fields (ofString key)
  | _ => .undefined

theorem lookup_record (fields : List (String × JsValue ν)) (key : String) :
    lookup (fields.map fun field => (ofString field.1, field.2)) (ofString key) =
      memberOf (record fields) key := rfl

@[simp] theorem memberOf_record_self (key : String) (value : JsValue ν)
    (fields : List (String × JsValue ν)) :
    memberOf (record ((key, value) :: fields)) key = value :=
  lookup_cons_self (ofString key) value _

theorem memberOf_record_of_ne {key other : String} (h : other ≠ key) (value : JsValue ν)
    (fields : List (String × JsValue ν)) :
    memberOf (record ((other, value) :: fields)) key = memberOf (record fields) key :=
  lookup_cons_of_ne (fun heq => h (ofString_injective heq)) value _

structure Schema (ν : Type u) (α : Type v) where
  parse : JsValue ν → Option α
  value : α → JsValue ν

namespace Schema

def Stable (schema : Schema ν α) : Prop :=
  ∀ input a, schema.parse input = some a → schema.parse (schema.value a) = some a

/-! ### Scalars -/

/-- `z.literal(text)` -/
def literal (text : String) : Schema ν Unit where
  parse
    | .scalar (.string units) => if units = ofString text then some () else none
    | _ => none
  value _ := .scalar (.string (ofString text))

/-- `z.literal(flag)` -/
def flag (expected : Bool) : Schema ν Unit where
  parse
    | .scalar (.bool value) => if value = expected then some () else none
    | _ => none
  value _ := .scalar (.bool expected)

/-- `z.string()` with a refinement -/
def text (admits : CodeUnits → Bool) : Schema ν CodeUnits where
  parse
    | .scalar (.string units) => if admits units then some units else none
    | _ => none
  value units := .scalar (.string units)

/-- `z.enum(texts)` -/
def choice (texts : List (String × α)) (textOf : α → String) : Schema ν α where
  parse
    | .scalar (.string units) =>
      (texts.find? fun option => ofString option.1 = units).map Prod.snd
    | _ => none
  value a := .scalar (.string (ofString (textOf a)))

/-- `z.boolean()` -/
def bool : Schema ν Bool where
  parse
    | .scalar (.bool value) => some value
    | _ => none
  value value := .scalar (.bool value)

/-- `z.number()` with what a number is read as -/
def number (read : ν → Option α) (write : α → ν) : Schema ν α where
  parse
    | .scalar (.number number) => read number
    | _ => none
  value a := .scalar (.number (write a))

theorem literal_value (expected : String) :
    (literal expected : Schema ν Unit).parse (.scalar (.string (ofString expected))) = some () :=
  if_pos rfl

theorem flag_value (expected : Bool) :
    (flag expected : Schema ν Unit).parse (.scalar (.bool expected)) = some () :=
  if_pos rfl

theorem stable_literal (expected : String) : (literal expected : Schema ν Unit).Stable :=
  fun _ _ _ => literal_value expected

theorem stable_flag (expected : Bool) : (flag expected : Schema ν Unit).Stable :=
  fun _ _ _ => flag_value expected

theorem text_parse {admits : CodeUnits → Bool} {input : JsValue ν} {units : CodeUnits}
    (h : (text admits).parse input = some units) :
    input = .scalar (.string units) ∧ admits units = true := by
  simp only [text] at h
  split at h
  · split at h
    · rename_i hadmits
      cases h
      exact ⟨rfl, hadmits⟩
    · cases h
  · cases h

theorem stable_text (admits : CodeUnits → Bool) : (text admits : Schema ν CodeUnits).Stable := by
  intro input units h
  exact if_pos (text_parse h).2

theorem stable_choice {texts : List (String × α)} {textOf : α → String}
    (htexts : ∀ option ∈ texts, textOf option.2 = option.1) :
    (choice texts textOf : Schema ν α).Stable := by
  intro input a h
  simp only [choice] at h
  split at h
  · obtain ⟨option, hfound, rfl⟩ := Option.map_eq_some_iff.mp h
    have hunits := List.find?_some hfound
    rw [decide_eq_true_eq] at hunits
    simp only [choice]
    rw [htexts option (List.mem_of_find?_eq_some hfound), hunits, hfound]
    rfl
  · cases h

theorem stable_bool : (bool : Schema ν Bool).Stable := by
  intro _ _ _
  rfl

theorem number_parse {read : ν → Option α} {write : α → ν} {input : JsValue ν} {a : α}
    (h : (number read write).parse input = some a) :
    ∃ n, input = .scalar (.number n) ∧ read n = some a := by
  simp only [number] at h
  split at h
  · exact ⟨_, rfl, h⟩
  · cases h

theorem stable_number {read : ν → Option α} {write : α → ν}
    (hread : ∀ n a, read n = some a → read (write a) = some a) :
    (number read write : Schema ν α).Stable := by
  intro input a h
  obtain ⟨n, -, hn⟩ := number_parse h
  exact hread n a hn

/-! ### Arrays -/

/-- `z.array(item)` -/
def array (item : Schema ν α) : Schema ν (List α) where
  parse
    | .array items => items.mapM item.parse
    | _ => none
  value values := .array (values.map item.value)

theorem array_parse {item : Schema ν α} {input : JsValue ν} {values : List α}
    (h : item.array.parse input = some values) :
    ∃ items, input = .array items ∧ items.map item.parse = values.map some := by
  simp only [array] at h
  split at h
  · rename_i items
    refine ⟨items, rfl, ?_⟩
    induction items generalizing values with
    | nil =>
      cases h
      rfl
    | cons first items ih =>
      rw [List.mapM_cons] at h
      obtain ⟨a, ha, h⟩ := Option.bind_eq_some_iff.mp h
      obtain ⟨rest, hrest, h⟩ := Option.bind_eq_some_iff.mp h
      cases h
      rw [List.map_cons, List.map_cons, ha, ih hrest]
  · cases h

theorem parse_array {item : Schema ν α} {items : List (JsValue ν)} {values : List α}
    (h : items.map item.parse = values.map some) :
    item.array.parse (.array items) = some values := by
  show items.mapM item.parse = some values
  induction items generalizing values with
  | nil =>
    cases values with
    | nil => rfl
    | cons => cases h
  | cons first items ih =>
    cases values with
    | nil => cases h
    | cons a values =>
      obtain ⟨ha, hrest⟩ := List.cons.inj h
      rw [List.mapM_cons, ha, ih hrest]
      rfl

theorem Stable.array {item : Schema ν α} (h : item.Stable) : item.array.Stable := by
  intro input values hparse
  obtain ⟨items, -, hitems⟩ := array_parse hparse
  apply parse_array
  rw [List.map_map]
  apply List.map_congr_left
  intro a ha
  have hin : some a ∈ items.map item.parse := by
    rw [hitems]
    exact List.mem_map_of_mem ha
  obtain ⟨first, -, hfirst⟩ := List.mem_map.mp hin
  exact h first a hfirst

/-! ### Refinements and other forms of what is read -/

/-- `schema.refine(admits)` -/
def refine (schema : Schema ν α) (admits : α → Bool) : Schema ν α where
  parse input := (schema.parse input).filter admits
  value := schema.value

theorem Stable.refine {schema : Schema ν α} (h : schema.Stable) (admits : α → Bool) :
    (schema.refine admits).Stable := by
  intro input a hparse
  obtain ⟨hread, hadmits⟩ := Option.filter_eq_some_iff.mp hparse
  exact Option.filter_eq_some_iff.mpr ⟨h input a hread, hadmits⟩

/-- What is read in another form. -/
def convert (schema : Schema ν α) (into : α → β) (back : β → α) : Schema ν β where
  parse input := (schema.parse input).map into
  value b := schema.value (back b)

theorem Stable.convert {schema : Schema ν α} (h : schema.Stable) {into : α → β} {back : β → α}
    (hback : ∀ a, back (into a) = a) : (schema.convert into back).Stable := by
  intro input b hparse
  obtain ⟨a, ha, rfl⟩ := Option.map_eq_some_iff.mp hparse
  show (schema.parse (schema.value (back (into a)))).map into = _
  rw [hback, h input a ha]
  rfl

/-- `schema.optional()` -/
def optional (schema : Schema ν α) : Schema ν (Option α) where
  parse
    | .undefined => some none
    | input => (schema.parse input).map some
  value
    | none => .undefined
    | some a => schema.value a

theorem Stable.optional {schema : Schema ν α} (h : schema.Stable)
    (hdefined : ∀ a, schema.value a ≠ .undefined) : schema.optional.Stable := by
  intro input a hparse
  cases a with
  | none => rfl
  | some a =>
    have hread : schema.parse input = some a := by
      simp only [Schema.optional] at hparse
      split at hparse
      · cases hparse
      · obtain ⟨b, hb, heq⟩ := Option.map_eq_some_iff.mp hparse
        cases heq
        exact hb
    simp only [Schema.optional]
    split
    · rename_i hundefined
      exact absurd hundefined (hdefined a)
    · rw [h input a hread]
      rfl

end Schema

/-! ### Records -/

/-- The members of a record and what they are read as. -/
structure Members (ν : Type u) (α : Type v) where
  keys : List CodeUnits
  parse : (CodeUnits → JsValue ν) → Option α
  entries : α → List (CodeUnits × JsValue ν)

namespace Members

structure Stable (members : Members ν α) : Prop where
  keys : ∀ a, ∀ entry ∈ members.entries a, entry.1 ∈ members.keys
  congr : ∀ f g, (∀ key ∈ members.keys, f key = g key) → members.parse f = members.parse g
  entries : ∀ f a, members.parse f = some a → members.parse (lookup (members.entries a)) = some a

def none : Members ν Unit where
  keys := []
  parse _ := some ()
  entries _ := []

def member (key : String) (schema : Schema ν α) (rest : Members ν β) : Members ν (α × β) where
  keys := ofString key :: rest.keys
  parse f := (schema.parse (f (ofString key))).bind fun a => (rest.parse f).map fun b => (a, b)
  entries values := (ofString key, schema.value values.1) :: rest.entries values.2

theorem stable_none : (none : Members ν Unit).Stable := by
  refine ⟨?_, fun _ _ _ => rfl, fun _ _ _ => rfl⟩
  intro _ entry hentry
  cases hentry

theorem member_parse {key : String} {schema : Schema ν α} {rest : Members ν β}
    {f : CodeUnits → JsValue ν} {values : α × β} :
    (member key schema rest).parse f = some values ↔
      schema.parse (f (ofString key)) = some values.1 ∧ rest.parse f = some values.2 := by
  simp only [member]
  constructor
  · intro h
    obtain ⟨a, ha, h⟩ := Option.bind_eq_some_iff.mp h
    obtain ⟨b, hb, h⟩ := Option.map_eq_some_iff.mp h
    cases h
    exact ⟨ha, hb⟩
  · rintro ⟨ha, hb⟩
    rw [ha, Option.bind_some, hb, Option.map_some]

/-- A member is read back from what is written of it and of the rest. -/
theorem Stable.reads_member {key : String} {schema : Schema ν α} {rest : Members ν β}
    (hrest : rest.Stable) (hkey : ofString key ∉ rest.keys) {a : α} {b : β}
    (ha : schema.parse (schema.value a) = some a)
    (hb : rest.parse (lookup (rest.entries b)) = some b) :
    (Members.member key schema rest).parse
      (lookup ((Members.member key schema rest).entries (a, b))) = some (a, b) := by
  refine member_parse.mpr ⟨?_, ?_⟩
  · show schema.parse (lookup ((ofString key, schema.value a) :: _) _) = _
    rw [lookup_cons_self]
    exact ha
  · rw [← hb]
    apply hrest.congr
    intro other hother
    apply lookup_cons_of_ne
    rintro rfl
    exact hkey hother

theorem Stable.member {key : String} {schema : Schema ν α} {rest : Members ν β}
    (hrest : rest.Stable) (h : schema.Stable) (hkey : ofString key ∉ rest.keys) :
    (member key schema rest).Stable := by
  refine ⟨?_, ?_, ?_⟩
  · intro values entry hentry
    rcases List.mem_cons.mp hentry with rfl | hlater
    · exact List.mem_cons_self
    · exact List.mem_cons_of_mem _ (hrest.keys _ entry hlater)
  · intro f g hsame
    have hfirst := hsame _ List.mem_cons_self
    have hlater := hrest.congr f g fun other hother => hsame other (List.mem_cons_of_mem _ hother)
    simp only [Members.member, hfirst, hlater]
  · intro f values hparse
    obtain ⟨hfirst, hlater⟩ := member_parse.mp hparse
    exact hrest.reads_member hkey (h _ _ hfirst) (hrest.entries f _ hlater)

end Members

/-- `z.strictObject(members)` -/
def strictObject (members : Members ν α) : Schema ν α where
  parse
    | .object entries =>
      if entries.all fun entry => entry.1 ∈ members.keys then members.parse (lookup entries)
      else none
    | _ => none
  value a := .object (members.entries a)

theorem strictObject_parse {members : Members ν α} {input : JsValue ν} {a : α}
    (h : (strictObject members).parse input = some a) :
    ∃ entries, input = .object entries ∧ members.parse (lookup entries) = some a := by
  simp only [strictObject] at h
  split at h
  · split at h
    · exact ⟨_, rfl, h⟩
    · cases h
  · cases h

/-- A record of the named members is read by its members. -/
theorem strictObject_record {members : Members ν α} {fields : List (String × JsValue ν)}
    (h : members.keys = fields.map fun field => ofString field.1) :
    (strictObject members).parse (record fields) =
      members.parse fun key => lookup (fields.map fun field => (ofString field.1, field.2)) key := by
  apply if_pos
  rw [List.all_eq_true]
  intro entry hentry
  obtain ⟨field, hfield, rfl⟩ := List.mem_map.mp hentry
  apply decide_eq_true
  rw [h]
  exact List.mem_map_of_mem hfield

theorem Members.Stable.reads_strictObject {members : Members ν α} (h : members.Stable) {a : α}
    (ha : members.parse (lookup (members.entries a)) = some a) :
    (Contracts.strictObject members).parse ((Contracts.strictObject members).value a) =
      some a := by
  have hkeys : ((members.entries a).all fun entry => entry.1 ∈ members.keys) = true := by
    rw [List.all_eq_true]
    intro entry hentry
    exact decide_eq_true (h.keys a entry hentry)
  show (if _ then _ else _) = _
  rw [if_pos hkeys]
  exact ha

theorem Members.Stable.strictObject {members : Members ν α} (h : members.Stable) :
    (Contracts.strictObject members).Stable := by
  intro input a hparse
  obtain ⟨entries, -, hmembers⟩ := strictObject_parse hparse
  exact h.reads_strictObject (h.entries _ a hmembers)

end ChoiceMind.Contracts
