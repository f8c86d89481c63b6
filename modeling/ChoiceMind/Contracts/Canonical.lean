import Mathlib.Data.Nat.Digits.Defs
import Mathlib.Data.Nat.Pairing
import Mathlib.Data.Rat.Cast.Order
import Mathlib.Logic.Encodable.Basic
import ChoiceMind.Foundation.Json
import ChoiceMind.Contracts.Decision

/-!
# The canonical text of a command

`canonicalize` sorts the keys of every object by code units. Two commands have one
canonical text exactly when they are the same JSON value up to the order of keys.
-/

namespace ChoiceMind.Contracts

set_option autoImplicit false

section CodeUnits

theorem lexicographicLe_total (as bs : List Nat) :
    lexicographicLe as bs = true ∨ lexicographicLe bs as = true := by
  induction as generalizing bs with
  | nil => exact .inl rfl
  | cons a as ih =>
    cases bs with
    | nil => exact .inr rfl
    | cons b bs =>
      simp only [lexicographicLe, Bool.or_eq_true, Bool.and_eq_true, decide_eq_true_eq]
      rcases lt_trichotomy a b with hlt | rfl | hgt
      · exact .inl (.inl hlt)
      · rcases ih bs with hle | hle
        · exact .inl (.inr ⟨rfl, hle⟩)
        · exact .inr (.inr ⟨rfl, hle⟩)
      · exact .inr (.inl hgt)

theorem lexicographicLe_trans {as bs cs : List Nat} (h : lexicographicLe as bs = true)
    (h' : lexicographicLe bs cs = true) : lexicographicLe as cs = true := by
  induction as generalizing bs cs with
  | nil => rfl
  | cons a as ih =>
    cases bs with
    | nil => cases h
    | cons b bs =>
      cases cs with
      | nil => cases h'
      | cons c cs =>
        simp only [lexicographicLe, Bool.or_eq_true, Bool.and_eq_true, decide_eq_true_eq] at h h' ⊢
        rcases h with hab | ⟨rfl, hle⟩
        · rcases h' with hbc | ⟨rfl, -⟩
          · exact .inl (by omega)
          · exact .inl hab
        · rcases h' with hbc | ⟨rfl, hle'⟩
          · exact .inl hbc
          · exact .inr ⟨rfl, ih hle hle'⟩

theorem lexicographicLe_antisymm {as bs : List Nat} (h : lexicographicLe as bs = true)
    (h' : lexicographicLe bs as = true) : as = bs := by
  induction as generalizing bs with
  | nil =>
    cases bs with
    | nil => rfl
    | cons b bs => cases h'
  | cons a as ih =>
    cases bs with
    | nil => cases h
    | cons b bs =>
      simp only [lexicographicLe, Bool.or_eq_true, Bool.and_eq_true, decide_eq_true_eq] at h h'
      rcases h with hab | ⟨rfl, hle⟩
      · omega
      · rcases h' with hba | ⟨-, hle'⟩
        · omega
        · rw [ih hle hle']

/-- The code units of a character say where it ends. -/
theorem charCodeUnits_injective {c d : Char} {r r' : List Nat}
    (h : charCodeUnits c ++ r = charCodeUnits d ++ r') : c = d ∧ r = r' := by
  have hc : c.toNat < 0xd800 ∨ 0xdfff < c.toNat ∧ c.toNat < 0x110000 := c.valid
  have hd : d.toNat < 0xd800 ∨ 0xdfff < d.toNat ∧ d.toNat < 0x110000 := d.valid
  unfold charCodeUnits at h
  split at h <;> split at h <;>
    simp only [List.cons_append, List.nil_append, List.cons.injEq] at h
  · exact ⟨Char.ext (UInt32.toNat_inj.mp h.1), h.2⟩
  · omega
  · omega
  · exact ⟨Char.ext (UInt32.toNat_inj.mp (by change c.toNat = d.toNat; omega)), h.2.2⟩

theorem charCodeUnits_ne_nil (c : Char) : charCodeUnits c ≠ [] := by
  unfold charCodeUnits
  split <;> exact List.cons_ne_nil _ _

theorem codeUnits_injective {a b : String} (h : codeUnits a = codeUnits b) : a = b := by
  have hchars : ∀ cs ds : List Char,
      cs.flatMap charCodeUnits = ds.flatMap charCodeUnits → cs = ds := by
    intro cs
    induction cs with
    | nil =>
      intro ds h
      cases ds with
      | nil => rfl
      | cons d ds => simp [charCodeUnits_ne_nil] at h
    | cons c cs ih =>
      intro ds h
      cases ds with
      | nil => simp [charCodeUnits_ne_nil] at h
      | cons d ds =>
        rw [List.flatMap_cons, List.flatMap_cons] at h
        obtain ⟨rfl, hrest⟩ := charCodeUnits_injective h
        rw [ih ds hrest]
  exact String.toList_inj.mp (hchars a.toList b.toList h)

theorem keyOrder_codeUnitsLe : Json.KeyOrder codeUnitsLe where
  total _ _ := lexicographicLe_total _ _
  trans _ _ _ := lexicographicLe_trans
  antisymm _ _ h h' := codeUnits_injective (lexicographicLe_antisymm h h')

end CodeUnits

section ToJson

def ConstraintOperator.toJson : ConstraintOperator → Json Rat
  | .atLeast => .string "AT_LEAST"
  | .atMost => .string "AT_MOST"
  | .equals => .string "EQUALS"

def Quantity.toJson (quantity : Quantity) : Json Rat :=
  .object [("amount", .number quantity.amount), ("unit", .string quantity.unit)]

def RequirementConstraint.toJson (constraint : RequirementConstraint) : Json Rat :=
  .object
    [("key", .string constraint.key),
     ("operator", constraint.operator.toJson),
     ("value", constraint.value.toJson)]

def Budget.toJson (budget : Budget) : Json Rat :=
  .object
    [("confirmed", .bool budget.confirmed),
     ("currency", .string "CNY"),
     ("hard", .bool budget.hard),
     ("maxAmountMinor", .number budget.maxAmountMinor)]

def textsToJson (texts : List String) : Json Rat := .array (texts.map Json.string)

/-- A requirement revision; an absent budget is no field. -/
def RequirementRevision.toJson (requirement : RequirementRevision) : Json Rat :=
  .object <|
    [("contractType", .string "requirement-revision"),
     ("contractVersion", .string "1.0"),
     ("requirementRevisionId", .string requirement.requirementRevisionId),
     ("decisionTaskId", .string requirement.decisionTaskId),
     ("revision", .number requirement.revision),
     ("submittedText", .string requirement.submittedText),
     ("market", .object
       [("country", .string "CN"), ("currency", .string "CNY"), ("locale", .string "zh-CN")]),
     ("intendedUses", textsToJson requirement.intendedUses),
     ("mustHaves", .array (requirement.mustHaves.map RequirementConstraint.toJson)),
     ("niceToHaves", textsToJson requirement.niceToHaves),
     ("mustNotHaves", textsToJson requirement.mustNotHaves),
     ("unknowns", textsToJson requirement.unknowns)] ++
    (requirement.budget.map fun budget => ("budget", budget.toJson)).toList

def ExecuteDecisionTaskCommand.toJson (command : ExecuteDecisionTaskCommand) : Json Rat :=
  .object
    [("contractType", .string "execute-decision-task-command"),
     ("contractVersion", .string "1.0"),
     ("executionRequestId", .string command.executionRequestId),
     ("requirementRevision", command.requirementRevision.toJson)]

open Json

theorem operator_same_iff {a b : ConstraintOperator} : Same a.toJson b.toJson ↔ a = b := by
  cases a <;> cases b <;> simp [ConstraintOperator.toJson]

theorem quantity_same_iff {a b : Quantity} : Same a.toJson b.toJson ↔ a = b := by
  cases a
  cases b
  simp [Quantity.toJson]

theorem constraint_same_iff {a b : RequirementConstraint} : Same a.toJson b.toJson ↔ a = b := by
  cases a
  cases b
  simp [RequirementConstraint.toJson, operator_same_iff, quantity_same_iff]

theorem budget_same_iff {a b : Budget} : Same a.toJson b.toJson ↔ a = b := by
  cases a
  cases b
  simp [Budget.toJson]

theorem sameItems_map_iff {α : Type} {f : α → Json Rat} (hf : ∀ a b, Same (f a) (f b) ↔ a = b)
    {xs ys : List α} : SameItems (xs.map f) (ys.map f) ↔ xs = ys := by
  induction xs generalizing ys with
  | nil => cases ys <;> simp [SameItems]
  | cons x xs ih => cases ys <;> simp [SameItems, hf, ih]

theorem texts_same_iff {a b : List String} : Same (textsToJson a) (textsToJson b) ↔ a = b := by
  unfold textsToJson
  rw [same_array]
  exact sameItems_map_iff fun _ _ => same_string

theorem constraints_same_iff {a b : List RequirementConstraint} :
    SameItems (a.map RequirementConstraint.toJson) (b.map RequirementConstraint.toJson) ↔ a = b :=
  sameItems_map_iff fun _ _ => constraint_same_iff

theorem requirement_same_iff {a b : RequirementRevision} : Same a.toJson b.toJson ↔ a = b := by
  obtain ⟨_, _, _, _, _, budget, _, _, _, _⟩ := a
  obtain ⟨_, _, _, _, _, budget', _, _, _, _⟩ := b
  cases budget <;> cases budget' <;>
    simp [RequirementRevision.toJson, texts_same_iff, constraints_same_iff, budget_same_iff]
  -- the budget is the last field of the object and stands in the middle of the record
  tauto

/-- The JSON value of a command determines it. -/
theorem command_same_iff {a b : ExecuteDecisionTaskCommand} : Same a.toJson b.toJson ↔ a = b := by
  cases a
  cases b
  simp [ExecuteDecisionTaskCommand.toJson, requirement_same_iff]

theorem distinctItems_map {α : Type} {f : α → Json Rat} (hf : ∀ a, Distinct (f a)) (xs : List α) :
    DistinctItems (xs.map f) := by
  induction xs with
  | nil => simp [DistinctItems]
  | cons x xs ih => exact ⟨hf x, ih⟩

theorem distinct_constraint (constraint : RequirementConstraint) : Distinct constraint.toJson := by
  cases hoperator : constraint.operator <;>
    simp [RequirementConstraint.toJson, hoperator, ConstraintOperator.toJson, Quantity.toJson,
      Distinct, DistinctFields]

theorem distinct_texts (texts : List String) : Distinct (textsToJson texts) :=
  distinctItems_map (fun _ => distinct_string) texts

theorem distinct_constraints (constraints : List RequirementConstraint) :
    DistinctItems (constraints.map RequirementConstraint.toJson) :=
  distinctItems_map distinct_constraint constraints

theorem distinct_command (command : ExecuteDecisionTaskCommand) : Distinct command.toJson := by
  cases hbudget : command.requirementRevision.budget <;>
    simp [ExecuteDecisionTaskCommand.toJson, RequirementRevision.toJson, hbudget, Budget.toJson,
      Distinct, DistinctFields, distinct_texts, distinct_constraints]

end ToJson

open Json

/-! ### Decimal texts -/

section Decimal

def decimal (n : Nat) : List Char :=
  if n = 0 then ['0'] else ((Nat.digits 10 n).map Nat.digitChar).reverse

theorem digitChar_injOn {a b : Nat} (ha : a < 10) (hb : b < 10)
    (h : Nat.digitChar a = Nat.digitChar b) : a = b := by
  have hvalue := congrArg Char.toNat h
  rw [Nat.toNat_digitChar_of_lt_ten ha, Nat.toNat_digitChar_of_lt_ten hb] at hvalue
  omega

theorem mem_digits_lt {n d : Nat} (h : d ∈ Nat.digits 10 n) : d < 10 :=
  Nat.digits_lt_base (by decide) h

theorem digitChar_mem {d : Nat} (h : d < 10) : Nat.digitChar d ∈ numberChars ∧
    Nat.digitChar d ≠ '-' := by
  revert d
  decide

theorem decimal_chars (n : Nat) : ∀ c ∈ decimal n, c ∈ numberChars ∧ c ≠ '-' := by
  intro c hc
  unfold decimal at hc
  split at hc
  · rw [List.mem_singleton.mp hc]
    decide
  · obtain ⟨d, hd, rfl⟩ := List.mem_map.mp (List.mem_reverse.mp hc)
    exact digitChar_mem (mem_digits_lt hd)

theorem decimal_ne_nil (n : Nat) : decimal n ≠ [] := by
  unfold decimal
  split
  · exact List.cons_ne_nil _ _
  · rename_i hn
    simpa [Nat.digits_eq_nil_iff_eq_zero] using hn

theorem decimal_injective : Function.Injective decimal := by
  -- every decimal text comes from a list of digits, zero from the list `[0]`
  have hdigits : ∀ n, ∃ ds : List Nat, (∀ d ∈ ds, d < 10) ∧ Nat.ofDigits 10 ds = n ∧
      decimal n = (ds.map Nat.digitChar).reverse := by
    intro n
    unfold decimal
    split
    · rename_i hn
      exact ⟨[0], by simp, by simp [hn], rfl⟩
    · exact ⟨_, fun d hd => mem_digits_lt hd, Nat.ofDigits_digits 10 n, rfl⟩
  intro n m h
  obtain ⟨ds, hds, rfl, hn⟩ := hdigits n
  obtain ⟨es, hes, rfl, hm⟩ := hdigits m
  rw [hn, hm, List.reverse_inj] at h
  have hsame : ds = es := by
    clear hn hm
    induction ds generalizing es with
    | nil => simpa using h
    | cons d ds ih =>
      cases es with
      | nil => simp at h
      | cons e es =>
        simp only [List.map_cons, List.cons.injEq] at h
        have hhead := digitChar_injOn (hds d List.mem_cons_self) (hes e List.mem_cons_self) h.1
        have htail := ih (fun x hx => hds x (List.mem_cons_of_mem _ hx)) es
          (fun x hx => hes x (List.mem_cons_of_mem _ hx)) h.2
        rw [hhead, htail]
  rw [hsame]

/-- Natural numbers in decimal; the other numbers by their place in an enumeration. -/
def naturalText : NumberText Rat where
  text q :=
    if q.den = 1 ∧ 0 ≤ q.num then decimal q.num.toNat
    else '-' :: decimal (Nat.pair (Encodable.encode q.num) q.den)
  injective := by
    have hsign : ∀ n m, decimal n ≠ '-' :: decimal m := by
      intro n m h
      exact (decimal_chars n '-' (h ▸ List.mem_cons_self)).2 rfl
    intro p q h
    simp only at h
    split at h <;> split at h
    · rename_i hp hq
      have hnum := decimal_injective h
      exact Rat.ext (by omega) (hp.1.trans hq.1.symm)
    · exact absurd h (hsign _ _)
    · exact absurd h.symm (hsign _ _)
    · obtain ⟨hnum, hden⟩ := Nat.pair_eq_pair.mp (decimal_injective (List.cons.inj h).2)
      exact Rat.ext (Encodable.encode_injective hnum) hden
  nonempty q := by
    split
    · exact decimal_ne_nil _
    · exact List.cons_ne_nil _ _
  chars q c hc := by
    split at hc
    · exact (decimal_chars _ c hc).1
    · rcases List.mem_cons.mp hc with rfl | hc
      · decide
      · exact (decimal_chars _ c hc).1

end Decimal

/-- `canonicalize`, given the texts of the numbers -/
def canonicalize (num : Json.NumberText Rat) (value : Json Rat) : String :=
  String.ofList (Json.canonicalText num codeUnitsLe value)

theorem canonicalize_eq_iff {num : Json.NumberText Rat} {j k : Json Rat} (hj : j.Distinct)
    (hk : k.Distinct) : canonicalize num j = canonicalize num k ↔ j.Same k := by
  rw [← Json.canonicalText_eq_iff keyOrder_codeUnitsLe hj hk]
  exact String.ofList_inj

end ChoiceMind.Contracts
