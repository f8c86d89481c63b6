import Mathlib.Data.List.DropRight
import ChoiceMind.Contracts.Canonical
import ChoiceMind.SourceResearch.Jobs

/-!
# Requirements and their updates

A turn of the user says some of the three parts of a requirement. The parts that it says
replace the earlier ones, and the missing parts decide what is asked next.
-/

namespace ChoiceMind.Conversation

set_option autoImplicit false

open Contracts
open SourceResearch (trim)

/-- What the module takes from its platform: the uuids that are drawn, how the database reads
a text as a uuid and orders texts, and the digest. -/
structure Environment where
  randomUUID : Nat → String
  randomUUID_injective : Function.Injective randomUUID
  readUuid : String → Option String
  collate : String → String → Bool
  sha256 : String → String
  numberText : Json.NumberText Rat

inductive ConversationError
  /-- CONVERSATION_INVALID -/
  | validation (message : String)
  /-- CONVERSATION_NOT_FOUND -/
  | notFound
  /-- CONVERSATION_IDEMPOTENCY_CONFLICT -/
  | idempotencyConflict (clientTurnId : String)
  /-- a session that cannot be read back -/
  | unreadable (message : String)
  /-- the database did not execute a statement -/
  | statement
  deriving DecidableEq, Repr

/-! ### Texts -/

def textLength (value : String) : Nat := (codeUnits value).length

def normalizeText (value field : String) : Except ConversationError String :=
  let normalized := trim value
  if textLength normalized = 0 ∨ textLength normalized > 2000 then
    .error (.validation (field ++ " 必须为 1–2000 个字符"))
  else .ok normalized

def assertOpaqueId (value field : String) : Except ConversationError Unit :=
  if textLength value = 0 ∨ trim value ≠ value ∨ textLength value > 200 then
    .error (.validation (field ++ " 无效"))
  else .ok ()

/-! ### Requirements -/

inductive RequirementMissingKey
  | consumptionGoal
  | primaryScenario
  | hardConstraints
  deriving DecidableEq, Repr

inductive Readiness
  | needsClarification
  | readyForResearch
  deriving DecidableEq, Repr

/-- The parts of a requirement; `none` is `null`, and in an update a part that is not said. -/
structure Requirement where
  consumptionGoal : Option String
  primaryScenario : Option String
  hardConstraints : Option (List String)
  deriving DecidableEq, Repr

abbrev RequirementUpdate := Requirement

namespace Requirement

def empty : Requirement := ⟨none, none, none⟩

def missingKeys (requirement : Requirement) : List RequirementMissingKey :=
  (if requirement.consumptionGoal = none then [.consumptionGoal] else []) ++
  (if requirement.primaryScenario = none then [.primaryScenario] else []) ++
  (if requirement.hardConstraints = none then [.hardConstraints] else [])

def readiness (requirement : Requirement) : Readiness :=
  if requirement.missingKeys.length = 0 then .readyForResearch else .needsClarification

end Requirement

/-- `update.consumptionGoal === undefined ? {} : { consumptionGoal: normalizeText(…) }` -/
def normalizeOptional {α : Type} (normalize : α → Except ConversationError α) :
    Option α → Except ConversationError (Option α)
  | none => .ok none
  | some value => do .ok (some (← normalize value))

def normalizeRequirementUpdate (update : RequirementUpdate) :
    Except ConversationError RequirementUpdate := do
  .ok
    { consumptionGoal :=
        ← normalizeOptional (fun text => normalizeText text "consumptionGoal")
          update.consumptionGoal
      primaryScenario :=
        ← normalizeOptional (fun text => normalizeText text "primaryScenario")
          update.primaryScenario
      hardConstraints :=
        ← normalizeOptional
          (fun texts => texts.mapM fun text => normalizeText text "hardConstraints")
          update.hardConstraints }

/-- `update.field === undefined ? (previous?.field ?? null) : normalize(update.field)` -/
def mergeField {α : Type} (normalize : α → Except ConversationError α) (previous : Option α) :
    Option α → Except ConversationError (Option α)
  | none => .ok previous
  | some value => do .ok (some (← normalize value))

def mergeRequirement (previous : Option Requirement) (update : RequirementUpdate) :
    Except ConversationError Requirement := do
  .ok
    { consumptionGoal :=
        ← mergeField (fun text => normalizeText text "consumptionGoal")
          (previous.bind Requirement.consumptionGoal) update.consumptionGoal
      primaryScenario :=
        ← mergeField (fun text => normalizeText text "primaryScenario")
          (previous.bind Requirement.primaryScenario) update.primaryScenario
      hardConstraints :=
        ← mergeField (fun texts => texts.mapM fun text => normalizeText text "hardConstraints")
          (previous.bind Requirement.hardConstraints) update.hardConstraints }

/-- `Object.keys(update).length > 0` -/
def hasKeys (update : RequirementUpdate) : Bool := update ≠ .empty

def requirementChanged (previous : Option Requirement) (next : Requirement) : Bool :=
  previous = none || previous ≠ some next

def clarificationMessage (missingKeys : List RequirementMissingKey) : String :=
  if .consumptionGoal ∈ missingKeys then "先告诉我，你这次想解决什么消费问题？"
  else if .primaryScenario ∈ missingKeys then
    "它主要会用在什么场景？请说最常见、最重要的使用方式。"
  else if .hardConstraints ∈ missingKeys then
    "哪些条件一旦不满足，你就不会考虑？如果没有，也可以明确告诉我没有硬性条件。"
  else "关键信息已经足够，可以开始有界研究。你仍可继续补充偏好或预算。"

/-! ### Turns -/

/-- `value ?? null` -/
def orNull (value : Option String) : Json Rat :=
  match value with
  | none => .null
  | some text => .string text

def textsOrNull (value : Option (List String)) : Json Rat :=
  match value with
  | none => .null
  | some texts => .array (texts.map Json.string)

/-- The record whose `JSON.stringify` is hashed. -/
def turnJson (text : String) (update : RequirementUpdate) : Json Rat :=
  .object
    [("requirementUpdate", .object
      [("consumptionGoal", orNull update.consumptionGoal),
       ("hardConstraints", textsOrNull update.hardConstraints),
       ("primaryScenario", orNull update.primaryScenario)]),
     ("text", .string text)]

def fingerprintUserTurn (env : Environment) (text : String) (update : RequirementUpdate) : String :=
  env.sha256 (String.ofList ((turnJson text update).print env.numberText))

/-! ### Normalising twice -/

section Texts

theorem bind_eq_ok {α β : Type} {x : Except ConversationError α}
    {f : α → Except ConversationError β} {b : β} :
    (x >>= f) = .ok b ↔ ∃ a, x = .ok a ∧ f a = .ok b := by
  cases x with
  | error error =>
    refine iff_of_false ?_ ?_
    · intro h
      cases h
    · rintro ⟨_, h, -⟩
      cases h
  | ok a =>
    constructor
    · intro h
      exact ⟨a, rfl, h⟩
    · rintro ⟨_, heq, h⟩
      cases heq
      exact h

/-- Nothing is left to trim at either end. -/
theorem trim_trim (text : String) : trim (trim text) = trim text := by
  have hlist : (trim text).toList =
      (text.toList.dropWhile isWhiteSpace).rdropWhile isWhiteSpace := by
    rw [trim, String.toList_ofList, List.rdropWhile]
  have hfront : ((text.toList.dropWhile isWhiteSpace).rdropWhile isWhiteSpace).dropWhile
      isWhiteSpace = (text.toList.dropWhile isWhiteSpace).rdropWhile isWhiteSpace := by
    rw [List.dropWhile_eq_self_iff]
    intro hlength
    have hbegins := List.rdropWhile_prefix isWhiteSpace (text.toList.dropWhile isWhiteSpace)
    rw [hbegins.getElem hlength]
    exact List.dropWhile_get_zero_not _ _ (lt_of_lt_of_le hlength hbegins.length_le)
  apply String.toList_inj.mp
  rw [trim, String.toList_ofList, hlist, hfront]
  exact List.rdropWhile_idempotent _ _

theorem normalizeText_eq_ok {value field text : String} (h : normalizeText value field = .ok text)
    (other : String) : normalizeText text other = .ok text := by
  simp only [normalizeText] at h ⊢
  split at h
  · cases h
  · rename_i hlength
    cases h
    rw [trim_trim, if_neg hlength]

variable {α : Type} {normalize : α → Except ConversationError α}

theorem normalizeOptional_eq_ok (hnormalize : ∀ {a b}, normalize a = .ok b → normalize b = .ok b)
    {value value' : Option α} (h : normalizeOptional normalize value = .ok value') :
    normalizeOptional normalize value' = .ok value' := by
  cases value with
  | none =>
    cases h
    rfl
  | some a =>
    simp only [normalizeOptional, bind_eq_ok] at h
    obtain ⟨b, hb, h⟩ := h
    cases h
    simp only [normalizeOptional, hnormalize hb]
    rfl

theorem normalizeAll_eq_ok (hnormalize : ∀ {a b}, normalize a = .ok b → normalize b = .ok b)
    {values values' : List α} (h : values.mapM normalize = .ok values') :
    values'.mapM normalize = .ok values' := by
  induction values generalizing values' with
  | nil =>
    cases h
    rfl
  | cons a values ih =>
    simp only [List.mapM_cons, bind_eq_ok] at h
    obtain ⟨b, hb, bs, hbs, h⟩ := h
    cases h
    simp only [List.mapM_cons, hnormalize hb, ih hbs]
    rfl

/-- A part that is normalised already replaces the earlier one as it is. -/
theorem mergeField_eq {previous value : Option α}
    (h : normalizeOptional normalize value = .ok value) :
    mergeField normalize previous value = .ok (value.or previous) := by
  cases value with
  | none => rfl
  | some a =>
    simp only [normalizeOptional, bind_eq_ok] at h
    obtain ⟨b, hb, h⟩ := h
    cases h
    simp only [mergeField, hb]
    rfl

end Texts

/-- The parts that an update says over the earlier ones. -/
def Requirement.merge (previous : Requirement) (update : RequirementUpdate) : Requirement where
  consumptionGoal := update.consumptionGoal.or previous.consumptionGoal
  primaryScenario := update.primaryScenario.or previous.primaryScenario
  hardConstraints := update.hardConstraints.or previous.hardConstraints

/-- Nothing is left to normalise. -/
def Normalized (update : RequirementUpdate) : Prop := normalizeRequirementUpdate update = .ok update

section Updates
variable {update update' : RequirementUpdate} {previous : Option Requirement}

theorem normalizeRequirementUpdate_eq_ok :
    normalizeRequirementUpdate update = .ok update' ↔
      normalizeOptional (fun text => normalizeText text "consumptionGoal")
        update.consumptionGoal = .ok update'.consumptionGoal ∧
      normalizeOptional (fun text => normalizeText text "primaryScenario")
        update.primaryScenario = .ok update'.primaryScenario ∧
      normalizeOptional (fun texts => texts.mapM fun text => normalizeText text "hardConstraints")
        update.hardConstraints = .ok update'.hardConstraints := by
  simp only [normalizeRequirementUpdate, bind_eq_ok]
  constructor
  · rintro ⟨goal, hgoal, scenario, hscenario, constraints, hconstraints, h⟩
    cases h
    exact ⟨hgoal, hscenario, hconstraints⟩
  · rintro ⟨hgoal, hscenario, hconstraints⟩
    exact ⟨_, hgoal, _, hscenario, _, hconstraints, rfl⟩

theorem normalized_of_eq_ok (h : normalizeRequirementUpdate update = .ok update') :
    Normalized update' := by
  obtain ⟨hgoal, hscenario, hconstraints⟩ := normalizeRequirementUpdate_eq_ok.mp h
  apply normalizeRequirementUpdate_eq_ok.mpr
  have htext : ∀ field {a b : String}, normalizeText a field = .ok b →
      normalizeText b field = .ok b := fun field _ _ hab => normalizeText_eq_ok hab field
  exact ⟨normalizeOptional_eq_ok (htext _) hgoal, normalizeOptional_eq_ok (htext _) hscenario,
    normalizeOptional_eq_ok (normalizeAll_eq_ok (htext _)) hconstraints⟩

/-- Merging a normalised update raises no error. -/
theorem mergeRequirement_eq (h : Normalized update) (previous : Option Requirement) :
    mergeRequirement previous update = .ok ((previous.getD .empty).merge update) := by
  obtain ⟨hgoal, hscenario, hconstraints⟩ := normalizeRequirementUpdate_eq_ok.mp h
  simp only [mergeRequirement, mergeField_eq hgoal, mergeField_eq hscenario,
    mergeField_eq hconstraints]
  cases previous <;> rfl

theorem Requirement.merge_empty (requirement : Requirement) :
    requirement.merge .empty = requirement := rfl

theorem Requirement.empty_merge (update : RequirementUpdate) : empty.merge update = update := by
  simp [merge, empty]

/-- A revision is due exactly when the merged requirement differs from the earlier one. -/
theorem revision_due_iff (update : RequirementUpdate) (previous : Option Requirement) :
    (hasKeys update && requirementChanged previous ((previous.getD .empty).merge update)) = true ↔
      (previous.getD .empty).merge update ≠ previous.getD .empty := by
  simp only [hasKeys, requirementChanged, Bool.and_eq_true, Bool.or_eq_true, decide_eq_true_eq]
  cases previous with
  | none =>
    simp only [Option.getD_none, Requirement.empty_merge, true_or, and_true]
  | some requirement =>
    simp only [Option.getD_some, reduceCtorEq, false_or, ne_eq, Option.some.injEq]
    constructor
    · rintro ⟨-, hchanged⟩ hsame
      exact hchanged hsame.symm
    · intro hchanged
      refine ⟨?_, fun hsame => hchanged hsame.symm⟩
      rintro rfl
      exact hchanged requirement.merge_empty

/-- What is known stays known. -/
theorem Requirement.readiness_merge {requirement : Requirement}
    (h : requirement.readiness = .readyForResearch) (update : RequirementUpdate) :
    (requirement.merge update).readiness = .readyForResearch := by
  obtain ⟨goal, scenario, constraints⟩ := requirement
  obtain ⟨goal', scenario', constraints'⟩ := update
  cases goal <;> cases scenario <;> cases constraints <;>
    simp [readiness, missingKeys] at h
  cases goal' <;> cases scenario' <;> cases constraints' <;>
    simp [merge, readiness, missingKeys]

theorem Requirement.readiness_eq_ready_iff (requirement : Requirement) :
    requirement.readiness = .readyForResearch ↔ requirement.missingKeys = [] := by
  rw [readiness, ← List.length_eq_zero_iff]
  split
  · rename_i hnone
    exact iff_of_true rfl hnone
  · rename_i hsome
    refine iff_of_false ?_ hsome
    intro h
    cases h

end Updates

/-! ### Fingerprints -/

theorem orNull_injective {a b : Option String} : orNull a = orNull b ↔ a = b := by
  cases a <;> cases b <;> simp [orNull]

theorem textsOrNull_injective {a b : Option (List String)} :
    textsOrNull a = textsOrNull b ↔ a = b := by
  have hitems : ∀ xs ys : List String, xs.map (Json.string (ν := Rat)) = ys.map Json.string ↔
      xs = ys := fun xs ys => List.map_inj_right fun _ _ h => by injection h
  cases a <;> cases b <;> simp [textsOrNull, hitems]

theorem turnJson_injective {text text' : String} {update update' : RequirementUpdate} :
    turnJson text update = turnJson text' update' ↔ text = text' ∧ update = update' := by
  obtain ⟨goal, scenario, constraints⟩ := update
  obtain ⟨goal', scenario', constraints'⟩ := update'
  simp only [turnJson, Json.object.injEq, List.cons.injEq, Prod.mk.injEq, true_and, and_true,
    Json.string.injEq, orNull_injective, textsOrNull_injective, Requirement.mk.injEq]
  tauto

/-- Under a digest without collisions, turns of one fingerprint say the same. -/
theorem fingerprintUserTurn_inj {env : Environment} (hsha : Function.Injective env.sha256)
    {text text' : String} {update update' : RequirementUpdate} :
    fingerprintUserTurn env text update = fingerprintUserTurn env text' update' ↔
      text = text' ∧ update = update' := by
  rw [← turnJson_injective]
  constructor
  · intro h
    have hprint := String.ofList_inj.mp (hsha h)
    have hends : Json.Ends [] := by simp [Json.Ends]
    exact (Json.print_injective _ _ hends hends (congrArg (· ++ []) hprint)).1
  · intro h
    rw [fingerprintUserTurn, fingerprintUserTurn, h]

end ChoiceMind.Conversation
