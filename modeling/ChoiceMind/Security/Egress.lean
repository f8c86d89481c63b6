import ChoiceMind.Contracts.Values
import ChoiceMind.Foundation.Calls

/-!
# The egress guard

`evaluateRiskPolicy` and `createEgressGuard`: a network action runs behind a policy and a
record of where it goes.
-/

namespace ChoiceMind.Security

set_option autoImplicit false

open Contracts

/-! ### Policy -/

inductive EgressOperation
  | readPublicSource
  | readPrivateSource
  | invokeProvider
  | writeExternal
  deriving DecidableEq, Repr

structure Confirmation where
  operationId : String
  userId : String
  deriving DecidableEq

inductive PolicyDecision
  | allow
  | deny
  | requireConfirmation
  deriving DecidableEq, Repr

structure RiskPolicyDecision where
  decision : PolicyDecision
  policyVersion : String
  deriving DecidableEq

def evaluateRiskPolicy (operation : EgressOperation) (operationId userId : String)
    (confirmation : Option Confirmation) : RiskPolicyDecision :=
  match operation with
  | .writeExternal => ⟨.deny, "p0-v1"⟩
  | .readPublicSource => ⟨.allow, "p0-v1"⟩
  | _ =>
    if confirmation = some ⟨operationId, userId⟩ then ⟨.allow, "p0-v1"⟩
    else ⟨.requireConfirmation, "p0-v1"⟩

/-! ### Urls and texts -/

/-- A parsed `URL`. -/
structure Url where
  href : String
  protocol : String
  hostname : String
  origin : String
  deriving DecidableEq

/-- What the platform does with urls and texts. The text of a parsed url parses to the same url;
`isIP` takes `isIP` of `node:net`, whose addresses have no characters that change their number
in lower case. -/
structure NetworkPlatform where
  parseUrl : String → Option Url
  parseUrl_href : ∀ {text : String} {url : Url}, parseUrl text = some url →
    parseUrl url.href = some url
  toUpperCase : String → String
  toLowerCase : String → String
  isIP : String → Nat
  toLowerCase_length : ∀ {text : String}, isIP (toLowerCase text) = 6 →
    (toLowerCase text).length ≤ text.length

/-! ### The guard -/

inductive EgressState
  | started
  deriving DecidableEq, Repr

structure EgressRecord where
  egressId : String
  userId : String
  operationId : String
  correlationId : String
  destinationOrigin : String
  method : String
  policyVersion : String
  state : EgressState
  occurredAt : Instant
  deriving DecidableEq

/-- The ports of a guard over a world `σ`, which may throw. -/
structure EgressPorts (σ ε : Type) where
  appendRecord : EgressRecord → ExceptT ε (StateM σ) Unit
  nextId : ExceptT ε (StateM σ) String
  now : ExceptT ε (StateM σ) Instant

structure EgressInput where
  userId : String
  operationId : String
  operation : EgressOperation
  confirmation : Option Confirmation
  correlationId : String
  destinationUrl : String
  method : String

inductive EgressError (ε : Type)
  | invalidUrl
  | port (error : ε)
  deriving DecidableEq

inductive EgressResult (α : Type)
  | completed (value : α)
  | refused (decision : PolicyDecision)

section Guard
variable {σ ε α : Type}

/-- A call of a port, whose error goes through. -/
def callEgress (call : ExceptT ε (StateM σ) α) : ExceptT (EgressError ε) (StateM σ) α :=
  fun world =>
    match call world with
    | (.ok value, world) => (.ok value, world)
    | (.error error, world) => (.error (.port error), world)

/-- The operation that the policy judges: any other method writes. -/
def effectiveOperation (platform : NetworkPlatform) (input : EgressInput) : EgressOperation :=
  let normalizedMethod := platform.toUpperCase input.method
  if normalizedMethod ≠ "GET" ∧ normalizedMethod ≠ "HEAD" ∧ input.operation ≠ .invokeProvider then
    .writeExternal
  else input.operation

def executeEgress (platform : NetworkPlatform) (ports : EgressPorts σ ε) (input : EgressInput)
    (perform : ExceptT ε (StateM σ) α) : ExceptT (EgressError ε) (StateM σ) (EgressResult α) := do
  let policy := evaluateRiskPolicy (effectiveOperation platform input) input.operationId
    input.userId input.confirmation
  if policy.decision ≠ .allow then return .refused policy.decision
  else
    match platform.parseUrl input.destinationUrl with
    | none => throw .invalidUrl
    | some destination => do
      let egressId ← callEgress ports.nextId
      let occurredAt ← callEgress ports.now
      callEgress <| ports.appendRecord
        { egressId
          userId := input.userId
          operationId := input.operationId
          correlationId := input.correlationId
          destinationOrigin := destination.origin
          method := platform.toUpperCase input.method
          policyVersion := policy.policyVersion
          state := .started
          occurredAt }
      let value ← callEgress perform
      return .completed value

section Runs
variable {call : ExceptT ε (StateM σ) α} {a : α} {error : ε} {world world' : σ}

theorem run_callEgress_ok (h : call.run world = (.ok a, world')) :
    (callEgress call).run world = (.ok a, world') := by
  simp only [ExceptT.run] at h ⊢
  simp only [callEgress, h]

theorem run_callEgress_error (h : call.run world = (.error error, world')) :
    (callEgress call).run world = (.error (.port error), world') := by
  simp only [ExceptT.run] at h ⊢
  simp only [callEgress, h]

end Runs

end Guard

/-! ### What the policy allows -/

/-- What a network action must be for the guard to perform it. -/
structure Permitted (platform : NetworkPlatform) (input : EgressInput) : Prop where
  writes : input.operation ≠ .writeExternal
  method : platform.toUpperCase input.method = "GET" ∨ platform.toUpperCase input.method = "HEAD" ∨
    input.operation = .invokeProvider
  confirmed : input.operation = .invokeProvider ∨ input.operation = .readPrivateSource →
    input.confirmation = some ⟨input.operationId, input.userId⟩

theorem permitted_of_allowed {platform : NetworkPlatform} {input : EgressInput}
    (h : (evaluateRiskPolicy (effectiveOperation platform input) input.operationId input.userId
      input.confirmation).decision = .allow) : Permitted platform input := by
  unfold effectiveOperation at h
  dsimp only at h
  split at h
  · cases h
  · rename_i hmethod
    have hmethod' : platform.toUpperCase input.method = "GET" ∨
        platform.toUpperCase input.method = "HEAD" ∨ input.operation = .invokeProvider := by
      tauto
    unfold evaluateRiskPolicy at h
    cases hoperation : input.operation with
    | writeExternal =>
      rw [hoperation] at h
      cases h
    | readPublicSource => exact ⟨by simp [hoperation], hmethod', by simp [hoperation]⟩
    | readPrivateSource | invokeProvider =>
      rw [hoperation] at h
      dsimp only at h
      split at h
      · rename_i hconfirmed
        exact ⟨by simp [hoperation], hmethod', fun _ => hconfirmed⟩
      · cases h

end ChoiceMind.Security
