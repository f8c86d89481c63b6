import ChoiceMind.Foundation.Table
import ChoiceMind.Contracts.Canonical
import ChoiceMind.Contracts.Invariants

/-!
# The task-persistence tables

One record per table of the migration, with the columns the module reads. A column
that repeats a field of a stored payload is that field.
-/

namespace ChoiceMind.TaskPersistence

set_option autoImplicit false

open Contracts

/-- What the module takes from the platform: the sequence of random UUIDs, which never
repeats, the SHA-256 digest, the texts of numbers in JSON and the order in which the
database sorts text. -/
structure Environment where
  randomUUID : Nat → String
  randomUUID_injective : Function.Injective randomUUID
  sha256 : String → String
  numberText : Json.NumberText Rat
  collate : String → String → Bool

/-- The text behind the fingerprint of a command. -/
def Environment.canonicalize (env : Environment) (command : ExecuteDecisionTaskCommand) : String :=
  Contracts.canonicalize env.numberText command.toJson

inductive OperationState
  | accepted
  | running
  | completed
  | failedRetryable
  | failedFinal
  | partialResult
  | paused (reason : PauseReason)
  | cancelled
  deriving DecidableEq, Repr

/-- `state.startsWith("PAUSED_")` -/
def OperationState.isPaused : OperationState → Bool
  | .paused _ => true
  | _ => false

inductive RuntimeControlErrorCode
  | runtimeSnapshotInvalid
  | runtimeProtocolUnsupported
  | runtimeResumeDenied
  | runtimeResumeInProgress
  | runtimeFailed
  | runtimeCancelRace
  | persistenceUnavailable
  | runtimeResultUnavailable
  deriving DecidableEq, Repr

structure RuntimeControlError where
  code : RuntimeControlErrorCode
  message : String
  deriving DecidableEq, Repr

inductive FailureState
  | failedRetryable
  | failedFinal
  | partialResult
  deriving DecidableEq, Repr

def FailureState.toOperationState : FailureState → OperationState
  | .failedRetryable => .failedRetryable
  | .failedFinal => .failedFinal
  | .partialResult => .partialResult

/-- An outcome that carries only a state and a summary. -/
structure FailureOutcome where
  state : FailureState
  summary : String
  runtimeControlError : Option RuntimeControlError
  deriving DecidableEq, Repr

inductive PersistentOutcome
  | paused (outcome : RuntimePausedOutcome)
  | result (result : DecisionTaskResult)
  | failure (outcome : FailureOutcome)
  deriving DecidableEq

/-- `agent_run_operations.result_payload` when it is not null. -/
inductive ResultPayload
  | outcome (outcome : PersistentOutcome)
  | cancelled
  deriving DecidableEq

structure Submission where
  executionRequestId : String
  ownerUserId : String
  commandFingerprint : String
  command : ExecuteDecisionTaskCommand
  createdAt : Instant
  deriving DecidableEq

def Submission.decisionTaskId (submission : Submission) : String :=
  submission.command.requirementRevision.decisionTaskId

structure Operation where
  operationId : String
  agentRunId : String
  executionRequestId : String
  decisionTaskId : String
  state : OperationState
  workerId : Option String
  leaseExpiresAt : Option Instant
  resultPayload : Option ResultPayload
  createdAt : Instant
  updatedAt : Instant
  deriving DecidableEq

structure AgentRun where
  agentRunId : String
  operationId : String
  attempt : Nat
  createdAt : Instant
  deriving DecidableEq

structure OutboxMessage where
  messageId : String
  operationId : String
  attempts : Nat
  nextAttemptAt : Instant
  publishedAt : Option Instant
  createdAt : Instant
  deriving DecidableEq

structure RunEventRow where
  cursor : Nat
  event : RunEvent
  persistedAt : Instant
  deriving DecidableEq

structure EventNotification where
  eventCursor : Nat
  decisionTaskId : String
  attempts : Nat
  nextAttemptAt : Instant
  publishedAt : Option Instant
  createdAt : Instant
  deriving DecidableEq

/-- The action of a control request with the column that the action requires. -/
inductive ControlAction
  | resume (runtimeSnapshotId : String)
  | cancel (cancellationId : String)
  deriving DecidableEq, Repr

def ControlAction.isResume : ControlAction → Bool
  | .resume _ => true
  | .cancel _ => false

/-- `runtime_snapshot_id`, which is null for a cancellation. -/
def ControlAction.runtimeSnapshotId : ControlAction → Option String
  | .resume runtimeSnapshotId => some runtimeSnapshotId
  | .cancel _ => none

inductive ControlRequestState
  | accepted
  | running
  | completed
  | failed
  deriving DecidableEq, Repr

inductive ControlRequestPayload
  | error (error : RuntimeControlError)
  | cancelled
  deriving DecidableEq, Repr

structure EgressConfirmation where
  operationId : String
  userId : String
  deriving DecidableEq, Repr

structure ControlRequest where
  controlRequestId : String
  operationId : String
  decisionTaskId : String
  agentRunId : String
  ownerUserId : String
  action : ControlAction
  correlationId : String
  confirmation : Option EgressConfirmation
  state : ControlRequestState
  workerId : Option String
  leaseExpiresAt : Option Instant
  resultPayload : Option ControlRequestPayload
  createdAt : Instant
  updatedAt : Instant
  deriving DecidableEq

inductive RuntimeControlState
  | running
  | paused (reason : PauseReason)
  | completed
  | cancelled
  | failed
  deriving DecidableEq, Repr

structure ControlState where
  agentRunId : String
  snapshotId : Option String
  state : RuntimeControlState
  cancellationId : Option String
  events : List RunEvent
  controllerId : Option String
  leaseExpiresAt : Option Instant
  updatedAt : Instant
  deriving DecidableEq

/-- A content-addressed payload, by its canonical JSON text. -/
structure ContentObject where
  digest : String
  objectKey : String
  payload : String
  createdAt : Instant
  deriving DecidableEq

structure RecoveryFact where
  snapshot : RuntimeSnapshot
  createdAt : Instant
  deriving DecidableEq

namespace RecoveryFact

def snapshotId (fact : RecoveryFact) : String := fact.snapshot.snapshotId

def agentRunId (fact : RecoveryFact) : String := fact.snapshot.agentRunId

def rawSnapshotDigest (fact : RecoveryFact) : String := fact.snapshot.rawSnapshot.digest

end RecoveryFact

structure EffectReceiptRow where
  snapshotId : String
  receipt : EffectReceipt
  createdAt : Instant
  deriving DecidableEq

def EffectReceiptRow.effectReceiptId (row : EffectReceiptRow) : String :=
  row.receipt.effectReceiptId

structure EffectResultIdentity where
  decisionTaskId : String
  agentRunId : String
  checkpointId : String
  effectId : String
  deriving DecidableEq

structure EffectResultBinding where
  identity : EffectResultIdentity
  digest : String
  objectKey : String
  createdAt : Instant
  deriving DecidableEq

/-- A row of the evidence index; its text, locator and embedding are one payload. -/
structure EvidenceIndexRow where
  evidenceId : String
  decisionTaskId : String
  payload : String
  deriving DecidableEq

inductive ActorRole
  | user
  | admin
  | superadmin
  | system
  deriving DecidableEq, Repr

structure AuditRecord where
  auditRecordId : String
  actorPrincipalId : String
  actorUserId : String
  actorRole : ActorRole
  action : String
  objectType : String
  objectId : String
  result : String
  correlationId : String
  occurredAt : Instant
  deriving DecidableEq

structure CredentialKey where
  ownerUserId : String
  credentialId : String
  deriving DecidableEq

inductive SecretType
  | providerCredential
  | sourceCredential
  deriving DecidableEq, Repr

/-- The base64 texts of one AES-256-GCM encryption. -/
structure SealedText where
  ciphertext : String
  iv : String
  tag : String
  deriving DecidableEq

/-- The columns of an `AES_256_GCM_ENVELOPE_V1`. -/
structure CredentialEnvelope where
  secretType : SecretType
  secret : SealedText
  wrappedDataKey : SealedText
  deriving DecidableEq

structure EncryptedCredential where
  key : CredentialKey
  envelope : CredentialEnvelope
  createdAt : Instant
  updatedAt : Instant
  deriving DecidableEq

structure EgressRecord where
  egressId : String
  userId : String
  operationId : String
  correlationId : String
  destinationOrigin : String
  method : String
  occurredAt : Instant
  deriving DecidableEq

/-- All tables, the next value of the cursor sequence and the number of UUIDs drawn. -/
structure Store where
  submissions : Table Submission.executionRequestId
  operations : Table Operation.operationId
  agentRuns : Table AgentRun.agentRunId
  outbox : Table OutboxMessage.messageId
  runEvents : Table RunEventRow.cursor
  notifications : Table EventNotification.eventCursor
  controlRequests : Table ControlRequest.controlRequestId
  controlStates : Table ControlState.agentRunId
  snapshotObjects : Table ContentObject.digest
  recoveryFacts : Table RecoveryFact.snapshotId
  effectReceipts : Table EffectReceiptRow.effectReceiptId
  effectResultObjects : Table ContentObject.digest
  effectResultBindings : Table EffectResultBinding.identity
  evidenceIndex : Table EvidenceIndexRow.evidenceId
  auditRecords : Table AuditRecord.auditRecordId
  credentials : Table EncryptedCredential.key
  egressRecords : Table EgressRecord.egressId
  nextCursor : Nat
  uuidsDrawn : Nat

/-- The migrated database before the first command. -/
def Store.empty : Store where
  submissions := .empty
  operations := .empty
  agentRuns := .empty
  outbox := .empty
  runEvents := .empty
  notifications := .empty
  controlRequests := .empty
  controlStates := .empty
  snapshotObjects := .empty
  recoveryFacts := .empty
  effectReceipts := .empty
  effectResultObjects := .empty
  effectResultBindings := .empty
  evidenceIndex := .empty
  auditRecords := .empty
  credentials := .empty
  egressRecords := .empty
  nextCursor := 1
  uuidsDrawn := 0

inductive PersistenceError
  | idempotencyConflict (executionRequestId : String)
  | persistenceUnavailable
  | effectResultInvalid
  | runtimeResumeDenied
  | runtimeCancelRace
  deriving DecidableEq, Repr

def PersistenceError.message : PersistenceError → String
  | .idempotencyConflict _ => "执行标识与原命令不一致"
  | .persistenceUnavailable => "持久任务存储暂时不可用"
  | .effectResultInvalid => "副作用结果完整性校验失败"
  | .runtimeResumeDenied => "Runtime 当前状态或权威快照不允许恢复"
  | .runtimeCancelRace => "Runtime 已进入不可取消终态"

/-- A call that throws leaves the store as it was: its transaction is rolled back. -/
def unavailable {α : Type} : Except PersistenceError α := .error .persistenceUnavailable

/-- A statement that violates a constraint ends the call with `PersistenceUnavailableError`. -/
def orUnavailable {α : Type} : Option α → Except PersistenceError α
  | some value => .ok value
  | none => unavailable

@[simp] theorem orUnavailable_eq_ok {α : Type} {value : Option α} {a : α} :
    orUnavailable value = .ok a ↔ value = some a := by
  cases value <;> simp [orUnavailable, unavailable]

/-- A contract decoder inside a call: a rejected value is `PersistenceUnavailableError`. -/
def decodedOrUnavailable {α : Type} : ContractDecodeResult α → Except PersistenceError α
  | .ok value => .ok value
  | .error _ => unavailable

@[simp] theorem decodedOrUnavailable_eq_ok {α : Type} {decoded : ContractDecodeResult α} {a : α} :
    decodedOrUnavailable decoded = .ok a ↔ decoded = .ok a := by
  cases decoded <;> simp [decodedOrUnavailable, unavailable]

theorem bind_eq_ok {α β : Type} {x : Except PersistenceError α}
    {f : α → Except PersistenceError β} {b : β} :
    (x >>= f) = .ok b ↔ ∃ a, x = .ok a ∧ f a = .ok b := by
  cases x with
  | error e => simp [bind, Except.bind]
  | ok a => simp [bind, Except.bind]

theorem isOk_iff {ε α : Type} {x : Except ε α} : x.isOk = true ↔ ∃ a, x = .ok a := by
  cases x with
  | error e => simp [Except.isOk, Except.toBool]
  | ok a => simp [Except.isOk, Except.toBool]

/-- `randomUUID()` -/
def Store.uuid (env : Environment) (db : Store) : String := env.randomUUID db.uuidsDrawn

/-- The submission an operation belongs to. -/
def Store.submissionOf (db : Store) (operation : Operation) : Option Submission :=
  db.submissions.find? operation.executionRequestId

/-- The owner an operation belongs to. -/
def Store.ownerOf (db : Store) (operation : Operation) : Option String :=
  (db.submissionOf operation).map Submission.ownerUserId

end ChoiceMind.TaskPersistence
