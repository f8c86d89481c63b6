import ChoiceMind.Contracts.Values

/-!
# Runtime recovery contracts

Run events, runtime snapshots, effect receipts and the paused outcome that binds
them to one run, with their decoders and the recovery permission.
-/

namespace ChoiceMind.Contracts

set_option autoImplicit false

inductive PauseReason
  | user
  | permission
  | sourceLogin
  | limit
  deriving DecidableEq, Repr

inductive TaskState
  | created
  | understanding
  | planning
  | researching
  | verifying
  | gapResearch
  | comparing
  | critiquing
  | generating
  | paused (reason : PauseReason)
  | completed
  | failed
  | cancelled
  deriving DecidableEq, Repr

/-- `taskState.startsWith("PAUSED_")` -/
def TaskState.isPaused : TaskState → Bool
  | .paused _ => true
  | _ => false

inductive RunEventType
  | taskStateChanged
  | runtimeSucceeded
  | runtimeFailed
  deriving DecidableEq, Repr

structure RunEvent where
  eventId : String
  decisionTaskId : String
  agentRunId : String
  sequence : Nat
  occurredAt : UtcTimestamp
  eventType : RunEventType
  taskState : TaskState
  summary : String
  deriving DecidableEq

namespace RunEvent

def fieldChecks (event : RunEvent) : List FieldCheck :=
  [⟨"eventId", nonEmpty event.eventId⟩,
   ⟨"decisionTaskId", nonEmpty event.decisionTaskId⟩,
   ⟨"agentRunId", nonEmpty event.agentRunId⟩,
   ⟨"sequence", 0 < event.sequence && isSafeInteger event.sequence⟩,
   ⟨"summary", isMeaningful event.summary⟩]

end RunEvent

structure CheckpointRef where
  checkpointId : String
  decisionTaskId : String
  agentRunId : String
  sequence : Nat
  persistedAt : UtcTimestamp
  deriving DecidableEq

def CheckpointRef.fieldChecks (checkpoint : CheckpointRef) : List FieldCheck :=
  [⟨"checkpointId", nonEmpty checkpoint.checkpointId⟩,
   ⟨"decisionTaskId", nonEmpty checkpoint.decisionTaskId⟩,
   ⟨"agentRunId", nonEmpty checkpoint.agentRunId⟩,
   ⟨"sequence", 0 < checkpoint.sequence && isSafeInteger checkpoint.sequence⟩]

structure RawRuntimeSnapshotRef where
  digest : String
  objectKey : String
  deriving DecidableEq

/-- The object key of a raw runtime snapshot. -/
def runtimeSnapshotObjectKey (digest : String) : String := "runtime-snapshots/sha256/" ++ digest

/-- The object key of an effect result. -/
def effectResultObjectKey (digest : String) : String := "effect-results/sha256/" ++ digest

structure RuntimeSnapshot where
  snapshotId : String
  decisionTaskId : String
  agentRunId : String
  taskState : TaskState
  resumable : Bool
  runtimeProtocolVersion : String
  rawSnapshot : RawRuntimeSnapshotRef
  checkpoint : CheckpointRef
  capturedAt : UtcTimestamp
  deriving DecidableEq

def RuntimeSnapshot.fieldChecks (snapshot : RuntimeSnapshot) : List FieldCheck :=
  [⟨"snapshotId", nonEmpty snapshot.snapshotId⟩,
   ⟨"decisionTaskId", nonEmpty snapshot.decisionTaskId⟩,
   ⟨"agentRunId", nonEmpty snapshot.agentRunId⟩,
   ⟨"rawSnapshot.digest", isSha256Digest snapshot.rawSnapshot.digest⟩,
   ⟨"rawSnapshot.objectKey",
     snapshot.rawSnapshot.objectKey = runtimeSnapshotObjectKey snapshot.rawSnapshot.digest⟩] ++
  FieldCheck.below "checkpoint" snapshot.checkpoint.fieldChecks

structure EffectResultRef where
  digest : String
  objectKey : String
  decisionTaskId : String
  agentRunId : String
  checkpointId : String
  effectId : String
  deriving DecidableEq

inductive EffectReceiptState
  | notStarted
  | started
  | unknown
  | committed (result : EffectResultRef)
  deriving DecidableEq

structure EffectReceipt where
  effectReceiptId : String
  decisionTaskId : String
  agentRunId : String
  checkpointId : String
  effectId : String
  recordedAt : UtcTimestamp
  state : EffectReceiptState
  deriving DecidableEq

namespace EffectReceipt

/-- The state is `started` or `unknown`: the effect may or may not have happened. -/
def isUnsafe (receipt : EffectReceipt) : Bool :=
  receipt.state = .started || receipt.state = .unknown

def isCommitted (receipt : EffectReceipt) : Bool :=
  match receipt.state with
  | .committed _ => true
  | _ => false

/-- The reference of a committed result, bound to the receipt that carries it. -/
def resultChecks (receipt : EffectReceipt) : List FieldCheck :=
  match receipt.state with
  | .committed result =>
    [⟨"result.digest", isSha256Digest result.digest⟩,
     ⟨"result.objectKey", result.objectKey = effectResultObjectKey result.digest⟩,
     ⟨"result", result.decisionTaskId = receipt.decisionTaskId &&
       result.agentRunId = receipt.agentRunId &&
       result.checkpointId = receipt.checkpointId &&
       result.effectId = receipt.effectId⟩]
  | _ => []

def fieldChecks (receipt : EffectReceipt) : List FieldCheck :=
  [⟨"effectReceiptId", nonEmpty receipt.effectReceiptId⟩,
   ⟨"decisionTaskId", nonEmpty receipt.decisionTaskId⟩,
   ⟨"agentRunId", nonEmpty receipt.agentRunId⟩,
   ⟨"checkpointId", nonEmpty receipt.checkpointId⟩,
   ⟨"effectId", nonEmpty receipt.effectId⟩] ++ receipt.resultChecks

/-- The receipt names the task, run and checkpoint of the snapshot. -/
def belongsTo (receipt : EffectReceipt) (snapshot : RuntimeSnapshot) : Bool :=
  receipt.decisionTaskId = snapshot.decisionTaskId &&
    receipt.agentRunId = snapshot.agentRunId &&
    receipt.checkpointId = snapshot.checkpoint.checkpointId

end EffectReceipt

/-- `decodePersistedRunEventV1` on an event read back from its row; the cursor is a
column of the row and always well formed. -/
def decodePersistedRunEventV1 (event : RunEvent) : ContractDecodeResult RunEvent :=
  if fieldChecksHold event.fieldChecks then .ok event
  else contractInvalid (invalidFields (FieldCheck.below "event" event.fieldChecks))

def decodeRuntimeSnapshotV1 (snapshot : RuntimeSnapshot) : ContractDecodeResult RuntimeSnapshot :=
  if snapshot.runtimeProtocolVersion ≠ "1" then
    .error ⟨.contractVersionUnsupported,
      [⟨"runtimeProtocol.version", "Runtime Protocol 版本不受支持"⟩]⟩
  else if !fieldChecksHold snapshot.fieldChecks then
    contractInvalid (invalidFields snapshot.fieldChecks)
  else if snapshot.checkpoint.decisionTaskId ≠ snapshot.decisionTaskId ∨
      snapshot.checkpoint.agentRunId ≠ snapshot.agentRunId then
    contractInvalid [⟨"checkpoint", "Checkpoint 必须属于同一 Agent Run"⟩]
  else .ok snapshot

def decodeEffectReceiptV1 (receipt : EffectReceipt) : ContractDecodeResult EffectReceipt :=
  if fieldChecksHold receipt.fieldChecks then .ok receipt
  else contractInvalid (invalidFields receipt.fieldChecks)

structure RuntimePausedOutcome where
  state : PauseReason
  summary : String
  snapshot : RuntimeSnapshot
  effectReceipts : List EffectReceipt
  runEvents : List RunEvent
  deriving DecidableEq

namespace RuntimePausedOutcome

def fieldChecks (outcome : RuntimePausedOutcome) : List FieldCheck :=
  [⟨"summary", isMeaningful outcome.summary⟩,
   ⟨"snapshot.runtimeProtocol.version", outcome.snapshot.runtimeProtocolVersion = "1"⟩] ++
  FieldCheck.below "snapshot" outcome.snapshot.fieldChecks ++
  itemChecks "effectReceipts" outcome.effectReceipts EffectReceipt.fieldChecks ++
  [⟨"runEvents", outcome.runEvents ≠ []⟩] ++
  itemChecks "runEvents" outcome.runEvents RunEvent.fieldChecks

/-- The snapshot, the receipts and the first event name one task, run and checkpoint. -/
def allFactsBelongToRun (outcome : RuntimePausedOutcome) : Bool :=
  match outcome.runEvents.head? with
  | none => false
  | some firstEvent =>
    outcome.snapshot.decisionTaskId = firstEvent.decisionTaskId &&
      outcome.snapshot.agentRunId = firstEvent.agentRunId &&
      outcome.effectReceipts.all fun receipt => receipt.belongsTo outcome.snapshot

end RuntimePausedOutcome

/-- The message of a decoder's rejection, located below a field of the enclosing value. -/
def rejectionBelow (parent : String) (rejection : ContractRejection) : ContractRejection :=
  { rejection with
    issues := rejection.issues.map fun issue =>
      { issue with path := memberPath parent issue.path } }

def decodeRuntimePausedOutcomeV1 (outcome : RuntimePausedOutcome) :
    ContractDecodeResult RuntimePausedOutcome :=
  if !fieldChecksHold outcome.fieldChecks then contractInvalid (invalidFields outcome.fieldChecks)
  else match decodeRuntimeSnapshotV1 outcome.snapshot with
    | .error rejection => .error (rejectionBelow "snapshot" rejection)
    | .ok _ =>
      if outcome.effectReceipts.any fun receipt => !(decodeEffectReceiptV1 receipt).isOk then
        contractInvalid [⟨"effectReceipts", "Effect Receipt 不符合合同要求"⟩]
      else if .paused outcome.state ≠ outcome.snapshot.taskState ∨
          outcome.runEvents.getLast?.map RunEvent.taskState ≠ some (.paused outcome.state) ∨
          !outcome.allFactsBelongToRun then
        contractInvalid [⟨"", "暂停 Outcome 的恢复事实必须属于同一暂停运行"⟩]
      else .ok outcome

inductive RecoveryDecision
  | resumeAllowed
  | resumeDenied
  | manualVerificationRequired
  deriving DecidableEq, Repr

inductive RecoveryReason
  | safeToResume
  | taskNotPaused
  | snapshotNotResumable
  | effectStatusUnsafe
  | recoveryFactsInvalid
  deriving DecidableEq, Repr

structure RuntimeRecoveryPermission where
  decisionTaskId : String
  agentRunId : String
  snapshotId : String
  decision : RecoveryDecision
  reason : RecoveryReason
  deriving DecidableEq, Repr

def buildRuntimeRecoveryPermission (identity : RuntimeSnapshot) (decision : RecoveryDecision)
    (reason : RecoveryReason) : RuntimeRecoveryPermission :=
  ⟨identity.decisionTaskId, identity.agentRunId, identity.snapshotId, decision, reason⟩

def evaluateRuntimeRecoveryPermissionV1 (snapshot : RuntimeSnapshot)
    (effectReceipts : List EffectReceipt) : RuntimeRecoveryPermission :=
  if !(decodeRuntimeSnapshotV1 snapshot).isOk ||
      (effectReceipts.any fun receipt => !(decodeEffectReceiptV1 receipt).isOk) ||
      (effectReceipts.any fun receipt => !receipt.belongsTo snapshot) then
    buildRuntimeRecoveryPermission snapshot .resumeDenied .recoveryFactsInvalid
  else if !snapshot.taskState.isPaused then
    buildRuntimeRecoveryPermission snapshot .resumeDenied .taskNotPaused
  else if !snapshot.resumable then
    buildRuntimeRecoveryPermission snapshot .resumeDenied .snapshotNotResumable
  else if effectReceipts.any EffectReceipt.isUnsafe then
    buildRuntimeRecoveryPermission snapshot .manualVerificationRequired .effectStatusUnsafe
  else buildRuntimeRecoveryPermission snapshot .resumeAllowed .safeToResume

section Decoders
variable {snapshot decoded : RuntimeSnapshot} {receipt decodedReceipt : EffectReceipt}
  {event decodedEvent : RunEvent} {outcome decodedOutcome : RuntimePausedOutcome}

theorem decodePersistedRunEventV1_eq (h : decodePersistedRunEventV1 event = .ok decodedEvent) :
    decodedEvent = event := by
  unfold decodePersistedRunEventV1 at h
  split at h
  · cases h
    rfl
  · cases h

theorem decodeRuntimeSnapshotV1_eq (h : decodeRuntimeSnapshotV1 snapshot = .ok decoded) :
    decoded = snapshot := by
  unfold decodeRuntimeSnapshotV1 at h
  split at h
  · cases h
  split at h
  · cases h
  split at h
  · cases h
  · cases h
    rfl

theorem decodeEffectReceiptV1_eq (h : decodeEffectReceiptV1 receipt = .ok decodedReceipt) :
    decodedReceipt = receipt := by
  unfold decodeEffectReceiptV1 at h
  split at h
  · cases h
    rfl
  · cases h

/-- What the paused decoder establishes about an accepted outcome. -/
theorem decodeRuntimePausedOutcomeV1_ok
    (h : decodeRuntimePausedOutcomeV1 outcome = .ok decodedOutcome) :
    decodedOutcome = outcome ∧ outcome.snapshot.taskState = .paused outcome.state ∧
      outcome.runEvents.getLast?.map RunEvent.taskState = some (.paused outcome.state) ∧
      outcome.allFactsBelongToRun = true := by
  unfold decodeRuntimePausedOutcomeV1 at h
  split at h
  · cases h
  split at h
  · cases h
  split at h
  · cases h
  split at h
  · cases h
  · rename_i hfacts
    cases h
    rw [not_or, not_or, not_not, not_not, Bool.not_eq_true', Bool.not_eq_false] at hfacts
    exact ⟨rfl, hfacts.1.symm, hfacts.2.1, hfacts.2.2⟩

end Decoders

end ChoiceMind.Contracts
