import ChoiceMind.Foundation.Transition
import ChoiceMind.TaskPersistence.Purge

/-!
# The persistence module as a transition system

Every call that writes is one atomic step at an instant that the caller's clock gives.
A call that throws leaves the store unchanged.
-/

namespace ChoiceMind.TaskPersistence

set_option autoImplicit false

open Contracts

inductive Action
  | submit (command : ExecuteDecisionTaskCommand) (ownerUserId : String)
  | claimNext (operationId workerId : String) (leaseDurationMs : Nat)
  | claimNextRuntimeControl (workerId : String) (leaseDurationMs : Nat) (skipped : List String)
  | complete (operationId workerId : String) (outcome : PersistentOutcome)
      (controlRequestId : Option String)
  | requestRuntimeResume (input : RuntimeResumeRequestInput)
  | requestRuntimeCancel (input : RuntimeCancelRequestInput)
  | publishNext (retryDelayMs republishDelayMs : Nat) (delivered : Bool) (skipped : List String)
  | purgePrivateDataForOwner (ownerUserId : String)
  | putRawSnapshot (payload : String)
  | putEffectResult (identity : EffectResultIdentity) (payload : String)
  | saveRecoveryFacts (snapshot : RuntimeSnapshot) (effectReceipts : List EffectReceipt)
  | recordRuntimeRunning (agentRunId controllerId : String) (leaseDurationMs : Nat)
  | claimRuntimeResume (agentRunId snapshotId controllerId : String) (leaseDurationMs : Nat)
  | completeRuntimeControl (agentRunId controllerId : String)
      (expectedSnapshotId nextSnapshotId : Option String) (state : RuntimeControlState)
      (runEvents : List RunEvent)
  | claimRuntimeCancel (agentRunId cancellationId : String) (runEvents : List RunEvent)
  | appendEgressRecord (record : EgressRecord)
  | appendAuditRecord (record : AuditRecordInput)
  | saveEncryptedCredential (key : CredentialKey) (envelope : CredentialEnvelope)
  | deleteEncryptedCredential (key : CredentialKey)
  | saveEvidence (row : EvidenceIndexRow)
  /-- cursor values used up by transactions that were rolled back -/
  | skipCursors (count : Nat)

inductive Reply
  | done
  | submitted (snapshot : DecisionTaskSnapshot)
  | claim (result : DecisionTaskClaimResult)
  | controlClaim (result : RuntimeControlClaimResult)
  | completion (completion : DecisionTaskCompletion)
  | controlStatus (status : Option RuntimeControlStatus)
  | published (result : OutboxPublisherBatchResult) (operationId : Option String)
  | purged (result : PurgeResult)
  | runtimeControl (claim : ControlClaim)
  | failed (error : PersistenceError)

/-- The operation that a reply hands to the worker. -/
def Reply.handsOut : Reply → Option String
  | .claim (.claimed task) => some task.operationId
  | .controlClaim (.claimed control) => some control.operationId
  | _ => none

/-- The reply hands nothing out and commits no completion. -/
def Reply.isInert : Reply → Bool
  | .claim (.claimed _) => false
  | .controlClaim (.claimed _) => false
  | .completion result => result = .notCompletable
  | _ => true

theorem Reply.handsOut_of_isInert {reply : Reply} (h : reply.isInert = true) :
    reply.handsOut = none := by
  unfold Reply.isInert at h
  split at h
  · cases h
  · cases h
  · rfl
  · unfold Reply.handsOut
    split <;> simp_all

variable (env : Environment)

def perform (now : Instant) (db : Store) : Action → Except PersistenceError (Reply × Store)
  | .submit command ownerUserId => do
    let (snapshot, db') ← submit env command ownerUserId now db
    .ok (.submitted snapshot, db')
  | .claimNext operationId workerId leaseDurationMs => do
    let (result, db') ← claimNext env operationId workerId leaseDurationMs now db
    .ok (.claim result, db')
  | .claimNextRuntimeControl workerId leaseDurationMs skipped => do
    let (result, db') ← claimNextRuntimeControl env workerId leaseDurationMs skipped now db
    .ok (.controlClaim result, db')
  | .complete operationId workerId outcome controlRequestId => do
    let (completion, db') ← complete env operationId workerId outcome controlRequestId now db
    .ok (.completion completion, db')
  | .requestRuntimeResume input => do
    let (status, db') ← requestRuntimeResume input now db
    .ok (.controlStatus status, db')
  | .requestRuntimeCancel input => do
    let (status, db') ← requestRuntimeCancel env input now db
    .ok (.controlStatus status, db')
  | .publishNext retryDelayMs republishDelayMs delivered skipped =>
    let ((result, operationId), db') :=
      publishNext env retryDelayMs republishDelayMs delivered skipped now db
    .ok (.published result operationId, db')
  | .purgePrivateDataForOwner ownerUserId => do
    let (result, db') ← purgePrivateDataForOwner env ownerUserId db
    .ok (.purged result, db')
  | .putRawSnapshot payload => do
    let (_, db') ← putRawSnapshot env payload now db
    .ok (.done, db')
  | .putEffectResult identity payload => do
    let (_, db') ← putEffectResult env identity payload now db
    .ok (.done, db')
  | .saveRecoveryFacts snapshot effectReceipts => do
    .ok (.done, ← saveRecoveryFacts env snapshot effectReceipts now db)
  | .recordRuntimeRunning agentRunId controllerId leaseDurationMs => do
    .ok (.done, ← recordRuntimeRunning agentRunId controllerId leaseDurationMs now db)
  | .claimRuntimeResume agentRunId snapshotId controllerId leaseDurationMs => do
    let (claim, db') ←
      claimRuntimeResume agentRunId snapshotId controllerId leaseDurationMs now db
    .ok (.runtimeControl claim, db')
  | .completeRuntimeControl agentRunId controllerId expected next state runEvents => do
    .ok (.done, ←
      completeRuntimeControl agentRunId controllerId expected next state runEvents now db)
  | .claimRuntimeCancel agentRunId cancellationId runEvents => do
    let (claim, db') ← claimRuntimeCancel agentRunId cancellationId runEvents now db
    .ok (.runtimeControl claim, db')
  | .appendEgressRecord record => do .ok (.done, ← appendEgressRecord record db)
  | .appendAuditRecord record => do .ok (.done, ← appendAuditRecord env record now db)
  | .saveEncryptedCredential key envelope => do
    .ok (.done, ← saveEncryptedCredential key envelope now db)
  | .deleteEncryptedCredential key => .ok (.done, (deleteEncryptedCredential key db).2)
  | .saveEvidence row => .ok (.done, saveEvidence row db)
  | .skipCursors count => .ok (.done, { db with nextCursor := db.nextCursor + count })

/-- One step of the system: an action and the clock reading of its caller. -/
def step (db : Store) (label : Instant × Action) : Option (Reply × Store) :=
  match perform env label.1 db label.2 with
  | .ok result => some result
  | .error error => some (.failed error, db)

/-- A step either performs its action or fails without a trace. -/
theorem step_cases {env : Environment} {db db' : Store} {now : Instant} {action : Action}
    {reply : Reply} (h : step env db (now, action) = some (reply, db')) :
    perform env now db action = .ok (reply, db') ∨
      ((∃ error, reply = .failed error) ∧ db' = db) := by
  unfold step at h
  split at h
  · rename_i result hperform
    cases h
    exact .inl hperform
  · cases h
    exact .inr ⟨⟨_, rfl⟩, rfl⟩

/-! ### A small environment for concrete schedules -/

def uuidText (n : Nat) : String := String.ofList (List.replicate n 'x')

theorem uuidText_injective : Function.Injective uuidText := by
  intro a b h
  have hlists := congrArg String.toList h
  simp only [uuidText, String.toList_ofList] at hlists
  simpa using congrArg List.length hlists

def zeroDigest : String := String.ofList (List.replicate 64 '0')

/-- UUIDs count in unary and all payloads share one digest. -/
def sampleEnv : Environment where
  randomUUID := uuidText
  randomUUID_injective := uuidText_injective
  sha256 := fun _ => zeroDigest
  numberText := naturalText
  collate := codeUnitsLe

def sampleCommand (executionRequestId : String) : ExecuteDecisionTaskCommand where
  executionRequestId
  requirementRevision :=
    { requirementRevisionId := "requirement"
      decisionTaskId := "task"
      revision := 1
      submittedText := "text"
      intendedUses := ["use"]
      budget := none
      mustHaves := []
      niceToHaves := []
      mustNotHaves := []
      unknowns := [] }

def sampleSnapshot (agentRunId : String) : RuntimeSnapshot where
  snapshotId := "snapshot"
  decisionTaskId := "task"
  agentRunId
  taskState := .paused .user
  resumable := true
  runtimeProtocolVersion := "1"
  rawSnapshot := ⟨zeroDigest, runtimeSnapshotObjectKey zeroDigest⟩
  checkpoint := ⟨"checkpoint", "task", agentRunId, 1, .toISOString 0⟩
  capturedAt := .toISOString 0

def samplePaused (agentRunId : String) : RuntimePausedOutcome where
  state := .user
  summary := "paused"
  snapshot := sampleSnapshot agentRunId
  effectReceipts := []
  runEvents :=
    [{ eventId := "event"
       decisionTaskId := "task"
       agentRunId
       sequence := 1
       occurredAt := .toISOString 0
       eventType := .taskStateChanged
       taskState := .paused .user
       summary := "paused" }]

/-- A failed result of a run, with one event. -/
def sampleFailed (agentRunId : String) : DecisionTaskResult :=
  .failed
    { taskStatus := ⟨"task", agentRunId, 1, "error", .toISOString 0⟩
      runEvents :=
        [{ eventId := "event"
           decisionTaskId := "task"
           agentRunId
           sequence := 1
           occurredAt := .toISOString 0
           eventType := .runtimeFailed
           taskState := .failed
           summary := "failed" }]
      error := ⟨"error", .agentRuntimeFailed, .runtime, "failed", .newExecutionAllowed, [],
        .toISOString 0⟩ }

def sampleRun : String := "agent-run-" ++ uuidText 0

def sampleOperation : String := uuidText 1

/-- A task that pauses, is resumed and handed to a worker. -/
def resumedSchedule : List (Instant × Action) :=
  [(0, .submit (sampleCommand "request") "owner"),
   (1, .claimNext sampleOperation "worker-1" 10),
   (2, .putRawSnapshot "raw"),
   (2, .saveRecoveryFacts (sampleSnapshot sampleRun) []),
   (3, .complete sampleOperation "worker-1" (.paused (samplePaused sampleRun)) none),
   (4, .requestRuntimeResume
     ⟨"control", "task", "owner", "snapshot", "correlation", ⟨"control", "owner"⟩⟩),
   (5, .claimNextRuntimeControl "worker-1" 10 [])]

/-- The instants of a trace never go back. -/
def clockAdvances (es : List (Transition.Entry Store (Instant × Action) Reply)) : Bool :=
  (es.map fun e => e.label.1).Pairwise (· ≤ ·)

end ChoiceMind.TaskPersistence
