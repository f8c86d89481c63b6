import Mathlib.Data.List.Infix
import ChoiceMind.Contracts.Canonical
import ChoiceMind.Foundation.Transition
import ChoiceMind.TaskPersistence.Recovery

/-!
# Pauses of the CoreMind adapter

How the adapter turns a paused CoreMind execution into recovery facts, call by call on the
recovery store, and the rounds of starting, pausing and resuming around it. A call of the
store that fails leaves the calls before it in place.
-/

namespace ChoiceMind.Orchestrator

set_option autoImplicit false

open Contracts TaskPersistence

/-! ### What CoreMind returns -/

inductive EffectStatus
  | notStarted
  | started
  | committed
  | unknown
  deriving DecidableEq, Repr

structure EffectReceiptEvent where
  idempotencyKey : String
  tool : String
  status : EffectStatus
  deriving DecidableEq

/-- An entry of the trace; `none` is an event that `isEffectReceiptEvent` turns down. -/
structure TraceEntry where
  eventId : String
  timestamp : UtcTimestamp
  event : Option EffectReceiptEvent
  deriving DecidableEq

structure NativeCheckpoint where
  checkpointId : String
  timestamp : UtcTimestamp

/-- A CoreMind snapshot: its JSON value and the fields that the adapter reads. -/
structure NativeSnapshot where
  value : Json Rat
  runId : String
  resumable : Bool
  checkpoints : List NativeCheckpoint
  transitionSequence : Nat
  updatedAt : UtcTimestamp
  trace : List TraceEntry

structure RunStateRecord where
  value : Json Rat
  sequence : Nat
  timestamp : UtcTimestamp

structure DraftCapture where
  calls : Nat
  draft : Option (Json Rat)

/-- An execution that ended with the status `paused`. -/
structure CoreMindExecution where
  finishReason : String
  /-- `parseRunSnapshot(result.snapshot)`, when it does not throw -/
  snapshot : Option NativeSnapshot
  capture : DraftCapture
  runStateRecords : List RunStateRecord
  /-- when CoreMind published `approval_required` -/
  approvals : List UtcTimestamp

/-- The task and the run of a command. -/
structure RunCommand where
  decisionTaskId : String
  agentRunId : String
  deriving DecidableEq

/-! ### The adapter's own state -/

structure Adapter where
  db : Store
  /-- the event histories of all runs -/
  eventHistory : List RunEvent

def Adapter.historyOf (adapter : Adapter) (agentRunId : String) : List RunEvent :=
  adapter.eventHistory.filter fun event => event.agentRunId = agentRunId

inductive AdapterError
  | persistence (error : PersistenceError)
  | coreMind (message : String)
  deriving DecidableEq

abbrev AdapterM := ExceptT AdapterError (StateM Adapter)

/-- A call of the recovery store, one transaction. -/
def callStore {α : Type} (call : Store → Except PersistenceError (α × Store)) : AdapterM α :=
  fun adapter =>
    match call adapter.db with
    | .ok (value, db) => (.ok value, { adapter with db })
    | .error error => (.error (.persistence error), adapter)

/-- A call that returns nothing. -/
def runStore (call : Store → Except PersistenceError Store) : AdapterM Unit :=
  callStore fun db => (call db).map fun db => ((), db)

/-! ### Public events -/

def publicEventId (agentRunId : String) (sequence : Nat) : String :=
  "event-runtime-" ++ agentRunId ++ "-" ++ toString sequence

/-- `createPublicRunEvent`, which records the event in the history of its run -/
def createPublicRunEvent (command : RunCommand) (taskState : TaskState) (eventType : RunEventType)
    (summary : String) (occurredAt : UtcTimestamp) : AdapterM RunEvent := fun adapter =>
  let sequence :=
    ((adapter.historyOf command.agentRunId).getLast?.map RunEvent.sequence).getD 0 + 1
  let publicEvent : RunEvent :=
    { eventId := publicEventId command.agentRunId sequence
      decisionTaskId := command.decisionTaskId
      agentRunId := command.agentRunId
      sequence
      occurredAt
      eventType
      taskState
      summary }
  (.ok publicEvent, { adapter with eventHistory := adapter.eventHistory ++ [publicEvent] })

/-- `value.includes(part)` -/
def includesText (value part : String) : Bool := part.toList <:+: value.toList

def mapPausedTaskState (reason : String) : PauseReason :=
  let normalized := reason.toLower
  if includesText normalized "approval" || includesText normalized "permission" then .permission
  else if includesText normalized "login" || includesText normalized "source" then .sourceLogin
  else if includesText normalized "limit" || includesText normalized "budget" then .limit
  else .user

def pausedSummary : PauseReason → String
  | .user => "Runtime 等待用户补充信息"
  | .permission => "Runtime 等待外部操作授权"
  | .sourceLogin => "Runtime 等待数据源登录"
  | .limit => "Runtime 因资源限制暂停"

/-- `publishCoreMindEvent` for each `approval_required` event of an execution -/
def publishApprovals (command : RunCommand) : List UtcTimestamp → AdapterM Unit
  | [] => return ()
  | occurredAt :: approvals => do
    let _ ← createPublicRunEvent command (.paused .permission) .taskStateChanged
      "Runtime 等待外部操作授权" occurredAt
    publishApprovals command approvals

/-! ### Recovery facts of a pause -/

/-- `canonicalizeJsonV1` of the recovery envelope -/
def recoveryEnvelopeText (env : Environment) (nativeSnapshot : NativeSnapshot)
    (runStateRecords : List RunStateRecord) : String :=
  canonicalize env.numberText <| .object
    [("envelopeType", .string "coremind-runtime-recovery"),
     ("envelopeVersion", .number 1),
     ("nativeSnapshot", nativeSnapshot.value),
     ("runStateRecords", .array (runStateRecords.map RunStateRecord.value))]

/-- `canonicalizeJsonV1` of the effect result of a draft -/
def effectResultText (env : Environment) (draft : Json Rat) : String :=
  canonicalize env.numberText <| .object
    [("effectResultType", .string "choicemind-decision-draft"),
     ("effectResultVersion", .number 1),
     ("tool", .string "submit_decision_draft"),
     ("draft", draft)]

/-- The checkpoint of a pause: CoreMind's last one, or the last record of the journal. -/
def pauseCheckpoint (command : RunCommand) (nativeSnapshot : NativeSnapshot)
    (journalCheckpoint : RunStateRecord) : CheckpointRef :=
  match nativeSnapshot.checkpoints.getLast? with
  | some nativeCheckpoint =>
    ⟨nativeCheckpoint.checkpointId, command.decisionTaskId, command.agentRunId,
      nativeSnapshot.transitionSequence, nativeCheckpoint.timestamp⟩
  | none =>
    ⟨"coremind-runstate-" ++ nativeSnapshot.runId ++ "-" ++ toString journalCheckpoint.sequence,
      command.decisionTaskId, command.agentRunId, journalCheckpoint.sequence,
      journalCheckpoint.timestamp⟩

def effectReceiptId (entry : TraceEntry) : String := "receipt-" ++ entry.eventId

/-- The state that an effect event is recorded with. A committed draft is stored first; any
other committed effect is `unknown`. -/
def effectReceiptState (env : Environment) (command : RunCommand) (checkpointId : String)
    (capture : DraftCapture) (now : Instant) (event : EffectReceiptEvent) :
    AdapterM EffectReceiptState :=
  match event.status with
  | .notStarted => return .notStarted
  | .started => return .started
  | .unknown => return .unknown
  | .committed =>
    match capture.draft with
    | none => return .unknown
    | some draft =>
      if event.tool ≠ "submit_decision_draft" ∨ capture.calls ≠ 1 then return .unknown
      else do
        let result ← callStore <| putEffectResult env
          ⟨command.decisionTaskId, command.agentRunId, checkpointId, event.idempotencyKey⟩
          (effectResultText env draft) now
        return .committed result

/-- The loop over the trace. -/
def collectEffectReceipts (env : Environment) (command : RunCommand) (checkpointId : String)
    (capture : DraftCapture) (now : Instant) : List TraceEntry → AdapterM (List EffectReceipt)
  | [] => return []
  | entry :: trace =>
    match entry.event with
    | none => collectEffectReceipts env command checkpointId capture now trace
    | some event => do
      let state ← effectReceiptState env command checkpointId capture now event
      let effectReceipts ← collectEffectReceipts env command checkpointId capture now trace
      return ⟨effectReceiptId entry, command.decisionTaskId, command.agentRunId, checkpointId,
        event.idempotencyKey, entry.timestamp, state⟩ :: effectReceipts

def pausedRunEvents (command : RunCommand) (state : PauseReason) (occurredAt : UtcTimestamp) :
    AdapterM (List RunEvent) := do
  let existingEvents := (← get).historyOf command.agentRunId
  if existingEvents.getLast?.map RunEvent.taskState = some (.paused state) then
    return existingEvents
  else
    let event ← createPublicRunEvent command (.paused state) .taskStateChanged
      (pausedSummary state) occurredAt
    return existingEvents ++ [event]

def pauseSnapshot (command : RunCommand) (digest : String) (rawSnapshot : RawRuntimeSnapshotRef)
    (checkpoint : CheckpointRef) (state : PauseReason) (nativeSnapshot : NativeSnapshot) :
    RuntimeSnapshot where
  snapshotId := "snapshot-" ++ digest
  decisionTaskId := command.decisionTaskId
  agentRunId := command.agentRunId
  taskState := .paused state
  resumable := nativeSnapshot.resumable
  runtimeProtocolVersion := "1"
  rawSnapshot
  checkpoint
  capturedAt := nativeSnapshot.updatedAt

def buildPausedOutcome (env : Environment) (command : RunCommand) (execution : CoreMindExecution)
    (now : Instant) : AdapterM RuntimePausedOutcome :=
  match execution.snapshot, execution.runStateRecords.getLast? with
  | none, _ => throw (.coreMind "RunSnapshot")
  | some _, none => throw (.coreMind "CoreMind 暂停结果缺少可恢复 RunState")
  | some nativeSnapshot, some journalCheckpoint => do
    let envelope := recoveryEnvelopeText env nativeSnapshot execution.runStateRecords
    let rawSnapshot ← callStore <| putRawSnapshot env envelope now
    let checkpoint := pauseCheckpoint command nativeSnapshot journalCheckpoint
    let state := mapPausedTaskState execution.finishReason
    let snapshot :=
      pauseSnapshot command (env.sha256 envelope) rawSnapshot checkpoint state nativeSnapshot
    let effectReceipts ← collectEffectReceipts env command checkpoint.checkpointId
      execution.capture now nativeSnapshot.trace
    let runEvents ← pausedRunEvents command state nativeSnapshot.updatedAt
    runStore <| saveRecoveryFacts env snapshot effectReceipts now
    return { state, summary := pausedSummary state, snapshot, effectReceipts, runEvents }

/-! ### Rounds -/

/-- An execution of CoreMind: who controls it and the snapshot it was resumed from. -/
structure ActiveExecution where
  agentRunId : String
  decisionTaskId : String
  controllerId : String
  resumedFrom : Option String
  deriving DecidableEq

def ActiveExecution.command (active : ActiveExecution) : RunCommand :=
  ⟨active.decisionTaskId, active.agentRunId⟩

/-- The end of `runPersistent` and of `resume` after a paused execution: the recovery facts
are stored, then the control row moves to the new snapshot. -/
def pauseExecution (env : Environment) (active : ActiveExecution) (execution : CoreMindExecution)
    (now : Instant) : AdapterM RuntimePausedOutcome := do
  publishApprovals active.command execution.approvals
  let paused ← buildPausedOutcome env active.command execution now
  runStore <| completeRuntimeControl active.agentRunId active.controllerId
    (some (active.resumedFrom.getD paused.snapshot.snapshotId))
    (some paused.snapshot.snapshotId) (.paused paused.state) paused.runEvents now
  return paused

/-- The adapters and the executions that are under way, at most one for each run, with the
number of random UUIDs drawn for their controllers. -/
structure Rounds where
  adapter : Adapter
  active : Table ActiveExecution.agentRunId
  drawn : Nat

def Rounds.empty : Rounds := ⟨⟨Store.empty, []⟩, Table.empty, 0⟩

inductive RoundEvent
  /-- `runPersistent` up to the execution -/
  | start (command : RunCommand) (leaseDurationMs : Nat)
  /-- `resume` from its claim up to the execution; the checks before the claim only refuse -/
  | resume (command : RunCommand) (snapshotId : String) (leaseDurationMs : Nat)
  | pause (agentRunId : String) (execution : CoreMindExecution)

inductive RoundReply
  | running
  | refused (status : ControlClaimStatus)
  | paused (outcome : RuntimePausedOutcome)
  | failed (error : AdapterError)
  deriving DecidableEq

/-- Take over the control row and remember the execution. -/
def beginExecution (active : ActiveExecution) (leaseDurationMs : Nat) (now : Instant)
    (rounds : Rounds) (db : Store) : RoundReply × Rounds :=
  match recordRuntimeRunning active.agentRunId active.controllerId leaseDurationMs now db with
  | .ok db => (.running, { rounds with
      adapter := { rounds.adapter with db }
      active := rounds.active.set active })
  | .error error => (.failed (.persistence error), { rounds with
      adapter := { rounds.adapter with db } })

/-- One event of the rounds at an instant. Each call draws the id of its controller. -/
def roundStep (env : Environment) (rounds : Rounds) :
    Instant × RoundEvent → Option (RoundReply × Rounds)
  | (now, .start command leaseDurationMs) =>
    let controllerId := env.randomUUID rounds.drawn
    some (beginExecution ⟨command.agentRunId, command.decisionTaskId, controllerId, none⟩
      leaseDurationMs now { rounds with drawn := rounds.drawn + 1 } rounds.adapter.db)
  | (now, .resume command snapshotId leaseDurationMs) =>
    let controllerId := env.randomUUID rounds.drawn
    let next := { rounds with drawn := rounds.drawn + 1 }
    match claimRuntimeResume command.agentRunId snapshotId controllerId leaseDurationMs now
        rounds.adapter.db with
    | .error error => some (.failed (.persistence error), next)
    | .ok (⟨.acquired, _, _⟩, db) =>
      some (beginExecution
        ⟨command.agentRunId, command.decisionTaskId, controllerId, some snapshotId⟩
        leaseDurationMs now next db)
    | .ok (claim, db) =>
      some (.refused claim.status, { next with adapter := { rounds.adapter with db } })
  | (now, .pause agentRunId execution) =>
    match rounds.active.find? agentRunId with
    | none => none
    | some active =>
      let (result, adapter) := (pauseExecution env active execution now).run rounds.adapter
      let next : Rounds := { rounds with
        adapter
        active := rounds.active.deleteWhere fun other => other.agentRunId = agentRunId }
      match result with
      | .ok outcome => some (.paused outcome, next)
      | .error error => some (.failed error, next)

end ChoiceMind.Orchestrator
