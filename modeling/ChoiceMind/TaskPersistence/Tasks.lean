import Mathlib.Data.List.MinMax
import ChoiceMind.TaskPersistence.Events

/-!
# Submitting and observing tasks

`submit`, `get` and `listEvents`.
-/

namespace ChoiceMind.TaskPersistence

set_option autoImplicit false

open Contracts

structure DecisionTaskSnapshot where
  executionRequestId : String
  decisionTaskId : String
  agentRunId : String
  state : OperationState
  terminal : Bool
  runtimeSnapshotId : Option String
  updatedAt : UtcTimestamp
  deriving DecidableEq

/-- `decodeRuntimePausedOutcomeV1` on a stored payload, which may be of another kind. -/
def decodePausedPayload : Option ResultPayload → Option RuntimePausedOutcome
  | some (.outcome (.paused outcome)) => (decodeRuntimePausedOutcomeV1 outcome).toOption
  | _ => none

theorem decodePausedPayload_eq_some {payload : Option ResultPayload}
    {paused : RuntimePausedOutcome} (h : decodePausedPayload payload = some paused) :
    payload = some (.outcome (.paused paused)) ∧
      decodeRuntimePausedOutcomeV1 paused = .ok paused := by
  unfold decodePausedPayload at h
  split at h
  · rename_i outcome
    cases hdecoded : decodeRuntimePausedOutcomeV1 outcome with
    | error rejection =>
      rw [hdecoded] at h
      cases h
    | ok decoded =>
      obtain ⟨rfl, -⟩ := decodeRuntimePausedOutcomeV1_ok hdecoded
      rw [hdecoded] at h
      cases h
      exact ⟨rfl, hdecoded⟩
  · cases h

def toTaskSnapshot (row : Operation) : Except PersistenceError DecisionTaskSnapshot :=
  let snapshot : DecisionTaskSnapshot :=
    { executionRequestId := row.executionRequestId
      decisionTaskId := row.decisionTaskId
      agentRunId := row.agentRunId
      state := row.state
      terminal := row.state = .failedFinal || row.state = .cancelled
      runtimeSnapshotId := none
      updatedAt := .toISOString row.updatedAt }
  match row.state with
  | .paused reason =>
    match decodePausedPayload row.resultPayload with
    | none => unavailable
    | some paused =>
      if paused.state ≠ reason ∨ paused.snapshot.decisionTaskId ≠ row.decisionTaskId ∨
          paused.snapshot.agentRunId ≠ row.agentRunId then unavailable
      else .ok { snapshot with runtimeSnapshotId := some paused.snapshot.snapshotId }
  | .completed => unavailable
  | _ => .ok snapshot

/-- The run and task that a result's task status names. -/
def taskStatusIds : DecisionTaskResult → Option (String × String)
  | .succeeded result => some (result.taskStatus.agentRunId, result.taskStatus.decisionTaskId)
  | .failed result => some (result.taskStatus.agentRunId, result.taskStatus.decisionTaskId)
  | .rejected _ => none

def decodePersistedResult (result : DecisionTaskResult) (row : Operation) :
    Except PersistenceError DecisionTaskResult := do
  let decoded ← decodedOrUnavailable (decodeDecisionTaskResultV1 result)
  if taskStatusIds decoded = some (row.agentRunId, row.decisionTaskId) then .ok decoded
  else unavailable

theorem decodePersistedResult_ok {result persisted : DecisionTaskResult} {row : Operation}
    (h : decodePersistedResult result row = .ok persisted) :
    persisted = result ∧ decodeDecisionTaskResultV1 result = .ok result ∧
      taskStatusIds result = some (row.agentRunId, row.decisionTaskId) := by
  simp only [decodePersistedResult, bind_eq_ok, decodedOrUnavailable_eq_ok] at h
  obtain ⟨decoded, hdecoded, h⟩ := h
  obtain ⟨rfl, -⟩ := decodeDecisionTaskResultV1_eq_ok.mp hdecoded
  split at h
  · rename_i hids
    cases h
    exact ⟨rfl, hdecoded, hids⟩
  · cases h

inductive TaskView
  | snapshot (snapshot : DecisionTaskSnapshot)
  | result (result : DecisionTaskResult)
  deriving DecidableEq

namespace Store

/-- The operations of an owner's submissions of a task. -/
def operationsOf (db : Store) (decisionTaskId ownerUserId : String) : List Operation :=
  db.operations.select fun operation =>
    operation.decisionTaskId = decisionTaskId && db.ownerOf operation = some ownerUserId

/-- `ORDER BY operation.created_at DESC LIMIT 1` over an owner's submissions of a task. -/
def latestOperation (db : Store) (decisionTaskId ownerUserId : String) : Option Operation :=
  (db.operationsOf decisionTaskId ownerUserId).argmax Operation.createdAt

end Store

def get (decisionTaskId ownerUserId : String) (db : Store) :
    Except PersistenceError (Option TaskView) :=
  match db.latestOperation decisionTaskId ownerUserId with
  | none => .ok none
  | some row =>
    match row.state, row.resultPayload with
    | .completed, some (.outcome (.result result)) => do
      .ok (some (.result (← decodePersistedResult result row)))
    | .completed, some _ => unavailable
    | _, _ => do .ok (some (.snapshot (← toTaskSnapshot row)))

/-- The row can be shown by `get`: the payload of a state that is read from it is well formed. -/
def Operation.observable (row : Operation) : Bool :=
  match row.state, row.resultPayload with
  | .completed, some (.outcome (.result result)) => (decodePersistedResult result row).isOk
  | .completed, _ => false
  | _, _ => (toTaskSnapshot row).isOk

/-- The owner of the submission behind a run's operation. -/
def Store.runOwner (db : Store) (agentRunId : String) : Option String := do
  let run ← db.agentRuns.find? agentRunId
  let operation ← db.operations.find? run.operationId
  db.ownerOf operation

/-- The rows after a cursor, in cursor order. -/
def listEvents (decisionTaskId ownerUserId : String) (afterCursor : Option Nat) (db : Store) :
    Except PersistenceError (List (Nat × RunEvent)) :=
  let rows := (db.runEvents.select fun row =>
    row.event.decisionTaskId = decisionTaskId &&
      db.runOwner row.event.agentRunId = some ownerUserId &&
      afterCursor.all fun cursor => cursor < row.cursor).insertionSort
    fun a b => a.cursor ≤ b.cursor
  if rows.all fun row => (decodePersistedRunEventV1 row.event).isOk then
    .ok (rows.map fun row => (row.cursor, row.event))
  else unavailable

/-- `INSERT INTO agent_run_operations` with its two unique columns and its foreign key. -/
def insertOperation (operation : Operation) (db : Store) : Except PersistenceError Store := do
  if (db.submissions.find? operation.executionRequestId).isNone then unavailable
  else if db.operations.rows.any fun row =>
      row.agentRunId = operation.agentRunId ||
        row.executionRequestId = operation.executionRequestId then unavailable
  else .ok { db with operations := ← orUnavailable (db.operations.insert? operation) }

/-- `INSERT INTO decision_task_agent_runs` with its unique attempt and its foreign key. -/
def insertAgentRun (run : AgentRun) (db : Store) : Except PersistenceError Store := do
  if (db.operations.find? run.operationId).isNone then unavailable
  else if db.agentRuns.rows.any fun row =>
      row.operationId = run.operationId && row.attempt = run.attempt then unavailable
  else .ok { db with agentRuns := ← orUnavailable (db.agentRuns.insert? run) }

/-- `INSERT INTO outbox_messages`, unique for an operation. -/
def insertOutboxMessage (message : OutboxMessage) (db : Store) :
    Except PersistenceError Store := do
  if (db.operations.find? message.operationId).isNone then unavailable
  else if db.outbox.rows.any fun row => row.operationId = message.operationId then unavailable
  else .ok { db with outbox := ← orUnavailable (db.outbox.insert? message) }

/-- The operation that a new submission creates. -/
def acceptedOperation (env : Environment) (command : ExecuteDecisionTaskCommand)
    (submittedAt : Instant) (db : Store) : Operation where
  operationId := env.randomUUID (db.uuidsDrawn + 1)
  agentRunId := "agent-run-" ++ env.randomUUID db.uuidsDrawn
  executionRequestId := command.executionRequestId
  decisionTaskId := command.requirementRevision.decisionTaskId
  state := .accepted
  workerId := none
  leaseExpiresAt := none
  resultPayload := none
  createdAt := submittedAt
  updatedAt := submittedAt

/-- The inserts of a new submission, in the order of the source. -/
def insertSubmission (env : Environment) (command : ExecuteDecisionTaskCommand)
    (ownerUserId : String) (submittedAt : Instant) (db : Store) :
    Except PersistenceError Store := do
  let operation := acceptedOperation env command submittedAt db
  let submissions ← orUnavailable (db.submissions.insert?
    { executionRequestId := command.executionRequestId
      ownerUserId
      commandFingerprint := env.sha256 (env.canonicalize command)
      command
      createdAt := submittedAt })
  let db₁ ← insertOperation operation { db with submissions, uuidsDrawn := db.uuidsDrawn + 3 }
  let db₂ ← insertAgentRun ⟨operation.agentRunId, operation.operationId, 1, submittedAt⟩ db₁
  let db₃ ← insertOutboxMessage
    ⟨env.randomUUID (db.uuidsDrawn + 2), operation.operationId, 0, submittedAt, none,
      submittedAt⟩ db₂
  insertTaskEvent env operation.decisionTaskId operation.agentRunId 1 .taskStateChanged .created
    "决策任务已接受" submittedAt db₃

/-- `submitInTransaction` -/
def submit (env : Environment) (command : ExecuteDecisionTaskCommand) (ownerUserId : String)
    (submittedAt : Instant) (db : Store) :
    Except PersistenceError (DecisionTaskSnapshot × Store) :=
  match db.submissions.find? command.executionRequestId, db.operations.rows.find? fun row =>
      row.executionRequestId = command.executionRequestId with
  | some submission, some operation =>
    if submission.ownerUserId ≠ ownerUserId ∨
        submission.commandFingerprint ≠ env.sha256 (env.canonicalize command) then
      .error (.idempotencyConflict command.executionRequestId)
    else do .ok (← toTaskSnapshot operation, db)
  | _, _ => do
    let stored ← insertSubmission env command ownerUserId submittedAt db
    let operation := acceptedOperation env command submittedAt db
    .ok
      ({ executionRequestId := command.executionRequestId
         decisionTaskId := operation.decisionTaskId
         agentRunId := operation.agentRunId
         state := .accepted
         terminal := false
         runtimeSnapshotId := none
         updatedAt := .toISOString submittedAt },
       stored)

section Submit
variable {env : Environment} {command : ExecuteDecisionTaskCommand} {ownerUserId : String}
  {submittedAt : Instant} {db db' : Store} {snapshot : DecisionTaskSnapshot}

theorem insertOperation_ok {operation : Operation} (h : insertOperation operation db = .ok db') :
    (∀ row ∈ db.operations, row.executionRequestId ≠ operation.executionRequestId) ∧
      ∃ operations, db.operations.insert? operation = some operations ∧
        db' = { db with operations } := by
  unfold insertOperation at h
  split at h
  · cases h
  split at h
  · cases h
  rename_i hunique
  simp only [bind_eq_ok, orUnavailable_eq_ok] at h
  obtain ⟨operations, hinsert, h⟩ := h
  cases h
  refine ⟨fun row hrow hsame => hunique (List.any_eq_true.mpr ⟨row, hrow, ?_⟩), operations,
    hinsert, rfl⟩
  simp [hsame]

theorem insertAgentRun_ok {run : AgentRun} (h : insertAgentRun run db = .ok db') :
    ∃ agentRuns, db.agentRuns.insert? run = some agentRuns ∧ db' = { db with agentRuns } ∧
      ∀ other ∈ db.agentRuns, other.operationId = run.operationId →
        other.attempt ≠ run.attempt := by
  unfold insertAgentRun at h
  split at h
  · cases h
  split at h
  · cases h
  rename_i hunique
  simp only [bind_eq_ok, orUnavailable_eq_ok] at h
  obtain ⟨agentRuns, hinsert, h⟩ := h
  cases h
  refine ⟨agentRuns, hinsert, rfl, fun other hother hoperation hattempt => ?_⟩
  refine hunique (List.any_eq_true.mpr ⟨other, hother, ?_⟩)
  simp [hoperation, hattempt]

theorem insertOutboxMessage_ok {message : OutboxMessage}
    (h : insertOutboxMessage message db = .ok db') :
    ∃ outbox, db.outbox.insert? message = some outbox ∧ db' = { db with outbox } ∧
      ∀ other ∈ db.outbox, other.operationId ≠ message.operationId := by
  unfold insertOutboxMessage at h
  split at h
  · cases h
  split at h
  · cases h
  rename_i hunique
  simp only [bind_eq_ok, orUnavailable_eq_ok] at h
  obtain ⟨outbox, hinsert, h⟩ := h
  cases h
  refine ⟨outbox, hinsert, rfl, fun other hother hoperation => ?_⟩
  exact hunique (List.any_eq_true.mpr ⟨other, hother, by simp [hoperation]⟩)

/-- The rows that a new submission inserts. -/
theorem insertSubmission_ok (h : insertSubmission env command ownerUserId submittedAt db = .ok db') :
    ∃ submissions operations agentRuns outbox,
      db.submissions.insert?
        ⟨command.executionRequestId, ownerUserId, env.sha256 (env.canonicalize command), command,
          submittedAt⟩ = some submissions ∧
      db.operations.insert? (acceptedOperation env command submittedAt db) = some operations ∧
      db.agentRuns.insert?
        ⟨"agent-run-" ++ env.randomUUID db.uuidsDrawn, env.randomUUID (db.uuidsDrawn + 1), 1,
          submittedAt⟩ = some agentRuns ∧
      db.outbox.insert?
        ⟨env.randomUUID (db.uuidsDrawn + 2), env.randomUUID (db.uuidsDrawn + 1), 0, submittedAt,
          none, submittedAt⟩ = some outbox ∧
      Appends
        { db with submissions, operations, agentRuns, outbox, uuidsDrawn := db.uuidsDrawn + 3 }
        [taskEvent env command.requirementRevision.decisionTaskId
          ("agent-run-" ++ env.randomUUID db.uuidsDrawn) 1 .taskStateChanged .created
          "决策任务已接受" submittedAt
          { db with submissions, operations, agentRuns, outbox, uuidsDrawn := db.uuidsDrawn + 3 }]
        db' ∧
      (∀ row ∈ db.operations, row.executionRequestId ≠ command.executionRequestId) ∧
      (∀ run ∈ db.agentRuns, run.operationId = env.randomUUID (db.uuidsDrawn + 1) →
        run.attempt ≠ 1) ∧
      ∀ message ∈ db.outbox, message.operationId ≠ env.randomUUID (db.uuidsDrawn + 1) := by
  simp only [insertSubmission, bind_eq_ok, orUnavailable_eq_ok] at h
  obtain ⟨submissions, hsubmissions, db₁, hoperation, db₂, hrun, db₃, houtbox, hevent⟩ := h
  obtain ⟨hfresh, operations, hoperations, rfl⟩ := insertOperation_ok hoperation
  obtain ⟨agentRuns, hagentRuns, rfl, hunattempted⟩ := insertAgentRun_ok hrun
  obtain ⟨outbox, houtboxRow, rfl, hunsent⟩ := insertOutboxMessage_ok houtbox
  exact ⟨submissions, operations, agentRuns, outbox, hsubmissions, hoperations, hagentRuns,
    houtboxRow, insertTaskEvent_appends hevent, hfresh, hunattempted, hunsent⟩

theorem submit_ok (h : submit env command ownerUserId submittedAt db = .ok (snapshot, db')) :
    db' = db ∨ insertSubmission env command ownerUserId submittedAt db = .ok db' := by
  unfold submit at h
  split at h
  · split at h
    · cases h
    · simp only [bind_eq_ok] at h
      obtain ⟨_, _, h⟩ := h
      cases h
      exact .inl rfl
  · simp only [bind_eq_ok] at h
    obtain ⟨stored, hstored, h⟩ := h
    cases h
    exact .inr hstored

end Submit

end ChoiceMind.TaskPersistence
