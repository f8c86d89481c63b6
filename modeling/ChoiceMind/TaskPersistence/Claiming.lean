import ChoiceMind.TaskPersistence.Tasks

/-!
# Claiming an operation from the stream

`claimNext` and the outbox publication that feeds it.
-/

namespace ChoiceMind.TaskPersistence

set_option autoImplicit false

open Contracts

structure DecisionTaskClaim where
  operationId : String
  agentRunId : String
  ownerUserId : String
  command : ExecuteDecisionTaskCommand
  deriving DecidableEq

inductive DecisionTaskClaimResult
  | claimed (claim : DecisionTaskClaim)
  | deferred
  | unknown
  | alreadyFinished
  deriving DecidableEq

/-- `RUNNING` with a lease that ended before `now`. -/
def Operation.leaseExpired (operation : Operation) (now : Instant) : Bool :=
  operation.state = .running && operation.leaseExpiresAt.any fun expiry => expiry < now

def Operation.claimable (operation : Operation) (now : Instant) : Bool :=
  operation.state = .accepted || operation.state = .failedRetryable || operation.leaseExpired now

def OperationState.isFinished : OperationState → Bool
  | .completed | .failedFinal | .partialResult | .cancelled => true
  | _ => false

/-- `COALESCE(MAX(attempt), 0) + 1` -/
def Store.nextAttempt (db : Store) (operationId : String) : Nat :=
  ((db.agentRuns.select fun run => run.operationId = operationId).map AgentRun.attempt).foldl
    max 0 + 1

/-- The agent run of a claim: a new one for a retry, the current one otherwise. -/
def claimAgentRun (env : Environment) (row : Operation) (claimedAt : Instant) (db : Store) :
    Except PersistenceError (String × Store) :=
  if row.state = .failedRetryable then do
    let agentRunId := "agent-run-" ++ env.randomUUID db.uuidsDrawn
    let db₁ ← insertAgentRun
      ⟨agentRunId, row.operationId, db.nextAttempt row.operationId, claimedAt⟩
      { db with uuidsDrawn := db.uuidsDrawn + 1 }
    let db₂ ← insertTaskEvent env row.decisionTaskId agentRunId 1 .taskStateChanged .created
      "决策任务开始新的重试执行" claimedAt db₁
    .ok (agentRunId, db₂)
  else .ok (row.agentRunId, db)

/-- The lease that a claim writes. -/
def leaseOperation (agentRunId workerId : String) (leaseExpiresAt claimedAt : Instant)
    (row : Operation) : Operation :=
  { row with
    agentRunId
    state := .running
    workerId := some workerId
    leaseExpiresAt := some leaseExpiresAt
    updatedAt := claimedAt }

theorem leaseOperation_operationId (agentRunId workerId : String) (leaseDurationMs : Nat)
    (claimedAt : Instant) (row : Operation) :
    (leaseOperation agentRunId workerId (claimedAt + leaseDurationMs) claimedAt row).operationId =
      row.operationId := rfl

/-- The event that a claim appends unless the run is already understanding. -/
def recordRunning (env : Environment) (decisionTaskId agentRunId : String) (claimedAt : Instant)
    (db : Store) : Except PersistenceError Store := do
  let existingEvents ← loadRunEvents decisionTaskId agentRunId db
  if existingEvents.getLast?.map RunEvent.taskState ≠ some .understanding then
    insertTaskEvent env decisionTaskId agentRunId (existingEvents.length + 1) .taskStateChanged
      .understanding "决策任务开始执行" claimedAt db
  else .ok db

/-- The constraint of the unique column `agent_run_id`. -/
def uniqueAgentRun (operationId agentRunId : String) (db : Store) : Bool :=
  !db.operations.rows.any fun row =>
    row.operationId ≠ operationId && row.agentRunId = agentRunId

def claimNext (env : Environment) (operationId workerId : String) (leaseDurationMs : Nat)
    (claimedAt : Instant) (db : Store) :
    Except PersistenceError (DecisionTaskClaimResult × Store) :=
  match db.operations.find? operationId with
  | none => .ok (.unknown, db)
  | some row =>
    match db.submissionOf row with
    | none => .ok (.unknown, db)
    | some submission =>
      if !row.claimable claimedAt then
        .ok (if row.state.isFinished then .alreadyFinished else .deferred, db)
      else do
        let command ← decodedOrUnavailable
          (decodeExecuteDecisionTaskCommandV1 submission.command)
        let (agentRunId, db₁) ← claimAgentRun env row claimedAt db
        if !uniqueAgentRun operationId agentRunId db₁ then unavailable
        else
          let db₂ := { db₁ with
            operations := db₁.operations.update operationId
              (leaseOperation agentRunId workerId (claimedAt + leaseDurationMs) claimedAt)
              (leaseOperation_operationId agentRunId workerId leaseDurationMs claimedAt) }
          let db₃ ← recordRunning env row.decisionTaskId agentRunId claimedAt db₂
          .ok (.claimed ⟨operationId, agentRunId, submission.ownerUserId, command⟩, db₃)

/-- The publisher's selection predicate on an outbox row and its operation. -/
def OutboxMessage.pending (message : OutboxMessage) (operation : Operation)
    (attemptedAt : Instant) : Bool :=
  message.nextAttemptAt ≤ attemptedAt &&
    (message.publishedAt.isNone || operation.state = .accepted ||
      operation.state = .failedRetryable || operation.leaseExpired attemptedAt)

/-- The pending message of least creation time and id, among the rows that no other
transaction has locked. -/
def Store.nextPending (env : Environment) (db : Store) (attemptedAt : Instant)
    (skipped : List String) : Option OutboxMessage :=
  ((db.outbox.select fun message =>
    message.messageId ∉ skipped &&
      (db.operations.find? message.operationId).any fun operation =>
        message.pending operation attemptedAt).insertionSort fun a b =>
    a.createdAt < b.createdAt ||
      (a.createdAt = b.createdAt && env.collate a.messageId b.messageId)).head?

structure OutboxPublisherBatchResult where
  attempted : Nat
  failed : Nat
  published : Nat
  deriving DecidableEq, Repr

/-- `publishNext`; `delivered` tells whether the stream accepted the message. The reply
also names the operation whose id was put on the stream. -/
def publishNext (env : Environment) (retryDelayMs republishDelayMs : Nat)
    (delivered : Bool) (skipped : List String) (attemptedAt : Instant) (db : Store) :
    (OutboxPublisherBatchResult × Option String) × Store :=
  match db.nextPending env attemptedAt skipped with
  | none => ((⟨0, 0, 0⟩, none), db)
  | some message =>
    if delivered then
      ((⟨1, 0, 1⟩, some message.operationId),
        { db with
          outbox := db.outbox.update message.messageId fun row =>
            { row with
              publishedAt := some attemptedAt
              nextAttemptAt := attemptedAt + republishDelayMs } })
    else
      ((⟨1, 1, 0⟩, none),
        { db with
          outbox := db.outbox.update message.messageId fun row =>
            { row with
              attempts := row.attempts + 1
              nextAttemptAt := attemptedAt + retryDelayMs } })

section Specs
variable {env : Environment} {operationId agentRunId workerId decisionTaskId : String}
  {leaseDurationMs : Nat} {claimedAt : Instant} {db db' : Store} {row : Operation}

/-- The first event of a retry, in the log of its fresh run. -/
def retryEvent (env : Environment) (row : Operation) (claimedAt : Instant) (db : Store) :
    RunEvent :=
  taskEvent env row.decisionTaskId ("agent-run-" ++ env.randomUUID db.uuidsDrawn) 1
    .taskStateChanged .created "决策任务开始新的重试执行" claimedAt
    { db with uuidsDrawn := db.uuidsDrawn + 1 }

theorem claimAgentRun_ok (h : claimAgentRun env row claimedAt db = .ok (agentRunId, db')) :
    (row.state ≠ .failedRetryable ∧ agentRunId = row.agentRunId ∧ db' = db) ∨
      (row.state = .failedRetryable ∧
        agentRunId = "agent-run-" ++ env.randomUUID db.uuidsDrawn ∧
        ∃ agentRuns, db.agentRuns.insert?
            ⟨agentRunId, row.operationId, db.nextAttempt row.operationId, claimedAt⟩ =
              some agentRuns ∧
          Appends { db with agentRuns, uuidsDrawn := db.uuidsDrawn + 1 }
            [retryEvent env row claimedAt db] db' ∧
          ∀ run ∈ db.agentRuns, run.operationId = row.operationId →
            run.attempt ≠ db.nextAttempt row.operationId) := by
  unfold claimAgentRun at h
  split at h
  · rename_i hstate
    simp only [bind_eq_ok] at h
    obtain ⟨db₁, hrun, db₂, hevent, h⟩ := h
    cases h
    obtain ⟨agentRuns, hinsert, rfl, hunattempted⟩ := insertAgentRun_ok hrun
    exact .inr ⟨hstate, rfl, agentRuns, hinsert, insertTaskEvent_appends hevent, hunattempted⟩
  · rename_i hstate
    cases h
    exact .inl ⟨hstate, rfl, rfl⟩

/-- What a claim appends to the log of its run. -/
def runningEvents (env : Environment) (decisionTaskId agentRunId : String) (claimedAt : Instant)
    (db : Store) : List RunEvent :=
  let existingEvents := db.runEventsOf decisionTaskId agentRunId
  if existingEvents.getLast?.map RunEvent.taskState ≠ some .understanding then
    [taskEvent env decisionTaskId agentRunId (existingEvents.length + 1) .taskStateChanged
      .understanding "决策任务开始执行" claimedAt db]
  else []

theorem agentRunId_runningEvents :
    ∀ event ∈ runningEvents env decisionTaskId agentRunId claimedAt db,
      event.agentRunId = agentRunId := by
  intro event hevent
  simp only [runningEvents] at hevent
  split at hevent
  · rw [List.mem_singleton.mp hevent]
    rfl
  · cases hevent

theorem taskState_runningEvents :
    ∀ event ∈ runningEvents env decisionTaskId agentRunId claimedAt db,
      event.taskState = .understanding := by
  intro event hevent
  simp only [runningEvents] at hevent
  split at hevent
  · rw [List.mem_singleton.mp hevent]
    rfl
  · cases hevent

theorem filter_runningEvents :
    (runningEvents env decisionTaskId agentRunId claimedAt db).filter
      (fun event => event.taskState = .created) = [] := by
  rw [List.filter_eq_nil_iff]
  intro event hevent
  rw [taskState_runningEvents event hevent]
  decide

theorem recordRunning_ok
    (h : recordRunning env decisionTaskId agentRunId claimedAt db = .ok db') :
    Appends db (runningEvents env decisionTaskId agentRunId claimedAt db) db' := by
  simp only [recordRunning, bind_eq_ok] at h
  obtain ⟨existingEvents, hload, h⟩ := h
  rw [loadRunEvents_eq hload] at h
  unfold runningEvents
  split at h
  · rename_i hlast
    rw [if_pos hlast]
    exact insertTaskEvent_appends h
  · rename_i hlast
    rw [if_neg hlast]
    cases h
    exact .refl _

theorem claimNext_ok {result : DecisionTaskClaimResult}
    (h : claimNext env operationId workerId leaseDurationMs claimedAt db = .ok (result, db')) :
    ((∀ claim, result ≠ .claimed claim) ∧ db' = db) ∨
      ∃ row claim db₁,
        db.operations.find? operationId = some row ∧ row.claimable claimedAt = true ∧
        result = .claimed claim ∧ claim.operationId = operationId ∧
        claimAgentRun env row claimedAt db = .ok (claim.agentRunId, db₁) ∧
        uniqueAgentRun operationId claim.agentRunId db₁ = true ∧
        recordRunning env row.decisionTaskId claim.agentRunId claimedAt
          { db₁ with
            operations := db₁.operations.update operationId
              (leaseOperation claim.agentRunId workerId (claimedAt + leaseDurationMs)
                claimedAt) } = .ok db' := by
  unfold claimNext at h
  split at h
  · cases h
    exact .inl ⟨by simp, rfl⟩
  rename_i row hrow
  split at h
  · cases h
    exact .inl ⟨by simp, rfl⟩
  rename_i submission _
  split at h
  · cases h
    refine .inl ⟨?_, rfl⟩
    intro claim
    split <;> simp
  rename_i hclaimable
  simp only [bind_eq_ok] at h
  obtain ⟨command, -, ⟨agentRunId, db₁⟩, hrun, h⟩ := h
  simp only at h
  split at h
  · cases h
  rename_i hunique
  simp only [bind_eq_ok] at h
  obtain ⟨db₂, hrecord, h⟩ := h
  cases h
  exact .inr ⟨row, ⟨operationId, agentRunId, submission.ownerUserId, command⟩, db₁, hrow,
    by simpa using hclaimable, rfl, rfl, hrun, by simpa using hunique, hrecord⟩

theorem publishNext_frame (env : Environment) (retryDelayMs republishDelayMs : Nat)
    (delivered : Bool) (skipped : List String) (attemptedAt : Instant) (db : Store) :
    ∃ outbox, (publishNext env retryDelayMs republishDelayMs delivered skipped attemptedAt db).2 =
        { db with outbox } ∧
      ∀ message ∈ outbox, ∃ old ∈ db.outbox,
        old.messageId = message.messageId ∧ old.operationId = message.operationId := by
  have hupdate : ∀ (messageId : String) (f : OutboxMessage → OutboxMessage)
      (hf : ∀ message, (f message).messageId = message.messageId)
      (_ : ∀ message, (f message).operationId = message.operationId),
      ∀ message ∈ db.outbox.update messageId f hf, ∃ old ∈ db.outbox,
        old.messageId = message.messageId ∧ old.operationId = message.operationId := by
    intro messageId f hf hsame message hmessage
    obtain ⟨old, hold, rfl⟩ := Table.mem_update.mp hmessage
    refine ⟨old, hold, ?_⟩
    split
    · exact ⟨(hf old).symm, (hsame old).symm⟩
    · exact ⟨rfl, rfl⟩
  unfold publishNext
  split
  · exact ⟨db.outbox, rfl, fun message hmessage => ⟨message, hmessage, rfl, rfl⟩⟩
  · split
    · exact ⟨_, rfl, hupdate _ _ _ fun _ => rfl⟩
    · exact ⟨_, rfl, hupdate _ _ _ fun _ => rfl⟩

end Specs

end ChoiceMind.TaskPersistence
