import ChoiceMind.TaskPersistence.Claiming

/-!
# Completing an operation

`complete` with the outcomes it decodes and the events each of them persists.
-/

namespace ChoiceMind.TaskPersistence

set_option autoImplicit false

open Contracts

inductive DecisionTaskCompletion
  | committedResult (result : DecisionTaskResult)
  | committedSnapshot (snapshot : DecisionTaskSnapshot)
  | notCompletable
  deriving DecidableEq

structure DecodedOutcome where
  state : OperationState
  payload : PersistentOutcome
  agentRunId : Option String
  decisionTaskId : Option String
  deriving DecidableEq

def decodePersistentOutcome : PersistentOutcome → Except PersistenceError DecodedOutcome
  | .paused outcome => do
    let paused ← decodedOrUnavailable (decodeRuntimePausedOutcomeV1 outcome)
    .ok ⟨.paused paused.state, .paused paused, some paused.snapshot.agentRunId,
      some paused.snapshot.decisionTaskId⟩
  | .failure outcome =>
    if isMeaningful outcome.summary then
      .ok ⟨outcome.state.toOperationState, .failure outcome, none, none⟩
    else unavailable
  | .result result => do
    match ← decodedOrUnavailable (decodeDecisionTaskResultV1 result) with
    | .succeeded value =>
      .ok ⟨.completed, .result (.succeeded value), some value.taskStatus.agentRunId,
        some value.taskStatus.decisionTaskId⟩
    | .failed value =>
      .ok ⟨.failedFinal, .result (.failed value), some value.taskStatus.agentRunId,
        some value.taskStatus.decisionTaskId⟩
    | .rejected _ => unavailable

def runtimeControlErrorFromOutcome : PersistentOutcome → Option RuntimeControlError
  | .paused outcome => some ⟨.runtimeResumeDenied, outcome.summary⟩
  | .failure outcome =>
    match outcome.runtimeControlError with
    | some error => some error
    | none =>
      match outcome.state with
      | .partialResult => none
      | _ => some ⟨.runtimeFailed, outcome.summary⟩
  | .result _ => none

def getPublicOutcomeSummary : OperationState → String
  | .failedRetryable => "决策任务暂时失败，等待重试"
  | .failedFinal => "决策任务执行失败，已结束"
  | .partialResult => "决策任务仅部分完成"
  | _ => "决策任务已完成"

/-- `[…].map((event, index, events) => …)` with the last event dated `persistedAt`. -/
def datedAtEnd (runEvents : List RunEvent) (persistedAt : Instant) : List RunEvent :=
  runEvents.zipIdx.map fun (event, index) =>
    { event with
      occurredAt :=
        if index = runEvents.length - 1 then .toISOString persistedAt else event.occurredAt }

/-- Number events after the first `count` of a run and give them fresh ids. -/
def renumber (env : Environment) (row : Operation) (count : Nat) (db : Store)
    (runEvents : List RunEvent) : List RunEvent :=
  runEvents.zipIdx.map fun (event, index) =>
    { event with
      eventId := db.eventId env index
      decisionTaskId := row.decisionTaskId
      agentRunId := row.agentRunId
      sequence := count + index + 1
      summary := publicRuntimeEventSummary event }

def resultRunEvents : DecisionTaskResult → List RunEvent
  | .succeeded result => result.runEvents
  | .failed result => result.runEvents
  | .rejected _ => []

def taskStatusUpdatedAt : DecisionTaskResult → Option UtcTimestamp
  | .succeeded result => some result.taskStatus.updatedAt
  | .failed result => some result.taskStatus.updatedAt
  | .rejected _ => none

/-- `{ ...outcome, taskStatus: { …, latestEventSequence, updatedAt }, runEvents }` -/
def withRunEvents (runEvents : List RunEvent) (latest : RunEvent) :
    DecisionTaskResult → DecisionTaskResult
  | .succeeded result =>
    .succeeded { result with
      runEvents
      taskStatus := { result.taskStatus with
        latestEventSequence := latest.sequence
        updatedAt := latest.occurredAt } }
  | .failed result =>
    .failed { result with
      runEvents
      taskStatus := { result.taskStatus with
        latestEventSequence := latest.sequence
        updatedAt := latest.occurredAt } }
  | .rejected error => .rejected error

/-- The events of a result that the log does not have yet; after a pause only the
completion is kept. -/
def resultEventsToPersist (existingEvents runEvents : List RunEvent) : List RunEvent :=
  let recoveredFromPause := existingEvents.any fun event => event.taskState.isPaused
  let eventsToPersist :=
    if recoveredFromPause then runEvents.filter fun event => event.taskState = .completed
    else runEvents
  eventsToPersist.filter fun event => event.taskState ∉ existingEvents.map RunEvent.taskState

def persistResultRunEvents (env : Environment) (row : Operation) (outcome : DecisionTaskResult)
    (persistedAt : Instant) (db : Store) :
    Except PersistenceError (DecisionTaskResult × Store) := do
  let existingEvents ← loadRunEvents row.decisionTaskId row.agentRunId db
  let kept := resultEventsToPersist existingEvents (resultRunEvents outcome)
  let newEvents := datedAtEnd (renumber env row existingEvents.length db kept) persistedAt
  if (existingEvents ++ newEvents).isEmpty then unavailable
  else
    let db₁ ← insertRunEvents persistedAt newEvents
      { db with uuidsDrawn := db.uuidsDrawn + newEvents.length }
    let runEvents :=
      if existingEvents.any fun event => event.taskState.isPaused then
        datedAtEnd ((resultRunEvents outcome).zipIdx.map fun (event, index) =>
          { event with sequence := index + 1, summary := publicRuntimeEventSummary event })
          persistedAt
      else existingEvents ++ newEvents
    match runEvents.getLast? with
    | none => unavailable
    | some latest =>
      let persisted ← decodePersistedResult (withRunEvents runEvents latest outcome) row
      .ok (persisted, db₁)

/-- The new events of a pause: those whose state is not in the log, or else one event
that repeats the pause when the log does not end with it. -/
def pausedEventsToPersist (env : Environment) (row : Operation)
    (outcome : RuntimePausedOutcome) (persistedAt : Instant) (existingEvents : List RunEvent)
    (db : Store) : List RunEvent :=
  let newEvents := (renumber env row existingEvents.length db
    (outcome.runEvents.filter fun event =>
      event.taskState ∉ existingEvents.map RunEvent.taskState)).map fun event =>
    { event with occurredAt := .toISOString persistedAt }
  match newEvents, outcome.runEvents.getLast? with
  | [], some latestOutcomeEvent =>
    if existingEvents.getLast?.map RunEvent.taskState ≠ some (.paused outcome.state) ∨
        existingEvents.getLast?.map RunEvent.summary ≠
          some (publicRuntimeEventSummary latestOutcomeEvent) then
      [{ latestOutcomeEvent with
          eventId := db.eventId env 0
          decisionTaskId := row.decisionTaskId
          agentRunId := row.agentRunId
          sequence := existingEvents.length + 1
          taskState := .paused outcome.state
          summary := publicRuntimeEventSummary latestOutcomeEvent
          occurredAt := .toISOString persistedAt }]
    else []
  | newEvents, _ => newEvents

def persistPausedRunEvents (env : Environment) (row : Operation)
    (outcome : RuntimePausedOutcome) (persistedAt : Instant) (db : Store) :
    Except PersistenceError (RuntimePausedOutcome × Store) := do
  let existingEvents ← loadRunEvents row.decisionTaskId row.agentRunId db
  let newEvents := pausedEventsToPersist env row outcome persistedAt existingEvents db
  let db₁ ← insertRunEvents persistedAt newEvents
    { db with uuidsDrawn := db.uuidsDrawn + newEvents.length }
  let persisted ← decodedOrUnavailable (decodeRuntimePausedOutcomeV1
    { outcome with runEvents := existingEvents ++ newEvents })
  .ok (persisted, db₁)

/-- The row after the `UPDATE … RETURNING` of `complete`. -/
def completedRow (row : Operation) (decoded : DecodedOutcome) (completedAt : Instant) :
    Operation :=
  { row with
    state := decoded.state
    resultPayload := some (.outcome decoded.payload)
    updatedAt := completedAt
    workerId := none
    leaseExpiresAt := none }

theorem completedRow_operationId (decoded : DecodedOutcome) (completedAt : Instant)
    (row : Operation) : (completedRow row decoded completedAt).operationId = row.operationId := rfl

/-- The condition of the `UPDATE` in `complete`. -/
def Operation.completableBy (row : Operation) (workerId : String) (decoded : DecodedOutcome)
    (completedAt : Instant) : Bool :=
  row.workerId = some workerId && row.state = .running &&
    (row.leaseExpiresAt.any fun expiry => completedAt ≤ expiry) &&
    (decoded.agentRunId.all fun agentRunId => row.agentRunId = agentRunId) &&
    decoded.decisionTaskId.all fun decisionTaskId => row.decisionTaskId = decisionTaskId

/-- Store the canonical payload of a completion and the time of its last event. -/
def rewriteResult (payload : PersistentOutcome) (updatedAt : Instant) (row : Operation) :
    Operation :=
  { row with resultPayload := some (.outcome payload), updatedAt }

/-- The part of `complete` between the two updates: events and canonical payload. -/
def persistOutcome (env : Environment) (row : Operation) (payload : PersistentOutcome)
    (completedAt : Instant) (db : Store) :
    Except PersistenceError (DecisionTaskCompletion × Store) :=
  match payload with
  | .paused outcome => do
    let (persisted, db₁) ← persistPausedRunEvents env row outcome completedAt db
    match persisted.runEvents.getLast? with
    | none => unavailable
    | some latest =>
      let updatedAt := latest.occurredAt.parse
      let snapshot ← toTaskSnapshot (rewriteResult (.paused persisted) updatedAt row)
      .ok (.committedSnapshot snapshot,
        { db₁ with
          operations := db₁.operations.update row.operationId
            (rewriteResult (.paused persisted) updatedAt) })
  | .result outcome => do
    let (persisted, db₁) ← persistResultRunEvents env row outcome completedAt db
    match taskStatusUpdatedAt persisted with
    | none => unavailable
    | some updatedAt =>
      let db₂ := { db₁ with
        operations := db₁.operations.update row.operationId
          (rewriteResult (.result persisted) updatedAt.parse) }
      if row.state = .completed then .ok (.committedResult persisted, db₂)
      else do .ok (.committedSnapshot (← toTaskSnapshot row), db₂)
  | .failure _ => do
    let existingEvents ← loadRunEvents row.decisionTaskId row.agentRunId db
    let db₁ ← insertTaskEvent env row.decisionTaskId row.agentRunId (existingEvents.length + 1)
      .runtimeFailed .failed (getPublicOutcomeSummary row.state) completedAt db
    .ok (.committedSnapshot (← toTaskSnapshot row), db₁)

/-- The control request that a completion finishes. -/
def ControlRequest.finishedBy (request : ControlRequest) (controlRequestId operationId
    workerId : String) : Bool :=
  request.controlRequestId = controlRequestId && request.operationId = operationId &&
    request.workerId = some workerId && request.state = .running

def finishControlRequest (payload : PersistentOutcome) (completedAt : Instant)
    (request : ControlRequest) : ControlRequest :=
  { request with
    state := if (runtimeControlErrorFromOutcome payload).isSome then .failed else .completed
    workerId := none
    leaseExpiresAt := none
    resultPayload := (runtimeControlErrorFromOutcome payload).map .error
    updatedAt := completedAt }

theorem finishControlRequest_key (payload : PersistentOutcome) (completedAt : Instant) :
    ∀ request : ControlRequest, (finishControlRequest payload completedAt request).controlRequestId =
      request.controlRequestId := fun _ => rfl

/-- The control requests after a completion that names `controlRequestId`. -/
def finishRequests (controlRequestId : Option String) (operationId workerId : String)
    (payload : PersistentOutcome) (completedAt : Instant)
    (requests : Table ControlRequest.controlRequestId) : Table ControlRequest.controlRequestId :=
  match controlRequestId with
  | none => requests
  | some requestId =>
    requests.updateWhere (fun request => request.finishedBy requestId operationId workerId)
      (finishControlRequest payload completedAt) (finishControlRequest_key payload completedAt)

def complete (env : Environment) (operationId workerId : String) (outcome : PersistentOutcome)
    (controlRequestId : Option String) (completedAt : Instant) (db : Store) :
    Except PersistenceError (DecisionTaskCompletion × Store) := do
  let decoded ← decodePersistentOutcome outcome
  match db.operations.find? operationId with
  | none => .ok (.notCompletable, db)
  | some operation =>
    if (db.submissionOf operation).isNone ||
        !operation.completableBy workerId decoded completedAt then .ok (.notCompletable, db)
    else
      let row := completedRow operation decoded completedAt
      let operations := db.operations.update operationId (completedRow · decoded completedAt)
        (completedRow_operationId decoded completedAt)
      let (completion, db₂) ← persistOutcome env row decoded.payload completedAt
        { db with operations }
      match controlRequestId with
      | none => .ok (completion, db₂)
      | some requestId =>
        let finished (request : ControlRequest) : Bool :=
          request.finishedBy requestId operationId workerId
        let controlRequests := finishRequests controlRequestId operationId workerId
          decoded.payload completedAt db₂.controlRequests
        if db₂.controlRequests.rows.any finished then
          .ok (completion, { db₂ with controlRequests })
        -- the transaction is rolled back
        else .ok (.notCompletable, db)

section Specs
variable {env : Environment} {row : Operation} {completedAt : Instant} {db db' : Store}

theorem decodePersistentOutcome_paused {outcome : RuntimePausedOutcome} {decoded : DecodedOutcome}
    (h : decodePersistentOutcome (.paused outcome) = .ok decoded) :
    decodeRuntimePausedOutcomeV1 outcome = .ok outcome ∧
      decoded = ⟨.paused outcome.state, .paused outcome, some outcome.snapshot.agentRunId,
        some outcome.snapshot.decisionTaskId⟩ := by
  simp only [decodePersistentOutcome, bind_eq_ok, decodedOrUnavailable_eq_ok] at h
  obtain ⟨paused, hpaused, h⟩ := h
  obtain ⟨rfl, -⟩ := decodeRuntimePausedOutcomeV1_ok hpaused
  cases h
  exact ⟨hpaused, rfl⟩

theorem decodePersistentOutcome_failure {outcome : FailureOutcome} {decoded : DecodedOutcome}
    (h : decodePersistentOutcome (.failure outcome) = .ok decoded) :
    decoded = ⟨outcome.state.toOperationState, .failure outcome, none, none⟩ := by
  simp only [decodePersistentOutcome] at h
  split at h
  · cases h
    rfl
  · cases h

theorem decodePersistentOutcome_result {result : DecisionTaskResult} {decoded : DecodedOutcome}
    (h : decodePersistentOutcome (.result result) = .ok decoded) :
    decodeDecisionTaskResultV1 result = .ok result ∧
      ((∃ value, result = .succeeded value ∧
          decoded = ⟨.completed, .result result, some value.taskStatus.agentRunId,
            some value.taskStatus.decisionTaskId⟩) ∨
        ∃ value, result = .failed value ∧
          decoded = ⟨.failedFinal, .result result, some value.taskStatus.agentRunId,
            some value.taskStatus.decisionTaskId⟩) := by
  simp only [decodePersistentOutcome, bind_eq_ok, decodedOrUnavailable_eq_ok] at h
  obtain ⟨value, hvalue, h⟩ := h
  obtain ⟨rfl, -⟩ := decodeDecisionTaskResultV1_eq_ok.mp hvalue
  refine ⟨hvalue, ?_⟩
  cases value with
  | succeeded value =>
    cases h
    exact .inl ⟨value, rfl, rfl⟩
  | failed value =>
    cases h
    exact .inr ⟨value, rfl, rfl⟩
  | rejected error => cases h

/-- A decoded outcome carries the outcome it was decoded from. -/
theorem decodePersistentOutcome_payload {outcome : PersistentOutcome} {decoded : DecodedOutcome}
    (h : decodePersistentOutcome outcome = .ok decoded) : decoded.payload = outcome := by
  cases outcome with
  | paused outcome => rw [(decodePersistentOutcome_paused h).2]
  | failure outcome => rw [decodePersistentOutcome_failure h]
  | result result =>
    rcases (decodePersistentOutcome_result h).2 with ⟨_, -, rfl⟩ | ⟨_, -, rfl⟩ <;> rfl

/-- A completion leaves an operation in one of the states that an outcome names. -/
theorem decodePersistentOutcome_state {outcome : PersistentOutcome} {decoded : DecodedOutcome}
    (h : decodePersistentOutcome outcome = .ok decoded) :
    decoded.state ≠ .accepted ∧ decoded.state ≠ .running ∧ decoded.state ≠ .cancelled := by
  cases outcome with
  | paused outcome =>
    rw [(decodePersistentOutcome_paused h).2]
    simp
  | failure outcome =>
    rw [decodePersistentOutcome_failure h]
    cases outcome.state <;> simp [FailureState.toOperationState]
  | result result =>
    rcases (decodePersistentOutcome_result h).2 with ⟨_, -, rfl⟩ | ⟨_, -, rfl⟩ <;> simp

/-- An outcome that leads to a retry names no run. -/
theorem decodePersistentOutcome_retryable {outcome : PersistentOutcome} {decoded : DecodedOutcome}
    (h : decodePersistentOutcome outcome = .ok decoded)
    (hstate : decoded.state = .failedRetryable) : decoded.agentRunId = none := by
  cases outcome with
  | paused outcome =>
    rw [(decodePersistentOutcome_paused h).2] at hstate
    cases hstate
  | failure outcome => rw [decodePersistentOutcome_failure h]
  | result result =>
    rcases (decodePersistentOutcome_result h).2 with ⟨_, -, rfl⟩ | ⟨_, -, rfl⟩ <;> cases hstate

/-- The events that a result appends. -/
def resultEvents (env : Environment) (row : Operation) (outcome : DecisionTaskResult)
    (persistedAt : Instant) (db : Store) : List RunEvent :=
  let existingEvents := db.runEventsOf row.decisionTaskId row.agentRunId
  datedAtEnd (renumber env row existingEvents.length db
    (resultEventsToPersist existingEvents (resultRunEvents outcome))) persistedAt

/-- The event that a bare failure appends. -/
def failureEvent (env : Environment) (row : Operation) (completedAt : Instant) (db : Store) :
    RunEvent :=
  taskEvent env row.decisionTaskId row.agentRunId
    ((db.runEventsOf row.decisionTaskId row.agentRunId).length + 1) .runtimeFailed .failed
    (getPublicOutcomeSummary row.state) completedAt db

/-- The events that a completion appends to the log of the operation's run. -/
def outcomeEvents (env : Environment) (row : Operation) (payload : PersistentOutcome)
    (completedAt : Instant) (db : Store) : List RunEvent :=
  match payload with
  | .paused outcome => pausedEventsToPersist env row outcome completedAt
      (db.runEventsOf row.decisionTaskId row.agentRunId) db
  | .result outcome => resultEvents env row outcome completedAt db
  | .failure _ => [failureEvent env row completedAt db]

theorem agentRunId_renumber {count : Nat} {events : List RunEvent} :
    ∀ event ∈ renumber env row count db events, event.agentRunId = row.agentRunId := by
  intro event hevent
  obtain ⟨_, -, rfl⟩ := List.mem_map.mp hevent
  rfl

theorem agentRunId_datedAtEnd {events : List RunEvent} {agentRunId : String}
    (h : ∀ event ∈ events, event.agentRunId = agentRunId) :
    ∀ event ∈ datedAtEnd events completedAt, event.agentRunId = agentRunId := by
  intro event hevent
  obtain ⟨⟨old, index⟩, hold, rfl⟩ := List.mem_map.mp hevent
  exact h old (List.fst_mem_of_mem_zipIdx hold)

theorem agentRunId_pausedEventsToPersist {outcome : RuntimePausedOutcome}
    {existingEvents : List RunEvent} :
    ∀ event ∈ pausedEventsToPersist env row outcome completedAt existingEvents db,
      event.agentRunId = row.agentRunId := by
  have hnew : ∀ event ∈ (renumber env row existingEvents.length db
      (outcome.runEvents.filter fun event =>
        event.taskState ∉ existingEvents.map RunEvent.taskState)).map fun event =>
      { event with occurredAt := .toISOString completedAt }, event.agentRunId = row.agentRunId := by
    intro event hevent
    obtain ⟨old, hold, rfl⟩ := List.mem_map.mp hevent
    exact agentRunId_renumber old hold
  intro event hevent
  simp only [pausedEventsToPersist] at hevent
  split at hevent
  · split at hevent
    · rw [List.mem_singleton.mp hevent]
    · cases hevent
  · exact hnew event hevent

/-- A completion appends to the log of the operation's run only. -/
theorem agentRunId_outcomeEvents {payload : PersistentOutcome} :
    ∀ event ∈ outcomeEvents env row payload completedAt db,
      event.agentRunId = row.agentRunId := by
  cases payload with
  | paused outcome => exact agentRunId_pausedEventsToPersist
  | result outcome => exact agentRunId_datedAtEnd agentRunId_renumber
  | failure outcome =>
    intro event hevent
    rw [List.mem_singleton.mp hevent]
    rfl

theorem taskState_renumber_mem {count : Nat} {events : List RunEvent} :
    ∀ event ∈ renumber env row count db events, ∃ old ∈ events,
      old.taskState = event.taskState := by
  intro event hevent
  obtain ⟨⟨old, index⟩, hold, rfl⟩ := List.mem_map.mp hevent
  exact ⟨old, List.fst_mem_of_mem_zipIdx hold, rfl⟩

/-- An outcome adds a creation event only to a log without one. -/
theorem created_outcomeEvents {payload : PersistentOutcome} :
    ∀ event ∈ outcomeEvents env row payload completedAt db, event.taskState = .created →
      .created ∉ (db.runEventsOf row.decisionTaskId row.agentRunId).map RunEvent.taskState := by
  intro event hevent hcreated
  cases payload with
  | paused outcome =>
    simp only [outcomeEvents, pausedEventsToPersist] at hevent
    split at hevent
    · split at hevent
      · rw [List.mem_singleton.mp hevent] at hcreated
        cases hcreated
      · cases hevent
    · obtain ⟨renumbered, hrenumbered, rfl⟩ := List.mem_map.mp hevent
      obtain ⟨old, hold, hstate⟩ := taskState_renumber_mem renumbered hrenumbered
      have hnew := (List.mem_filter.mp hold).2
      rw [hstate, show renumbered.taskState = .created from hcreated] at hnew
      simpa using hnew
  | result outcome =>
    obtain ⟨⟨renumbered, index⟩, hrenumbered, rfl⟩ := List.mem_map.mp hevent
    obtain ⟨old, hold, hstate⟩ := taskState_renumber_mem _ (List.fst_mem_of_mem_zipIdx hrenumbered)
    have hnew := (List.mem_filter.mp hold).2
    rw [hstate, show renumbered.taskState = .created from hcreated] at hnew
    simpa using hnew
  | failure outcome =>
    rw [List.mem_singleton.mp hevent] at hcreated
    cases hcreated

/-- The canonical payload is of the outcome's kind, a pause keeps its snapshot, and what is
stored of the row can be read back. -/
inductive Rewrites (row : Operation) : PersistentOutcome → (Operation → Operation) → Prop where
  | paused {outcome persisted : RuntimePausedOutcome}
      (hsnapshot : persisted.snapshot = outcome.snapshot) (updatedAt : Instant)
      (hreadable : (toTaskSnapshot (rewriteResult (.paused persisted) updatedAt row)).isOk = true) :
      Rewrites row (.paused outcome) (rewriteResult (.paused persisted) updatedAt)
  | result {outcome persisted : DecisionTaskResult} (updatedAt : Instant)
      (hreadable : decodePersistedResult persisted row = .ok persisted) :
      Rewrites row (.result outcome) (rewriteResult (.result persisted) updatedAt)
  | failure {outcome : FailureOutcome} : Rewrites row (.failure outcome) id

theorem Rewrites.operationId {payload : PersistentOutcome} {rewrite : Operation → Operation}
    (h : Rewrites row payload rewrite) (row : Operation) :
    (rewrite row).operationId = row.operationId := by
  cases h <;> rfl

theorem persistPausedRunEvents_ok {outcome persisted : RuntimePausedOutcome}
    (h : persistPausedRunEvents env row outcome completedAt db = .ok (persisted, db')) :
    persisted.snapshot = outcome.snapshot ∧
      Appends db (outcomeEvents env row (.paused outcome) completedAt db) db' := by
  simp only [persistPausedRunEvents, bind_eq_ok, decodedOrUnavailable_eq_ok] at h
  obtain ⟨existingEvents, hload, db₁, hinsert, decoded, hdecoded, h⟩ := h
  cases h
  rw [loadRunEvents_eq hload] at hinsert
  rw [(decodeRuntimePausedOutcomeV1_ok hdecoded).1]
  exact ⟨rfl, (insertRunEvents_appends hinsert).of_drawn (Nat.le_add_right _ _)⟩

theorem persistResultRunEvents_ok {outcome persisted : DecisionTaskResult}
    (h : persistResultRunEvents env row outcome completedAt db = .ok (persisted, db')) :
    decodePersistedResult persisted row = .ok persisted ∧
      Appends db (outcomeEvents env row (.result outcome) completedAt db) db' := by
  simp only [persistResultRunEvents, bind_eq_ok] at h
  obtain ⟨existingEvents, hload, h⟩ := h
  rw [loadRunEvents_eq hload] at h
  split at h
  · cases h
  simp only [bind_eq_ok] at h
  obtain ⟨db₁, hinsert, h⟩ := h
  split at h
  · cases h
  simp only [bind_eq_ok] at h
  obtain ⟨decoded, hdecoded, h⟩ := h
  cases h
  refine ⟨?_, (insertRunEvents_appends hinsert).of_drawn (Nat.le_add_right _ _)⟩
  obtain rfl := (decodePersistedResult_ok hdecoded).1
  exact hdecoded

theorem persistOutcome_ok {payload : PersistentOutcome} {completion : DecisionTaskCompletion}
    (h : persistOutcome env row payload completedAt db = .ok (completion, db')) :
    completion ≠ .notCompletable ∧
      ∃ rewrite, ∃ hrewrite : Rewrites row payload rewrite, ∃ db₁,
        Appends db (outcomeEvents env row payload completedAt db) db₁ ∧
        db' = { db₁ with
          operations := db₁.operations.update row.operationId rewrite hrewrite.operationId } := by
  cases payload with
  | paused outcome =>
    simp only [persistOutcome, bind_eq_ok] at h
    obtain ⟨⟨persisted, db₁⟩, hpersist, h⟩ := h
    obtain ⟨hsnapshot, happends⟩ := persistPausedRunEvents_ok hpersist
    simp only at h
    split at h
    · cases h
    simp only [bind_eq_ok] at h
    obtain ⟨snapshot, hreadable, h⟩ := h
    cases h
    refine ⟨by simp, _, .paused hsnapshot _ ?_, db₁, happends, rfl⟩
    rw [hreadable]
    rfl
  | result outcome =>
    simp only [persistOutcome, bind_eq_ok] at h
    obtain ⟨⟨persisted, db₁⟩, hpersist, h⟩ := h
    obtain ⟨hreadable, happends⟩ := persistResultRunEvents_ok hpersist
    simp only at h
    split at h
    · cases h
    split at h
    · cases h
      exact ⟨by simp, _, .result _ hreadable, db₁, happends, rfl⟩
    · simp only [bind_eq_ok] at h
      obtain ⟨snapshot, -, h⟩ := h
      cases h
      exact ⟨by simp, _, .result _ hreadable, db₁, happends, rfl⟩
  | failure outcome =>
    simp only [persistOutcome, bind_eq_ok] at h
    obtain ⟨existingEvents, hload, db₁, hevent, snapshot, -, h⟩ := h
    cases h
    rw [loadRunEvents_eq hload] at hevent
    refine ⟨by simp, id, .failure, db', insertTaskEvent_appends hevent, ?_⟩
    rw [Table.update_id]

theorem complete_ok {operationId workerId : String} {outcome : PersistentOutcome}
    {controlRequestId : Option String} {completion : DecisionTaskCompletion}
    (h : complete env operationId workerId outcome controlRequestId completedAt db =
      .ok (completion, db')) :
    (completion = .notCompletable ∧ db' = db) ∨
      completion ≠ .notCompletable ∧ ∃ row decoded db₁,
        db.operations.find? operationId = some row ∧
        decodePersistentOutcome outcome = .ok decoded ∧
        row.completableBy workerId decoded completedAt = true ∧
        persistOutcome env (completedRow row decoded completedAt) decoded.payload completedAt
          { db with
            operations := db.operations.update operationId
              (completedRow · decoded completedAt)
              (completedRow_operationId decoded completedAt) } = .ok (completion, db₁) ∧
        (∀ requestId ∈ controlRequestId, ∃ request ∈ db₁.controlRequests,
          request.finishedBy requestId operationId workerId = true) ∧
        db' = { db₁ with
          controlRequests := finishRequests controlRequestId operationId workerId
            decoded.payload completedAt db₁.controlRequests } := by
  simp only [complete, bind_eq_ok] at h
  obtain ⟨decoded, hdecoded, h⟩ := h
  split at h
  · cases h
    exact .inl ⟨rfl, rfl⟩
  rename_i row hrow
  split at h
  · cases h
    exact .inl ⟨rfl, rfl⟩
  rename_i hcompletable
  rw [Bool.or_eq_true, not_or, Bool.not_eq_true', Bool.not_eq_false] at hcompletable
  simp only [bind_eq_ok] at h
  obtain ⟨⟨committed, db₁⟩, hpersist, h⟩ := h
  have hcommitted := (persistOutcome_ok hpersist).1
  split at h
  · cases h
    exact .inr ⟨hcommitted, row, decoded, db₁, hrow, hdecoded, hcompletable.2, hpersist,
      by simp, rfl⟩
  · rename_i requestId
    split at h
    · rename_i hfinished
      cases h
      refine .inr ⟨hcommitted, row, decoded, db₁, hrow, hdecoded, hcompletable.2, hpersist, ?_, rfl⟩
      rintro _ ⟨⟩
      obtain ⟨request, hrequest, hby⟩ := List.any_eq_true.mp hfinished
      exact ⟨request, hrequest, hby⟩
    · cases h
      exact .inl ⟨rfl, rfl⟩

end Specs

end ChoiceMind.TaskPersistence
