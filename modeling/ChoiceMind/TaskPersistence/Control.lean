import ChoiceMind.TaskPersistence.Completion

/-!
# Runtime control requests

`requestRuntimeResume`, `requestRuntimeCancel`, `cancelActiveTasksForOwner` and
`claimNextRuntimeControl`, the second way in which an operation is handed to a worker.
-/

namespace ChoiceMind.TaskPersistence

set_option autoImplicit false

open Contracts

structure RuntimeResumeRequestInput where
  controlRequestId : String
  decisionTaskId : String
  ownerUserId : String
  runtimeSnapshotId : String
  correlationId : String
  egressConfirmation : EgressConfirmation
  deriving DecidableEq

structure RuntimeCancelRequestInput where
  controlRequestId : String
  decisionTaskId : String
  ownerUserId : String
  cancellationId : String
  correlationId : String
  deriving DecidableEq

structure RuntimeControlStatus where
  controlRequestId : String
  decisionTaskId : String
  agentRunId : String
  action : ControlAction
  state : ControlRequestState
  error : Option RuntimeControlError
  updatedAt : UtcTimestamp
  deriving DecidableEq

def decodeRuntimeControlError : Option ControlRequestPayload → Option RuntimeControlError
  | some (.error error) => if isMeaningful error.message then some error else none
  | _ => none

def toRuntimeControlStatus (row : ControlRequest) :
    Except PersistenceError RuntimeControlStatus :=
  let error :=
    if row.state = .failed then decodeRuntimeControlError row.resultPayload else none
  if row.state = .failed ∧ error.isNone then unavailable
  else .ok
    { controlRequestId := row.controlRequestId
      decisionTaskId := row.decisionTaskId
      agentRunId := row.agentRunId
      action := row.action
      state := row.state
      error
      updatedAt := .toISOString row.updatedAt }

/-- `INSERT INTO runtime_control_requests` with its three foreign keys. -/
def insertControlRequest (request : ControlRequest) (db : Store) :
    Except PersistenceError Store := do
  if (db.operations.find? request.operationId).isNone ||
      (db.agentRuns.find? request.agentRunId).isNone ||
      (request.action.runtimeSnapshotId.any fun snapshotId =>
        (db.recoveryFacts.find? snapshotId).isNone) then unavailable
  else
    .ok { db with controlRequests := ← orUnavailable (db.controlRequests.insert? request) }

/-- The row of an accepted resume request. -/
def resumeRequest (input : RuntimeResumeRequestInput) (operation : Operation)
    (requestedAt : Instant) : ControlRequest where
  controlRequestId := input.controlRequestId
  operationId := operation.operationId
  decisionTaskId := input.decisionTaskId
  agentRunId := operation.agentRunId
  ownerUserId := input.ownerUserId
  action := .resume input.runtimeSnapshotId
  correlationId := input.correlationId
  confirmation := some input.egressConfirmation
  state := .accepted
  workerId := none
  leaseExpiresAt := none
  resultPayload := none
  createdAt := requestedAt
  updatedAt := requestedAt

/-- The stored request has the fields of the repeated one. -/
def ControlRequest.repeats (existing request : ControlRequest) : Bool :=
  existing.operationId = request.operationId &&
    existing.decisionTaskId = request.decisionTaskId &&
    existing.agentRunId = request.agentRunId && existing.ownerUserId = request.ownerUserId &&
    existing.action = request.action && existing.correlationId = request.correlationId &&
    existing.confirmation = request.confirmation

def requestRuntimeResume (input : RuntimeResumeRequestInput) (requestedAt : Instant)
    (db : Store) : Except PersistenceError (Option RuntimeControlStatus × Store) := do
  if input.egressConfirmation.operationId ≠ input.controlRequestId ∨
      input.egressConfirmation.userId ≠ input.ownerUserId then .error .runtimeResumeDenied
  else match db.latestOperation input.decisionTaskId input.ownerUserId with
    | none => .ok (none, db)
    | some operation =>
      let request := resumeRequest input operation requestedAt
      match db.controlRequests.find? input.controlRequestId with
      | some existing =>
        if existing.repeats request then .ok (some (← toRuntimeControlStatus existing), db)
        else .error (.idempotencyConflict input.controlRequestId)
      | none =>
        let snapshot ← toTaskSnapshot operation
        if !operation.state.isPaused ∨
            snapshot.runtimeSnapshotId ≠ some input.runtimeSnapshotId then
          .error .runtimeResumeDenied
        else
          let db₁ ← insertControlRequest request db
          .ok (some (← toRuntimeControlStatus request), db₁)

/-- The terminal states that a cancellation does not overwrite. -/
def OperationState.isFinal (state : OperationState) : Bool :=
  state = .completed || state = .failedFinal || state = .cancelled

/-- The row of a cancellation, which is finished as soon as it is stored. -/
def cancelRequest (input : RuntimeCancelRequestInput) (operation : Operation)
    (cancelledAt : Instant) : ControlRequest where
  controlRequestId := input.controlRequestId
  operationId := operation.operationId
  decisionTaskId := input.decisionTaskId
  agentRunId := operation.agentRunId
  ownerUserId := input.ownerUserId
  action := .cancel input.cancellationId
  correlationId := input.correlationId
  confirmation := none
  state := .completed
  workerId := none
  leaseExpiresAt := none
  resultPayload := some .cancelled
  createdAt := cancelledAt
  updatedAt := cancelledAt

/-- `INSERT INTO runtime_control_states … ON CONFLICT (agent_run_id) DO UPDATE` of a
cancellation, which keeps the snapshot of an existing row. -/
def cancelControlState (agentRunId cancellationId : String) (event : RunEvent)
    (cancelledAt : Instant) (db : Store) : Except PersistenceError Store := do
  let cancelled : ControlState :=
    { agentRunId
      snapshotId := none
      state := .cancelled
      cancellationId := some cancellationId
      events := [event]
      controllerId := none
      leaseExpiresAt := none
      updatedAt := cancelledAt }
  match db.controlStates.find? agentRunId with
  | none => .ok { db with controlStates := ← orUnavailable (db.controlStates.insert? cancelled) }
  | some _ =>
    .ok { db with
      controlStates := db.controlStates.update agentRunId fun row =>
        { cancelled with agentRunId := row.agentRunId, snapshotId := row.snapshotId } }

def cancelledOperation (cancelledAt : Instant) (row : Operation) : Operation :=
  { row with
    state := .cancelled
    resultPayload := some .cancelled
    workerId := none
    leaseExpiresAt := none
    updatedAt := cancelledAt }

theorem cancelledOperation_operationId (cancelledAt : Instant) (row : Operation) :
    (cancelledOperation cancelledAt row).operationId = row.operationId := rfl

def requestRuntimeCancel (env : Environment) (input : RuntimeCancelRequestInput)
    (cancelledAt : Instant) (db : Store) :
    Except PersistenceError (Option RuntimeControlStatus × Store) := do
  match db.latestOperation input.decisionTaskId input.ownerUserId with
  | none => .ok (none, db)
  | some operation =>
    let request := cancelRequest input operation cancelledAt
    match db.controlRequests.find? input.controlRequestId with
    | some existing =>
      if existing.repeats request then .ok (some (← toRuntimeControlStatus existing), db)
      else .error (.idempotencyConflict input.controlRequestId)
    | none =>
      if operation.state.isFinal then .error .runtimeCancelRace
      else
        let existingEvents ← loadRunEvents operation.decisionTaskId operation.agentRunId db
        let cancelEvent := taskEvent env operation.decisionTaskId operation.agentRunId
          (existingEvents.length + 1) .taskStateChanged .cancelled "决策任务已取消" cancelledAt db
        let db₁ ← insertControlRequest request db
        let db₂ ← cancelControlState operation.agentRunId input.cancellationId cancelEvent
          cancelledAt db₁
        let db₃ := { db₂ with
          operations := db₂.operations.update operation.operationId
            (cancelledOperation cancelledAt) (cancelledOperation_operationId cancelledAt) }
        let db₄ ← insertTaskEvent env operation.decisionTaskId operation.agentRunId
          (existingEvents.length + 1) .taskStateChanged .cancelled "决策任务已取消" cancelledAt db₃
        .ok (some (← toRuntimeControlStatus request), db₄)

/-- The tasks whose latest operation of the owner is not finished. -/
def Store.activeTasks (env : Environment) (db : Store) (ownerUserId : String) :
    List String :=
  let tasks := ((db.operations.select fun operation =>
    db.ownerOf operation = some ownerUserId).map Operation.decisionTaskId).dedup
  (tasks.filter fun decisionTaskId =>
    (db.latestOperation decisionTaskId ownerUserId).any fun operation =>
      !operation.state.isFinal).insertionSort fun a b => env.collate a b

/-- The input of the loop's next call, with two fresh UUIDs. -/
def lifecycleInput (env : Environment) (ownerUserId correlationId decisionTaskId : String)
    (db : Store) : RuntimeCancelRequestInput where
  controlRequestId := "account-lifecycle-" ++ env.randomUUID db.uuidsDrawn
  decisionTaskId
  ownerUserId
  cancellationId := "account-lifecycle-" ++ env.randomUUID (db.uuidsDrawn + 1)
  correlationId

/-- The loop of `cancelActiveTasksForOwner`: a task that has finished meanwhile is passed
over, any other error ends the loop after the tasks already cancelled. -/
def cancelTasks (env : Environment) (ownerUserId correlationId : String)
    (cancelledAt : Instant) :
    List String → Nat → Store → Except PersistenceError Nat × Store
  | [], cancelled, db => (.ok cancelled, db)
  | decisionTaskId :: tasks, cancelled, db =>
    let input := lifecycleInput env ownerUserId correlationId decisionTaskId db
    let drawn := { db with uuidsDrawn := db.uuidsDrawn + 2 }
    match requestRuntimeCancel env input cancelledAt drawn with
    | .ok (some _, db') => cancelTasks env ownerUserId correlationId cancelledAt tasks
        (cancelled + 1) db'
    | .ok (none, db') => cancelTasks env ownerUserId correlationId cancelledAt tasks cancelled db'
    | .error .runtimeCancelRace =>
      cancelTasks env ownerUserId correlationId cancelledAt tasks cancelled drawn
    | .error error => (.error error, drawn)

def cancelActiveTasksForOwner (env : Environment) (ownerUserId correlationId : String)
    (cancelledAt : Instant) (db : Store) : Except PersistenceError Nat × Store :=
  cancelTasks env ownerUserId correlationId cancelledAt (db.activeTasks env ownerUserId) 0
    db

structure RuntimeControlClaim where
  controlRequestId : String
  operationId : String
  decisionTaskId : String
  agentRunId : String
  ownerUserId : String
  correlationId : String
  egressConfirmation : EgressConfirmation
  command : ExecuteDecisionTaskCommand
  snapshot : RuntimeSnapshot
  effectReceipts : List EffectReceipt
  deriving DecidableEq

inductive RuntimeControlClaimResult
  | claimed (claim : RuntimeControlClaim)
  | empty
  deriving DecidableEq

/-- The `WHERE` clause of `claimNextRuntimeControl`: an accepted resume request, or a
running one whose own lease has ended. -/
def ControlRequest.claimable (request : ControlRequest) (claimedAt : Instant) : Bool :=
  request.action.isResume &&
    (request.state = .accepted ||
      (request.state = .running &&
        request.leaseExpiresAt.any fun expiry => expiry < claimedAt))

structure RuntimeControlClaimRow where
  request : ControlRequest
  operation : Operation
  submission : Submission

/-- The request joined with its operation and submission. -/
def Store.joinRequest (db : Store) (request : ControlRequest) : Option RuntimeControlClaimRow := do
  let operation ← db.operations.find? request.operationId
  let submission ← db.submissionOf operation
  some ⟨request, operation, submission⟩

/-- The claimable request of least creation time and id, among the rows that no other
transaction has locked. -/
def Store.nextControlRow (env : Environment) (db : Store) (claimedAt : Instant)
    (skipped : List String) : Option RuntimeControlClaimRow :=
  ((db.controlRequests.select fun request =>
    request.controlRequestId ∉ skipped && request.claimable claimedAt).insertionSort fun a b =>
      a.createdAt < b.createdAt ||
        (a.createdAt = b.createdAt &&
          env.collate a.controlRequestId b.controlRequestId)).findSome? db.joinRequest

/-- The stored receipts of a snapshot, `ORDER BY effect_receipt_id`. -/
def Store.receiptsOf (env : Environment) (db : Store) (snapshotId : String) :
    List EffectReceipt :=
  ((db.effectReceipts.select fun row => row.snapshotId = snapshotId).map
    EffectReceiptRow.receipt).insertionSort
    fun a b => env.collate a.effectReceiptId b.effectReceiptId

def failControlRequest (code : RuntimeControlErrorCode) (message : String) (claimedAt : Instant)
    (request : ControlRequest) : ControlRequest :=
  { request with
    state := .failed
    workerId := none
    leaseExpiresAt := none
    resultPayload := some (.error ⟨code, message⟩)
    updatedAt := claimedAt }

def Store.failRequest (db : Store) (controlRequestId : String) (code : RuntimeControlErrorCode)
    (message : String) (claimedAt : Instant) : Store :=
  { db with
    controlRequests := db.controlRequests.update controlRequestId
      (failControlRequest code message claimedAt) }

def leaseControlRequest (workerId : String) (leaseExpiresAt claimedAt : Instant)
    (request : ControlRequest) : ControlRequest :=
  { request with
    state := .running
    workerId := some workerId
    leaseExpiresAt := some leaseExpiresAt
    updatedAt := claimedAt }

/-- The store in which a request and its operation are leased to a worker. -/
def Store.leaseRequest (db : Store) (request : ControlRequest) (workerId : String)
    (leaseDurationMs : Nat) (claimedAt : Instant) : Store :=
  { db with
    controlRequests := db.controlRequests.update request.controlRequestId
      (leaseControlRequest workerId (claimedAt + leaseDurationMs) claimedAt)
    operations := db.operations.update request.operationId fun operation =>
      leaseOperation operation.agentRunId workerId (claimedAt + leaseDurationMs) claimedAt
        operation }

/-- The request, its operation and the paused payload agree on what is resumed. -/
def RuntimeControlClaimRow.consistent (row : RuntimeControlClaimRow) : Bool :=
  let operationCanBeClaimed :=
    if row.request.state = .running then row.operation.state = .running
    else row.operation.state.isPaused
  (decodeExecuteDecisionTaskCommandV1 row.submission.command).isOk && operationCanBeClaimed &&
    ((decodePausedPayload row.operation.resultPayload).any fun paused =>
      some paused.snapshot.snapshotId = row.request.action.runtimeSnapshotId &&
        paused.snapshot.agentRunId = row.request.agentRunId &&
        paused.snapshot.decisionTaskId = row.request.decisionTaskId) &&
    row.request.confirmation =
      some ⟨row.request.controlRequestId, row.request.ownerUserId⟩

/-- The stored facts of a resume request, decoded. -/
def Store.decodedFacts (env : Environment) (db : Store) (request : ControlRequest) :
    Option (RuntimeSnapshot × List EffectReceipt) := do
  let snapshotId ← request.action.runtimeSnapshotId
  let fact ← db.recoveryFacts.find? snapshotId
  let snapshot ← (decodeRuntimeSnapshotV1 fact.snapshot).toOption
  let receipts := db.receiptsOf env snapshotId
  if receipts.all fun receipt => (decodeEffectReceiptV1 receipt).isOk then
    some (snapshot, receipts)
  else none

/-- The event of a resume, unless the request is reclaimed from another worker. -/
def recordResuming (env : Environment) (request : ControlRequest) (claimedAt : Instant)
    (db : Store) : Except PersistenceError Store := do
  if request.state = .running then .ok db
  else
    let existingEvents ← loadRunEvents request.decisionTaskId request.agentRunId db
    insertTaskEvent env request.decisionTaskId request.agentRunId (existingEvents.length + 1)
      .taskStateChanged .understanding "决策任务正在安全恢复" claimedAt db

/-- The branch that hands the operation out. -/
def leaseControl (env : Environment) (row : RuntimeControlClaimRow) (snapshot : RuntimeSnapshot)
    (effectReceipts : List EffectReceipt) (workerId : String) (leaseDurationMs : Nat)
    (claimedAt : Instant) (db : Store) :
    Except PersistenceError (RuntimeControlClaimResult × Store) := do
  let request := row.request
  let db₁ ← recordResuming env request claimedAt
    (db.leaseRequest request workerId leaseDurationMs claimedAt)
  .ok
    (.claimed
      { controlRequestId := request.controlRequestId
        operationId := request.operationId
        decisionTaskId := request.decisionTaskId
        agentRunId := request.agentRunId
        ownerUserId := request.ownerUserId
        correlationId := request.correlationId
        egressConfirmation := ⟨request.controlRequestId, request.ownerUserId⟩
        command := row.submission.command
        snapshot, effectReceipts },
      db₁)

/-- The branch that rejects a request whose facts do not permit a resume. -/
def denyControl (env : Environment) (row : RuntimeControlClaimRow) (snapshot : RuntimeSnapshot)
    (decision : RecoveryDecision) (claimedAt : Instant) (db : Store) :
    Except PersistenceError (RuntimeControlClaimResult × Store) := do
  let request := row.request
  if decision = .manualVerificationRequired then
    let db₁ := db.failRequest request.controlRequestId .runtimeResumeDenied
      "副作用状态需要人工核验" claimedAt
    let existingEvents ← loadRunEvents request.decisionTaskId request.agentRunId db₁
    let db₂ ← insertTaskEvent env request.decisionTaskId request.agentRunId
      (existingEvents.length + 1) .taskStateChanged snapshot.taskState
      "副作用状态需要人工核验" claimedAt db₁
    .ok (.empty, db₂)
  else
    .ok (.empty, db.failRequest request.controlRequestId .runtimeResumeDenied
      "Runtime 快照不允许原位恢复" claimedAt)

def claimNextRuntimeControl (env : Environment) (workerId : String) (leaseDurationMs : Nat)
    (skipped : List String) (claimedAt : Instant) (db : Store) :
    Except PersistenceError (RuntimeControlClaimResult × Store) :=
  match db.nextControlRow env claimedAt skipped with
  | none => .ok (.empty, db)
  | some row =>
    if !row.consistent then
      .ok (.empty, db.failRequest row.request.controlRequestId .runtimeSnapshotInvalid
        "恢复请求与权威任务状态不一致" claimedAt)
    else match db.decodedFacts env row.request with
      | none =>
        .ok (.empty, db.failRequest row.request.controlRequestId .persistenceUnavailable
          "权威 Runtime 恢复事实不可用" claimedAt)
      | some (snapshot, effectReceipts) =>
        let permission := evaluateRuntimeRecoveryPermissionV1 snapshot effectReceipts
        if permission.decision = .resumeAllowed then
          leaseControl env row snapshot effectReceipts workerId leaseDurationMs claimedAt db
        else denyControl env row snapshot permission.decision claimedAt db

section Specs
variable {env : Environment} {now : Instant} {db db' : Store}

theorem latestOperation_mem {decisionTaskId ownerUserId : String} {operation : Operation}
    (h : db.latestOperation decisionTaskId ownerUserId = some operation) :
    operation ∈ db.operations ∧ operation.decisionTaskId = decisionTaskId ∧
      db.ownerOf operation = some ownerUserId := by
  have hmem := List.argmax_mem h
  simp only [Store.operationsOf, Table.mem_select, Bool.and_eq_true, decide_eq_true_eq] at hmem
  exact hmem

theorem insertControlRequest_ok {request : ControlRequest}
    (h : insertControlRequest request db = .ok db') :
    (db.agentRuns.find? request.agentRunId).isSome ∧
      ∃ controlRequests, db.controlRequests.insert? request = some controlRequests ∧
        db' = { db with controlRequests } := by
  unfold insertControlRequest at h
  split at h
  · cases h
  rename_i hforeign
  simp only [bind_eq_ok, orUnavailable_eq_ok] at h
  obtain ⟨controlRequests, hinsert, h⟩ := h
  cases h
  refine ⟨?_, controlRequests, hinsert, rfl⟩
  simp only [Bool.or_eq_true, not_or, Option.isNone_iff_eq_none] at hforeign
  exact Option.isSome_iff_ne_none.mpr hforeign.1.2

theorem requestRuntimeResume_ok {input : RuntimeResumeRequestInput}
    {status : Option RuntimeControlStatus}
    (h : requestRuntimeResume input now db = .ok (status, db')) :
    db' = db ∨ ∃ operation,
      db.latestOperation input.decisionTaskId input.ownerUserId = some operation ∧
      operation.state.isPaused = true ∧
      insertControlRequest (resumeRequest input operation now) db = .ok db' := by
  unfold requestRuntimeResume at h
  split at h
  · cases h
  split at h
  · cases h
    exact .inl rfl
  rename_i operation hlatest
  simp only at h
  split at h
  · split at h
    · simp only [bind_eq_ok] at h
      obtain ⟨_, -, h⟩ := h
      cases h
      exact .inl rfl
    · cases h
  · simp only [bind_eq_ok] at h
    obtain ⟨snapshot, -, h⟩ := h
    split at h
    · cases h
    rename_i hpaused
    rw [not_or, Bool.not_eq_true', Bool.not_eq_false] at hpaused
    simp only [bind_eq_ok] at h
    obtain ⟨db₁, hinsert, _, -, h⟩ := h
    cases h
    exact .inr ⟨operation, hlatest, hpaused.1, hinsert⟩

/-- The event of a cancellation. -/
def cancelEvent (env : Environment) (operation : Operation) (cancelledAt : Instant)
    (db : Store) : RunEvent :=
  taskEvent env operation.decisionTaskId operation.agentRunId
    ((db.runEventsOf operation.decisionTaskId operation.agentRunId).length + 1)
    .taskStateChanged .cancelled "决策任务已取消" cancelledAt db

/-- Only the control row of one run changes, and it is cancelled. -/
structure CancelsRow (states states' : Table ControlState.agentRunId) (agentRunId : String) :
    Prop where
  elsewhere : states.SameElsewhere states' agentRunId
  cancelled : ∃ row, states'.find? agentRunId = some row ∧ row.state = .cancelled

theorem cancelControlState_ok {agentRunId cancellationId : String} {event : RunEvent}
    (h : cancelControlState agentRunId cancellationId event now db = .ok db') :
    ∃ controlStates, db' = { db with controlStates } ∧
      CancelsRow db.controlStates controlStates agentRunId := by
  unfold cancelControlState at h
  simp only at h
  split at h
  · simp only [bind_eq_ok, orUnavailable_eq_ok] at h
    obtain ⟨controlStates, hinsert, h⟩ := h
    cases h
    have hrow := Table.find?_of_mem ((Table.mem_insert? hinsert).mpr (.inr rfl))
    exact ⟨_, rfl, .insert hinsert, _, hrow, rfl⟩
  · rename_i row hrow
    cases h
    refine ⟨_, rfl, .update, ?_⟩
    rw [Table.find?_update_self, hrow]
    exact ⟨_, rfl, rfl⟩

theorem requestRuntimeCancel_ok {input : RuntimeCancelRequestInput}
    {status : Option RuntimeControlStatus}
    (h : requestRuntimeCancel env input now db = .ok (status, db')) :
    db' = db ∨ ∃ operation controlRequests controlStates,
      db.latestOperation input.decisionTaskId input.ownerUserId = some operation ∧
      operation.state.isFinal = false ∧
      db.controlRequests.insert? (cancelRequest input operation now) = some controlRequests ∧
      CancelsRow db.controlStates controlStates operation.agentRunId ∧
      Appends
        { db with
          controlRequests, controlStates
          operations := db.operations.update operation.operationId (cancelledOperation now)
            (cancelledOperation_operationId now) }
        [cancelEvent env operation now db] db' := by
  unfold requestRuntimeCancel at h
  split at h
  · cases h
    exact .inl rfl
  rename_i operation hlatest
  simp only at h
  split at h
  · split at h
    · simp only [bind_eq_ok] at h
      obtain ⟨_, -, h⟩ := h
      cases h
      exact .inl rfl
    · cases h
  · split at h
    · cases h
    rename_i hstate
    simp only [bind_eq_ok] at h
    obtain ⟨existingEvents, hload, db₁, hinsert, db₂, hcontrol, db₃, hevent, _, -, h⟩ := h
    cases h
    obtain ⟨-, controlRequests, hrequests, rfl⟩ := insertControlRequest_ok hinsert
    obtain ⟨controlStates, rfl, hkeys⟩ := cancelControlState_ok hcontrol
    rw [loadRunEvents_eq hload] at hevent
    exact .inr ⟨operation, controlRequests, controlStates, hlatest,
      by simpa using hstate, hrequests, hkeys, insertTaskEvent_appends hevent⟩

theorem nextControlRow_ok {skipped : List String} {row : RuntimeControlClaimRow}
    (h : db.nextControlRow env now skipped = some row) :
    row.request ∈ db.controlRequests ∧ row.request.controlRequestId ∉ skipped ∧
      row.request.claimable now = true ∧
      db.operations.find? row.request.operationId = some row.operation ∧
      db.submissionOf row.operation = some row.submission := by
  obtain ⟨request, hrequest, hjoin⟩ := List.exists_of_findSome?_eq_some h
  rw [List.mem_insertionSort] at hrequest
  simp only [Table.mem_select, Bool.and_eq_true, decide_eq_true_eq] at hrequest
  simp only [Store.joinRequest, Option.bind_eq_bind, Option.bind_eq_some_iff,
    Option.some.injEq] at hjoin
  obtain ⟨operation, hoperation, submission, hsubmission, rfl⟩ := hjoin
  exact ⟨hrequest.1, hrequest.2.1, hrequest.2.2, hoperation, hsubmission⟩

/-- The event of a resume, which a reclaimed request does not repeat. -/
def resumingEvents (env : Environment) (request : ControlRequest) (claimedAt : Instant)
    (db : Store) : List RunEvent :=
  if request.state = .running then []
  else [taskEvent env request.decisionTaskId request.agentRunId
    ((db.runEventsOf request.decisionTaskId request.agentRunId).length + 1) .taskStateChanged
    .understanding "决策任务正在安全恢复" claimedAt db]

theorem agentRunId_resumingEvents {request : ControlRequest} :
    ∀ event ∈ resumingEvents env request now db, event.agentRunId = request.agentRunId := by
  intro event hevent
  unfold resumingEvents at hevent
  split at hevent
  · cases hevent
  · rw [List.mem_singleton.mp hevent]
    rfl

theorem taskState_resumingEvents {request : ControlRequest} :
    ∀ event ∈ resumingEvents env request now db, event.taskState = .understanding := by
  intro event hevent
  unfold resumingEvents at hevent
  split at hevent
  · cases hevent
  · rw [List.mem_singleton.mp hevent]
    rfl

/-- Only paused snapshots are denied for manual verification. -/
theorem taskState_of_manual {snapshot : RuntimeSnapshot} {effectReceipts : List EffectReceipt}
    (h : (evaluateRuntimeRecoveryPermissionV1 snapshot effectReceipts).decision =
      .manualVerificationRequired) : snapshot.taskState.isPaused = true := by
  unfold evaluateRuntimeRecoveryPermissionV1 at h
  split at h
  · cases h
  split at h
  · cases h
  · rename_i hpaused
    simpa using hpaused

/-- The event of a denial that asks for manual verification. -/
def manualEvent (env : Environment) (request : ControlRequest) (taskState : TaskState)
    (claimedAt : Instant) (db : Store) : RunEvent :=
  taskEvent env request.decisionTaskId request.agentRunId
    ((db.runEventsOf request.decisionTaskId request.agentRunId).length + 1) .taskStateChanged
    taskState "副作用状态需要人工核验" claimedAt db

/-- What `claimNextRuntimeControl` does with the row that it has selected. -/
inductive ControlClaimed (env : Environment) (row : RuntimeControlClaimRow) (workerId : String)
    (leaseDurationMs : Nat) (claimedAt : Instant) (db : Store) :
    RuntimeControlClaimResult → Store → Prop where
  | rejected (code : RuntimeControlErrorCode) (message : String)
      (hmessage : isMeaningful message = true) :
      ControlClaimed env row workerId leaseDurationMs claimedAt db .empty
        (db.failRequest row.request.controlRequestId code message claimedAt)
  | manual {snapshot : RuntimeSnapshot} {effectReceipts : List EffectReceipt} {db' : Store}
      (hconsistent : row.consistent = true)
      (hfacts : db.decodedFacts env row.request = some (snapshot, effectReceipts))
      (hdecision : (evaluateRuntimeRecoveryPermissionV1 snapshot effectReceipts).decision =
        .manualVerificationRequired)
      (happends : Appends
        (db.failRequest row.request.controlRequestId .runtimeResumeDenied
          "副作用状态需要人工核验" claimedAt)
        [manualEvent env row.request snapshot.taskState claimedAt db] db') :
      ControlClaimed env row workerId leaseDurationMs claimedAt db .empty db'
  | leased {snapshot : RuntimeSnapshot} {effectReceipts : List EffectReceipt}
      {claim : RuntimeControlClaim} {db' : Store}
      (hconsistent : row.consistent = true)
      (hfacts : db.decodedFacts env row.request = some (snapshot, effectReceipts))
      (hdecision : (evaluateRuntimeRecoveryPermissionV1 snapshot effectReceipts).decision =
        .resumeAllowed)
      (hoperation : claim.operationId = row.request.operationId)
      (hrun : claim.agentRunId = row.request.agentRunId)
      (happends : Appends (db.leaseRequest row.request workerId leaseDurationMs claimedAt)
        (resumingEvents env row.request claimedAt db) db') :
      ControlClaimed env row workerId leaseDurationMs claimedAt db (.claimed claim) db'

variable {workerId : String} {leaseDurationMs : Nat}

theorem recordResuming_ok {request : ControlRequest}
    (h : recordResuming env request now db = .ok db') :
    Appends db (resumingEvents env request now db) db' := by
  unfold recordResuming at h
  unfold resumingEvents
  split at h
  · rename_i hstate
    rw [if_pos hstate]
    cases h
    exact .refl _
  · rename_i hstate
    rw [if_neg hstate]
    simp only [bind_eq_ok] at h
    obtain ⟨existingEvents, hload, hevent⟩ := h
    rw [loadRunEvents_eq hload] at hevent
    exact insertTaskEvent_appends hevent

theorem leaseControl_ok {row : RuntimeControlClaimRow} {snapshot : RuntimeSnapshot}
    {effectReceipts : List EffectReceipt} {result : RuntimeControlClaimResult}
    (h : leaseControl env row snapshot effectReceipts workerId leaseDurationMs now db =
      .ok (result, db')) :
    ∃ claim, result = .claimed claim ∧ claim.operationId = row.request.operationId ∧
      claim.agentRunId = row.request.agentRunId ∧
      Appends (db.leaseRequest row.request workerId leaseDurationMs now)
        (resumingEvents env row.request now db) db' := by
  simp only [leaseControl, bind_eq_ok] at h
  obtain ⟨db₁, hevents, h⟩ := h
  cases h
  exact ⟨_, rfl, rfl, rfl, recordResuming_ok hevents⟩

theorem claimNextRuntimeControl_ok {skipped : List String} {result : RuntimeControlClaimResult}
    (h : claimNextRuntimeControl env workerId leaseDurationMs skipped now db =
      .ok (result, db')) :
    (result = .empty ∧ db' = db) ∨ ∃ row, db.nextControlRow env now skipped = some row ∧
      ControlClaimed env row workerId leaseDurationMs now db result db' := by
  unfold claimNextRuntimeControl at h
  split at h
  · cases h
    exact .inl ⟨rfl, rfl⟩
  rename_i row hnext
  refine .inr ⟨row, hnext, ?_⟩
  split at h
  · cases h
    exact .rejected _ _ (by decide)
  rename_i hconsistent
  rw [Bool.not_eq_true', Bool.not_eq_false] at hconsistent
  split at h
  · cases h
    exact .rejected _ _ (by decide)
  rename_i snapshot effectReceipts hfacts
  simp only at h
  split at h
  · rename_i hdecision
    obtain ⟨claim, rfl, hoperation, hrun, happends⟩ := leaseControl_ok h
    exact .leased hconsistent hfacts hdecision hoperation hrun happends
  · unfold denyControl at h
    split at h
    · rename_i hdecision
      simp only [bind_eq_ok] at h
      obtain ⟨existingEvents, hload, db₁, hevent, h⟩ := h
      cases h
      rw [loadRunEvents_eq hload] at hevent
      exact .manual hconsistent hfacts hdecision (insertTaskEvent_appends hevent)
    · cases h
      exact .rejected _ _ (by decide)

theorem consistent_state {row : RuntimeControlClaimRow} (h : row.consistent = true) :
    (row.request.state = .running ∧ row.operation.state = .running) ∨
      (row.request.state ≠ .running ∧ row.operation.state.isPaused = true) := by
  unfold RuntimeControlClaimRow.consistent at h
  simp only [Bool.and_eq_true] at h
  obtain ⟨⟨⟨-, hstate⟩, -⟩, -⟩ := h
  split at hstate
  · rename_i hrunning
    exact .inl ⟨hrunning, by simpa using hstate⟩
  · rename_i hnot
    exact .inr ⟨hnot, by simpa using hstate⟩

end Specs

end ChoiceMind.TaskPersistence
