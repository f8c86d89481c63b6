import ChoiceMind.TaskPersistence.Recovery

/-!
# Private data

Audit records, credentials and the evidence index, and `purgePrivateDataForOwner` with
every foreign key that its deletions have to respect.
-/

namespace ChoiceMind.TaskPersistence

set_option autoImplicit false

open Contracts

structure AuditActor where
  principalId : String
  role : ActorRole
  userId : String
  deriving DecidableEq

structure AuditRecordInput where
  actor : AuditActor
  action : String
  objectType : String
  objectId : String
  result : String
  correlationId : String
  deriving DecidableEq

/-- The check on `actor_role`, which does not admit `SYSTEM`. -/
def ActorRole.admitted : ActorRole → Bool
  | .system => false
  | _ => true

def appendAuditRecord (env : Environment) (record : AuditRecordInput) (occurredAt : Instant)
    (db : Store) : Except PersistenceError Store := do
  if !record.actor.role.admitted then unavailable
  else
    let auditRecords ← orUnavailable (db.auditRecords.insert?
      ⟨env.randomUUID db.uuidsDrawn, record.actor.principalId, record.actor.userId,
        record.actor.role, record.action, record.objectType, record.objectId, record.result,
        record.correlationId, occurredAt⟩)
    .ok { db with auditRecords, uuidsDrawn := db.uuidsDrawn + 1 }

def saveEncryptedCredential (key : CredentialKey) (envelope : CredentialEnvelope) (savedAt : Instant)
    (db : Store) : Except PersistenceError Store := do
  match db.credentials.find? key with
  | some _ =>
    .ok { db with
      credentials := db.credentials.update key fun row =>
        { row with envelope, updatedAt := savedAt } }
  | none =>
    .ok { db with
      credentials := ← orUnavailable (db.credentials.insert? ⟨key, envelope, savedAt, savedAt⟩) }

def deleteEncryptedCredential (key : CredentialKey) (db : Store) : Bool × Store :=
  ((db.credentials.find? key).isSome,
    { db with credentials := db.credentials.deleteWhere fun row => row.key = key })

/-- `save` of the evidence index, `ON CONFLICT (evidence_id) DO NOTHING`. -/
def saveEvidence (row : EvidenceIndexRow) (db : Store) : Store :=
  match db.evidenceIndex.insert? row with
  | some evidenceIndex => { db with evidenceIndex }
  | none => db

/-- The ids that the first statements of a purge collect. -/
structure PurgeScope where
  taskIds : List String
  executionRequestIds : List String
  operationIds : List String
  agentRunIds : List String
  snapshotIds : List String
  snapshotDigests : List String
  effectResultDigests : List String
  eventCursors : List Nat
  credentialIds : List String

def Store.purgeScope (db : Store) (ownerUserId : String) : PurgeScope :=
  let submissions := db.submissions.select fun row => row.ownerUserId = ownerUserId
  let executionRequestIds := submissions.map Submission.executionRequestId
  let operations := db.operations.select fun row => row.executionRequestId ∈ executionRequestIds
  let agentRunIds := operations.map Operation.agentRunId
  let snapshots := db.recoveryFacts.select fun row => row.agentRunId ∈ agentRunIds
  { taskIds := submissions.map Submission.decisionTaskId
    executionRequestIds
    operationIds := operations.map Operation.operationId
    agentRunIds
    snapshotIds := snapshots.map RecoveryFact.snapshotId
    snapshotDigests := snapshots.map RecoveryFact.rawSnapshotDigest
    effectResultDigests := (db.effectResultBindings.select fun row =>
      row.identity.agentRunId ∈ agentRunIds).map EffectResultBinding.digest
    eventCursors := (db.runEvents.select fun row =>
      row.event.agentRunId ∈ agentRunIds).map RunEventRow.cursor
    credentialIds := (db.credentials.select fun row =>
      row.key.ownerUserId = ownerUserId).map fun row => row.key.credentialId }

/-- `deleted_${sha256(ownerUserId).slice(0, 16)}` -/
def pseudonym (env : Environment) (ownerUserId : String) : String :=
  "deleted_" ++ String.ofList ((env.sha256 ownerUserId).toList.take 16)

/-- The two audit updates of a purge: the owner as actor, then the private object ids. -/
def pseudonymiseAudit (env : Environment) (ownerUserId : String) (privateObjectIds : List String)
    (db : Store) : Store :=
  let byActor := db.auditRecords.updateWhere (fun row => row.actorUserId = ownerUserId) fun row =>
    { row with
      actorPrincipalId := pseudonym env ownerUserId
      actorUserId := pseudonym env ownerUserId }
  { db with
    auditRecords := byActor.updateWhere (fun row => row.objectId ∈ privateObjectIds) fun row =>
      { row with objectId := pseudonym env ownerUserId } }

/-- The deletions from tables that nothing refers to. -/
def deleteUnreferenced (scope : PurgeScope) (db : Store) : Store :=
  { db with
    notifications := db.notifications.deleteWhere fun row => row.eventCursor ∈ scope.eventCursors
    controlRequests := db.controlRequests.deleteWhere fun row =>
      row.operationId ∈ scope.operationIds
    controlStates := db.controlStates.deleteWhere fun row => row.agentRunId ∈ scope.agentRunIds
    effectReceipts := db.effectReceipts.deleteWhere fun row => row.snapshotId ∈ scope.snapshotIds
    effectResultBindings := db.effectResultBindings.deleteWhere fun row =>
      row.identity.agentRunId ∈ scope.agentRunIds
    evidenceIndex := db.evidenceIndex.deleteWhere fun row =>
      row.decisionTaskId ∈ scope.taskIds }

/-- The notifications refer to run events. -/
def deleteRunEvents (agentRunIds : List String) (db : Store) : Except PersistenceError Store := do
  .ok { db with
    runEvents := ← orUnavailable (db.runEvents.deleteRestricted
      (fun row => row.event.agentRunId ∈ agentRunIds)
      fun row => db.notifications.rows.any fun child => child.eventCursor = row.cursor) }

/-- Receipts, control states and control requests refer to recovery facts. -/
def deleteRecoveryFacts (snapshotIds : List String) (db : Store) :
    Except PersistenceError Store := do
  .ok { db with
    recoveryFacts := ← orUnavailable (db.recoveryFacts.deleteRestricted
      (fun row => row.snapshotId ∈ snapshotIds)
      fun row =>
        (db.effectReceipts.rows.any fun child => child.snapshotId = row.snapshotId) ||
        (db.controlStates.rows.any fun child => child.snapshotId = some row.snapshotId) ||
        db.controlRequests.rows.any fun child =>
          child.action.runtimeSnapshotId = some row.snapshotId) }

/-- Run events and control requests refer to agent runs. -/
def deleteAgentRuns (operationIds : List String) (db : Store) :
    Except PersistenceError Store := do
  .ok { db with
    agentRuns := ← orUnavailable (db.agentRuns.deleteRestricted
      (fun row => row.operationId ∈ operationIds)
      fun row =>
        (db.runEvents.rows.any fun child => child.event.agentRunId = row.agentRunId) ||
        db.controlRequests.rows.any fun child => child.agentRunId = row.agentRunId) }

/-- Outbox messages, agent runs and control requests refer to operations. -/
def deleteOperations (operationIds : List String) (db : Store) :
    Except PersistenceError Store := do
  let db₁ := { db with
    outbox := db.outbox.deleteWhere fun row => row.operationId ∈ operationIds }
  .ok { db₁ with
    operations := ← orUnavailable (db₁.operations.deleteRestricted
      (fun row => row.operationId ∈ operationIds)
      fun row =>
        (db₁.outbox.rows.any fun child => child.operationId = row.operationId) ||
        (db₁.agentRuns.rows.any fun child => child.operationId = row.operationId) ||
        db₁.controlRequests.rows.any fun child => child.operationId = row.operationId) }

/-- Operations refer to submissions. -/
def deleteSubmissions (ownerUserId : String) (db : Store) : Except PersistenceError Store := do
  .ok { db with
    submissions := ← orUnavailable (db.submissions.deleteRestricted
      (fun row => row.ownerUserId = ownerUserId)
      fun row => db.operations.rows.any fun child =>
        child.executionRequestId = row.executionRequestId) }

/-- Content objects of the scope that no row refers to any more, and the owner's egress
records and credentials. -/
def deleteOwned (ownerUserId : String) (scope : PurgeScope) (db : Store) : Store :=
  { db with
    effectResultObjects := db.effectResultObjects.deleteWhere fun row =>
      row.digest ∈ scope.effectResultDigests &&
        !db.effectResultBindings.rows.any fun child => child.digest = row.digest
    snapshotObjects := db.snapshotObjects.deleteWhere fun row =>
      row.digest ∈ scope.snapshotDigests &&
        !db.recoveryFacts.rows.any fun child => child.rawSnapshotDigest = row.digest
    egressRecords := db.egressRecords.deleteWhere fun row => row.userId = ownerUserId
    credentials := db.credentials.deleteWhere fun row => row.key.ownerUserId = ownerUserId }

structure PurgeResult where
  deletedCredentials : Nat
  deletedTasks : Nat
  deriving DecidableEq, Repr

def purgePrivateDataForOwner (env : Environment) (ownerUserId : String) (db : Store) :
    Except PersistenceError (PurgeResult × Store) := do
  let scope := db.purgeScope ownerUserId
  let db₁ := deleteUnreferenced scope
    (pseudonymiseAudit env ownerUserId (scope.taskIds ++ scope.credentialIds) db)
  let db₂ ← deleteRunEvents scope.agentRunIds db₁
  let db₃ ← deleteRecoveryFacts scope.snapshotIds db₂
  let db₄ ← deleteAgentRuns scope.operationIds db₃
  let db₅ ← deleteOperations scope.operationIds db₄
  let db₆ ← deleteSubmissions ownerUserId db₅
  .ok (⟨scope.credentialIds.length, scope.taskIds.length⟩, deleteOwned ownerUserId scope db₆)

/-- What a committed purge leaves of every table. -/
def Store.erased (env : Environment) (ownerUserId : String) (db : Store) : Store :=
  let scope := db.purgeScope ownerUserId
  let marked := pseudonymiseAudit env ownerUserId (scope.taskIds ++ scope.credentialIds) db
  deleteOwned ownerUserId scope { deleteUnreferenced scope marked with
    runEvents := db.runEvents.deleteWhere fun row => row.event.agentRunId ∈ scope.agentRunIds
    recoveryFacts := db.recoveryFacts.deleteWhere fun row => row.snapshotId ∈ scope.snapshotIds
    agentRuns := db.agentRuns.deleteWhere fun row => row.operationId ∈ scope.operationIds
    outbox := db.outbox.deleteWhere fun row => row.operationId ∈ scope.operationIds
    operations := db.operations.deleteWhere fun row => row.operationId ∈ scope.operationIds
    submissions := db.submissions.deleteWhere fun row => row.ownerUserId = ownerUserId }

section Specs
variable {env : Environment} {ownerUserId : String} {db db' : Store}

theorem deleteRunEvents_eq_ok {agentRunIds : List String} :
    deleteRunEvents agentRunIds db = .ok db' ↔
      (∀ row ∈ db.runEvents, row.event.agentRunId ∈ agentRunIds →
        ∀ child ∈ db.notifications, child.eventCursor ≠ row.cursor) ∧
      db' = { db with
        runEvents := db.runEvents.deleteWhere fun row => row.event.agentRunId ∈ agentRunIds } := by
  simp only [deleteRunEvents, bind_eq_ok, orUnavailable_eq_ok, Table.deleteRestricted_eq_some,
    decide_eq_true_eq, List.any_eq_false, Except.ok.injEq]
  constructor
  · rintro ⟨_, ⟨hfree, rfl⟩, rfl⟩
    exact ⟨hfree, rfl⟩
  · rintro ⟨hfree, rfl⟩
    exact ⟨_, ⟨hfree, rfl⟩, rfl⟩

theorem deleteRecoveryFacts_eq_ok {snapshotIds : List String} :
    deleteRecoveryFacts snapshotIds db = .ok db' ↔
      (∀ row ∈ db.recoveryFacts, row.snapshotId ∈ snapshotIds →
        (∀ child ∈ db.effectReceipts, child.snapshotId ≠ row.snapshotId) ∧
        (∀ child ∈ db.controlStates, child.snapshotId ≠ some row.snapshotId) ∧
        ∀ child ∈ db.controlRequests,
          child.action.runtimeSnapshotId ≠ some row.snapshotId) ∧
      db' = { db with
        recoveryFacts := db.recoveryFacts.deleteWhere fun row =>
          row.snapshotId ∈ snapshotIds } := by
  simp only [deleteRecoveryFacts, bind_eq_ok, orUnavailable_eq_ok,
    Table.deleteRestricted_eq_some, decide_eq_true_eq, Bool.or_eq_false_iff, List.any_eq_false,
    Except.ok.injEq, and_assoc]
  constructor
  · rintro ⟨_, hfree, rfl, rfl⟩
    exact ⟨hfree, rfl⟩
  · rintro ⟨hfree, rfl⟩
    exact ⟨_, hfree, rfl, rfl⟩

theorem deleteAgentRuns_eq_ok {operationIds : List String} :
    deleteAgentRuns operationIds db = .ok db' ↔
      (∀ row ∈ db.agentRuns, row.operationId ∈ operationIds →
        (∀ child ∈ db.runEvents, child.event.agentRunId ≠ row.agentRunId) ∧
        ∀ child ∈ db.controlRequests, child.agentRunId ≠ row.agentRunId) ∧
      db' = { db with
        agentRuns := db.agentRuns.deleteWhere fun row => row.operationId ∈ operationIds } := by
  simp only [deleteAgentRuns, bind_eq_ok, orUnavailable_eq_ok, Table.deleteRestricted_eq_some,
    decide_eq_true_eq, Bool.or_eq_false_iff, List.any_eq_false, Except.ok.injEq]
  constructor
  · rintro ⟨_, ⟨hfree, rfl⟩, rfl⟩
    exact ⟨hfree, rfl⟩
  · rintro ⟨hfree, rfl⟩
    exact ⟨_, ⟨hfree, rfl⟩, rfl⟩

theorem deleteOperations_eq_ok {operationIds : List String} :
    deleteOperations operationIds db = .ok db' ↔
      (∀ row ∈ db.operations, row.operationId ∈ operationIds →
        (∀ child ∈ db.agentRuns, child.operationId ≠ row.operationId) ∧
        ∀ child ∈ db.controlRequests, child.operationId ≠ row.operationId) ∧
      db' = { db with
        outbox := db.outbox.deleteWhere fun row => row.operationId ∈ operationIds
        operations := db.operations.deleteWhere fun row => row.operationId ∈ operationIds } := by
  simp only [deleteOperations, bind_eq_ok, orUnavailable_eq_ok, Table.deleteRestricted_eq_some,
    decide_eq_true_eq, Bool.or_eq_false_iff, List.any_eq_false, Except.ok.injEq, and_assoc]
  constructor
  · rintro ⟨_, hfree, rfl, rfl⟩
    exact ⟨fun row hrow hin => (hfree row hrow hin).2, rfl⟩
  · rintro ⟨hfree, rfl⟩
    refine ⟨_, fun row hrow hin => ⟨?_, hfree row hrow hin⟩, rfl, rfl⟩
    intro child hchild hkey
    have hdeleted := (Table.mem_deleteWhere.mp hchild).2
    rw [decide_eq_false_iff_not, hkey] at hdeleted
    exact hdeleted hin

theorem deleteSubmissions_eq_ok :
    deleteSubmissions ownerUserId db = .ok db' ↔
      (∀ row ∈ db.submissions, row.ownerUserId = ownerUserId →
        ∀ child ∈ db.operations, child.executionRequestId ≠ row.executionRequestId) ∧
      db' = { db with
        submissions := db.submissions.deleteWhere fun row =>
          row.ownerUserId = ownerUserId } := by
  simp only [deleteSubmissions, bind_eq_ok, orUnavailable_eq_ok, Table.deleteRestricted_eq_some,
    decide_eq_true_eq, List.any_eq_false, Except.ok.injEq]
  constructor
  · rintro ⟨_, ⟨hfree, rfl⟩, rfl⟩
    exact ⟨hfree, rfl⟩
  · rintro ⟨hfree, rfl⟩
    exact ⟨_, ⟨hfree, rfl⟩, rfl⟩

/-- A record of another actor about another object is not rewritten. -/
theorem mem_pseudonymiseAudit {privateObjectIds : List String} {record : AuditRecord}
    (hrecord : record ∈ db.auditRecords) (hactor : record.actorUserId ≠ ownerUserId)
    (hobject : record.objectId ∉ privateObjectIds) :
    record ∈ (pseudonymiseAudit env ownerUserId privateObjectIds db).auditRecords := by
  simp only [pseudonymiseAudit, Table.mem_updateWhere, decide_eq_true_eq]
  exact ⟨record, ⟨record, hrecord, if_neg hactor⟩, if_neg hobject⟩

theorem purgePrivateDataForOwner_ok {result : PurgeResult}
    (h : purgePrivateDataForOwner env ownerUserId db = .ok (result, db')) :
    db' = db.erased env ownerUserId := by
  simp only [purgePrivateDataForOwner, bind_eq_ok, deleteRunEvents_eq_ok,
    deleteRecoveryFacts_eq_ok, deleteAgentRuns_eq_ok, deleteOperations_eq_ok,
    deleteSubmissions_eq_ok] at h
  obtain ⟨_, ⟨-, rfl⟩, _, ⟨-, rfl⟩, _, ⟨-, rfl⟩, _, ⟨-, rfl⟩, _, ⟨-, rfl⟩, h⟩ := h
  cases h
  rfl

theorem appendAuditRecord_ok {record : AuditRecordInput} {now : Instant}
    (h : appendAuditRecord env record now db = .ok db') :
    ∃ auditRecords, db.auditRecords.insert?
        ⟨env.randomUUID db.uuidsDrawn, record.actor.principalId, record.actor.userId,
          record.actor.role, record.action, record.objectType, record.objectId, record.result,
          record.correlationId, now⟩ = some auditRecords ∧
      db' = { db with auditRecords, uuidsDrawn := db.uuidsDrawn + 1 } := by
  unfold appendAuditRecord at h
  split at h
  · cases h
  simp only [bind_eq_ok, orUnavailable_eq_ok] at h
  obtain ⟨auditRecords, hinsert, h⟩ := h
  cases h
  exact ⟨auditRecords, hinsert, rfl⟩

theorem saveEncryptedCredential_ok {key : CredentialKey} {envelope : CredentialEnvelope} {now : Instant}
    (h : saveEncryptedCredential key envelope now db = .ok db') :
    ∃ credentials, db' = { db with credentials } ∧
      ∀ row ∈ credentials, row.key = key ∨ row ∈ db.credentials := by
  unfold saveEncryptedCredential at h
  split at h
  · cases h
    refine ⟨_, rfl, fun row hrow => ?_⟩
    obtain ⟨old, hold, rfl⟩ := Table.mem_update.mp hrow
    split
    · rename_i hkey
      exact .inl hkey
    · exact .inr hold
  · simp only [bind_eq_ok, orUnavailable_eq_ok] at h
    obtain ⟨credentials, hinsert, h⟩ := h
    cases h
    refine ⟨credentials, rfl, fun row hrow => ?_⟩
    rcases (Table.mem_insert? hinsert).mp hrow with hold | rfl
    · exact .inr hold
    · exact .inl rfl

theorem saveEvidence_eq (row : EvidenceIndexRow) (db : Store) :
    ∃ evidenceIndex, saveEvidence row db = { db with evidenceIndex } ∧
      ∀ r ∈ evidenceIndex, r = row ∨ r ∈ db.evidenceIndex := by
  unfold saveEvidence
  split
  · rename_i evidenceIndex hinsert
    exact ⟨evidenceIndex, rfl, fun r hr => ((Table.mem_insert? hinsert).mp hr).symm⟩
  · exact ⟨db.evidenceIndex, rfl, fun r hr => .inr hr⟩

end Specs

end ChoiceMind.TaskPersistence
